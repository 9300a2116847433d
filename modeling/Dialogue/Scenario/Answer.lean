import Dialogue.Error
import Dialogue.Event
import Dialogue.Ring.Growth

/-!
# Scenarios

A scenario is a list of steps that a user takes; the answer to a step is its result with what could be observed
meanwhile. No scenario runs out of memory.

* `Result`: what a step gives;
* `Observed`: a result with the events and log lines of its step.
-/

namespace Dialogue.Scenario

instance : Memory := .plenty

/-- What a step gives. What would block was not tried, and what is stuck waits for something that never comes; an
endpoint, handle or watcher may be missing. -/
inductive Result where
  | ok
  | nothing
  | bool (b : Bool)
  | count (n : Nat)
  | bytes (bs : Bytes)
  | text (t : Text)
  | pending
  | wouldBlock
  | stuck
  | missing (what : Text)
  | error (e : Error)
  | bufferError (e : BufferError)
  | ioError (e : BufferError)
  | panic (text : Text)
  | each (results : List (Except Stop Unit))
  | state (size : Nat) (empty exhausted ordered : Bool)
  | output (stdout stderr : Text)
  | left (stdout stderr stdin : Bool)
  | made (started : Bool)

def Result.ofUnit : Except Error Unit → Result
  | .ok _ => .ok
  | .error e => .error e

def Result.ofStop : Stop → Result
  | .error e => .error e
  | .panic shown => .panic shown

def Result.noWriter : Result := .missing (Text.lit "no_writer")

def Result.noReader : Result := .missing (Text.lit "no_reader")

/-- A result with the events and the log lines of its step, in order. -/
structure Observed where
  result : Result
  events : List Event
  logs : List Text

end Dialogue.Scenario
