import Dialogue.Encoding.Name
import Dialogue.Text.Quoted
import Dialogue.Text.Duration

/-!
# What can go wrong

The causes for which watching a command, answering it or buffering its output stops, each with its message.

* `Stream`: the three standard streams;
* `StreamError`, `MatchError`, `CallbackError`, `BufferError`, `WatchError`, joined in `Error`;
* `Error.message`, `Error.chain`: the wording, alone and with the wording of each inner cause;
* `Stop`: why a piece of work ended early, by an error or by a panic.
-/

namespace Dialogue

/-- The standard streams of a command. -/
inductive Stream where
  | stdout
  | stderr
  | stdin
  deriving DecidableEq, Repr

def Stream.name : Stream → Text
  | .stdout => Text.lit "stdout"
  | .stderr => Text.lit "stderr"
  | .stdin => Text.lit "stdin"

/-- Faults of the streams of a command, and of the bytes they carry. Of malformed bytes, those after the first `valid`
ones are in no way the form of a text; a stream is unavailable when it was taken before, or the command never had it. -/
inductive StreamError where
  | read (reason : Text)
  | write (reason : Text)
  | malformed (encoding : Encoding) (valid : Nat)
  | unencodable (encoding : Encoding) (char : Char)
  | unavailable (stream : Stream)
  deriving DecidableEq, Repr

/-- Faults of prompts and of sets of them: `count` prompts accept the same token, or a pattern cannot be read. -/
inductive MatchError where
  | ambiguous (token : Text) (count : Nat)
  | invalidPattern
  deriving DecidableEq, Repr

/-- Failures of replies and actions that the user supplied. -/
inductive CallbackError where
  | reply (reason : Text)
  | action (reason : Text)
  deriving DecidableEq, Repr

/-- Faults of a buffer between two endpoints: a ring of the given length cannot grow to take `needed` more bytes, an
endpoint was closed, or an earlier operation broke off in the middle. -/
inductive BufferError where
  | capacityExceeded (needed length : Nat)
  | closed
  | poisoned
  deriving DecidableEq, Repr

/-- Faults of the task that watches a stream, or copies one. A wait is told in nanoseconds. -/
inductive WatchError where
  | cancelled
  | panicked (text : Text)
  | timeout (nanos : Nat)
  | alreadyJoined
  | copy (stream : Stream) (reason : Text)
  deriving DecidableEq, Repr

/-- Any of the faults above. -/
inductive Error where
  | stream (cause : StreamError)
  | matching (cause : MatchError)
  | callback (cause : CallbackError)
  | buffer (cause : BufferError)
  | watch (cause : WatchError)
  deriving DecidableEq, Repr

def StreamError.message : StreamError → Text
  | .read reason => Text.lit "Read failed: " ++ reason
  | .write reason => Text.lit "Write failed: " ++ reason
  | .malformed encoding valid =>
    Text.lit "Malformed " ++ encoding.name ++ Text.lit " input after " ++ Text.decimal valid ++ Text.lit " valid bytes"
  | .unencodable encoding char =>
    Text.lit "Character " ++ Quoted.char char ++ Text.lit " cannot be encoded as " ++ encoding.name
  | .unavailable stream => Text.lit "Process " ++ stream.name ++ Text.lit " is not available"

def MatchError.message : MatchError → Text
  | .ambiguous token count =>
    Text.lit "Token " ++ Quoted.string token ++ Text.lit " matched by more than one prompt (" ++
      Text.decimal count ++ Text.lit ")"
  | .invalidPattern => Text.lit "Invalid regex pattern"

def CallbackError.message : CallbackError → Text
  | .reply reason => Text.lit "Reply function failed: " ++ reason
  | .action reason => Text.lit "Action failed: " ++ reason

def BufferError.message : BufferError → Text
  | .capacityExceeded needed length =>
    Text.lit "Maximum buffer size exceeded: need " ++ Text.decimal needed ++ Text.lit " more bytes with length " ++
      Text.decimal length
  | .closed => Text.lit "Buffer closed"
  | .poisoned => Text.lit "Buffer lock poisoned"

def WatchError.message : WatchError → Text
  | .cancelled => Text.lit "Watcher cancelled"
  | .panicked text => Text.lit "Watcher panicked: " ++ text
  | .timeout nanos => Text.lit "Watcher did not finish within " ++ Duration.text nanos
  | .alreadyJoined => Text.lit "Watcher result already taken"
  | .copy stream reason => Text.lit "Copying process " ++ stream.name ++ Text.lit " failed: " ++ reason

/-- The fault of a task that panicked; a panic whose payload is no text has none to be told. -/
def WatchError.ofPanic (payload : Option Text) : WatchError := .panicked (payload.getD (Text.lit "unknown panic"))

def StreamError.reason? : StreamError → Option Text
  | .read reason | .write reason => some reason
  | .malformed .. | .unencodable .. | .unavailable .. => none

def CallbackError.reason? : CallbackError → Option Text
  | .reply reason | .action reason => some reason

def WatchError.reason? : WatchError → Option Text
  | .copy _ reason => some reason
  | .cancelled | .panicked .. | .timeout .. | .alreadyJoined => none

namespace Error

/-- The wording of the kind of fault, put in front of the wording of its cause. -/
def heading : Error → Text
  | .stream _ => Text.lit "Stream error: "
  | .matching _ => Text.lit "Match error: "
  | .callback _ => Text.lit "Callback error: "
  | .buffer _ => Text.lit "Buffer error: "
  | .watch _ => Text.lit "Watcher error: "

def cause : Error → Text
  | .stream e => e.message
  | .matching e => e.message
  | .callback e => e.message
  | .buffer e => e.message
  | .watch e => e.message

def reason? : Error → Option Text
  | .stream e => e.reason?
  | .callback e => e.reason?
  | .watch e => e.reason?
  | .matching _ | .buffer _ => none

def message (e : Error) : Text := e.heading ++ e.cause

/-- The message, then the wording of the cause, then the reason that it wraps. -/
def chain (e : Error) : List Text := e.message :: e.cause :: e.reason?.toList

end Error

/-- Why a piece of work ended early: an error was raised, or the code panicked with a text. -/
inductive Stop where
  | error (e : Error)
  | panic (text : Text)
  deriving DecidableEq, Repr

end Dialogue
