import Dialogue.Config
import Dialogue.Encoding.Whole
import Dialogue.Process.Copier

/-!
# The streams of a command behind channels

Between a command and whoever watches it stand three channels. What the command prints is copied into two of them,
where it can be watched and is still there afterwards; what is written into the third is copied to the command.

* `Command`: the streams that a command still has;
* `Streams`, `Streams.attach`;
* `Streams.closeInput`, `Streams.collect`: the end of all copying, and its verdict;
* `Streams.output`, `Streams.abort`.
-/

namespace Dialogue

/-- Which of its standard streams a command still has. -/
structure Command where
  stdout : Bool
  stderr : Bool
  stdin : Bool
  deriving DecidableEq, Repr

/-- A command's streams behind channels. -/
structure Streams where
  stdout : OutputPipe
  stderr : OutputPipe
  stdin : InputPipe

namespace Streams

/-- The channel for an output stream of which so many bytes are kept. -/
def windowChannel : Option Nat → Channel
  | some n => .ofWindow n
  | none => .new

/-- An output stream; one that the command does not have is empty and closed. -/
def outputPipe (has : Bool) (source : Source) (window : Option Nat) : OutputPipe :=
  if has then ⟨source, windowChannel window, .running⟩ else ⟨source, (windowChannel window).closeWriter, .absent⟩

/-- The input stream; one that the command does not have is closed at both ends. -/
def inputPipe (has : Bool) (sink : Sink) : InputPipe :=
  if has then ⟨.new, sink, [], false, .running⟩ else ⟨Channel.new.close, sink, [], false, .absent⟩

/-- Takes the streams of a command and starts a copier for each. -/
def attach (c : Command) (windows : Windows) (stdout stderr : Source) (sink : Sink) : Streams :=
  ⟨outputPipe c.stdout stdout windows.stdout, outputPipe c.stderr stderr windows.stderr, inputPipe c.stdin sink⟩

def copierCount (c : Command) : Nat := c.stdout.toNat + c.stderr.toNat + c.stdin.toNat

def attachLog (c : Command) : Text :=
  Text.lit "process streams: started " ++ Text.decimal (copierCount c) ++ Text.lit " copiers"

def closeInput (s : Streams) : Streams := { s with stdin := { s.stdin with channel := s.stdin.channel.closeWriter } }

/-- The failure of a copier, if it failed. -/
def failure? (stream : Stream) : CopyEnd → Option WatchError
  | .done => none
  | .failed reason => some (.copy stream reason)
  | .panicked text => some (.panicked text)

def failureLog (stream : Stream) (e : WatchError) : Text :=
  Text.lit "process streams: " ++ stream.name ++ Text.lit " copier failed: " ++ e.message

/-- The copiers, in the order in which they are waited for. -/
def copiers (s : Streams) : List (Stream × Copier) :=
  [(.stdout, s.stdout.copier), (.stderr, s.stderr.copier), (.stdin, s.stdin.copier)]

/-- The first of some failures, and what is logged of all of them. -/
structure Verdict where
  first : Option WatchError
  logs : List Text
  deriving DecidableEq, Repr

/-- Takes note of how copiers ended, one after another; waiting for one that is running never ends. -/
def collectFrom (v : Verdict) : List (Stream × Copier) → Verdict × Bool
  | [] => (v, true)
  | (_, .absent) :: more => collectFrom v more
  | (_, .running) :: _ => (v, false)
  | (stream, .ended o) :: more =>
    match failure? stream o with
    | none => collectFrom v more
    | some e => collectFrom ⟨v.first.or (some e), v.logs ++ [failureLog stream e]⟩ more

/-- The verdict on the copiers, and whether all of them are over. -/
def collect (s : Streams) : Verdict × Bool := collectFrom ⟨none, []⟩ s.copiers

def Verdict.result (v : Verdict) : Except Error Unit :=
  match v.first with
  | none => .ok ()
  | some e => .error (.watch e)

/-- The streams with no copier left to be waited for. -/
def forgetCopiers (s : Streams) : Streams :=
  { stdout := { s.stdout with copier := .absent }
    stderr := { s.stderr with copier := .absent }
    stdin := { s.stdin with copier := .absent } }

def decoded (e : Encoding) (c : Channel) : Except Error Text :=
  match c.contents with
  | .error e => .error (.buffer e)
  | .ok bs => (e.decode bs).mapError .stream

/-- The texts of what both output channels hold. -/
def output (s : Streams) (e : Encoding) : Except Error (Text × Text) := do
  let stdout ← decoded e s.stdout.channel
  let stderr ← decoded e s.stderr.channel
  return (stdout, stderr)

def abort (s : Streams) : Streams := ⟨s.stdout.abort, s.stderr.abort, s.stdin.abort⟩

end Streams

end Dialogue
