import Dialogue.Process.Streams

/-!
# Taking the streams of a command

The streams of a command can be taken one by one, from the command itself or from the channels that its streams
were attached to. A conversation needs both the output and the input, a trigger only the output; what was taken in
vain is given up.

* `Endpoints`, `Command.endpoints`, `Streams.endpoints`;
* `Endpoints.forConversation`, `Endpoints.forTrigger`.
-/

namespace Dialogue

/-- Ways to take streams out of a `σ`, each of which says whether the stream was there, and to give up an output that
was taken. -/
structure Endpoints (σ : Type) where
  takeStdout : σ → Bool × σ
  takeStderr : σ → Bool × σ
  takeStdin : σ → Bool × σ
  dropStdout : σ → σ

/-- The streams of a command itself. -/
def Command.endpoints : Endpoints Command where
  takeStdout c := (c.stdout, { c with stdout := false })
  takeStderr c := (c.stderr, { c with stderr := false })
  takeStdin c := (c.stdin, { c with stdin := false })
  dropStdout c := c

/-- The channels of attached streams. -/
def Streams.endpoints : Endpoints Streams where
  takeStdout s := let (got, channel) := s.stdout.channel.takeReader
    (got, { s with stdout := { s.stdout with channel } })
  takeStderr s := let (got, channel) := s.stderr.channel.takeReader
    (got, { s with stderr := { s.stderr with channel } })
  takeStdin s := let (got, channel) := s.stdin.channel.takeWriter
    (got, { s with stdin := { s.stdin with channel } })
  dropStdout s := { s with stdout := { s.stdout with channel := s.stdout.channel.closeReader } }

namespace Endpoints

variable {σ : Type}

def unavailable (stream : Stream) : Error := .stream (.unavailable stream)

def droppedLog : Text := Text.lit "conversation: command has no stdin, dropping its stdout"

/-- Takes what a conversation needs: the result, the log lines and what is left. -/
def forConversation (e : Endpoints σ) (s : σ) : Except Error Unit × List Text × σ :=
  match e.takeStdout s with
  | (false, s) => (.error (unavailable .stdout), [], s)
  | (true, s) =>
    match e.takeStdin s with
    | (false, s) => (.error (unavailable .stdin), [droppedLog], e.dropStdout s)
    | (true, s) => (.ok (), [], s)

def forTrigger (e : Endpoints σ) (s : σ) : Except Error Unit × σ :=
  match e.takeStdout s with
  | (false, s) => (.error (unavailable .stdout), s)
  | (true, s) => (.ok (), s)

end Endpoints

end Dialogue
