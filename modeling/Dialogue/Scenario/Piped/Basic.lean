import Dialogue.Process.Endpoints
import Dialogue.Scenario.Watching

/-!
# Watching a command behind channels

The streams of a command that are attached to channels, with the endpoints that are held and at most one watcher.

* `PipedKind`, `PipedWatcher`, `Piped`;
* `Piped.take`, `Piped.read`, `Piped.write`: using an endpoint;
* `Piped.converse`, `Piped.watch`, `Piped.start`: making a watcher and starting it;
* `Piped.collect`: the verdict on the copiers.
-/

namespace Dialogue.Scenario

/-- What a watcher does with tokens: it answers them, or fires on them. -/
inductive PipedKind where
  | conversation (book : Playbook Text)
  | trigger (t : Trigger)

/-- A watcher of the command's output. -/
structure PipedWatcher where
  watch : Startable
  kind : PipedKind

/-- The streams of a command, with the endpoints that are held, the watcher of the output, and what was logged in this
step, the last line first. -/
structure Piped where
  streams : Streams
  dropped : Bool
  stdoutHeld : Bool
  stderrHeld : Bool
  stdinHeld : Bool
  watcher : Option PipedWatcher
  logs : List Text

namespace Piped

def attach (c : Command) (windows : Windows) (sink : Sink) : Piped :=
  ⟨Streams.attach c windows [] [] sink, false, false, false, false, none, [Streams.attachLog c]⟩

def gone : Result := .missing (Text.lit "dropped")

def noWatch : Result := .missing (Text.lit "no_watch")

def onStdout (s : Piped) (f : Channel → Channel) : Piped :=
  { s with streams := { s.streams with stdout := { s.streams.stdout with channel := f s.streams.stdout.channel } } }

def onStdin (s : Piped) (f : Channel → Channel) : Piped :=
  { s with streams := { s.streams with stdin := { s.streams.stdin with channel := f s.streams.stdin.channel } } }

/-- Takes a stream, and holds it if it was there. -/
def take (s : Piped) (stream : Stream) : Result × Piped :=
  match stream with
  | .stdout =>
    let (got, streams) := Streams.endpoints.takeStdout s.streams
    (.bool got, { s with streams, stdoutHeld := s.stdoutHeld || got })
  | .stderr =>
    let (got, streams) := Streams.endpoints.takeStderr s.streams
    (.bool got, { s with streams, stderrHeld := s.stderrHeld || got })
  | .stdin =>
    let (got, streams) := Streams.endpoints.takeStdin s.streams
    (.bool got, { s with streams, stdinHeld := s.stdinHeld || got })

def poller : Waiter := 0

def pollResult : Channel.ReadResult → Result
  | .data bs => .bytes bs
  | .pending => .pending
  | .failed e => .ioError e

def read (s : Piped) (stream : Stream) (n : Nat) : Result × Piped :=
  match stream with
  | .stdout =>
    if s.stdoutHeld then
      let (r, channel) := s.streams.stdout.channel.poll n poller
      (pollResult r, s.onStdout fun _ => channel)
    else (.noReader, s)
  | .stderr =>
    if s.stderrHeld then
      let (r, channel) := s.streams.stderr.channel.poll n poller
      (pollResult r, { s with streams := { s.streams with stderr := { s.streams.stderr with channel } } })
    else (.noReader, s)
  | .stdin => (.noReader, s)

def write (s : Piped) (bs : Bytes) : Result × Piped :=
  if s.stdinHeld then
    match s.streams.stdin.channel.write bs with
    | (.ok _, channel) => (.ok, s.onStdin fun _ => channel)
    | (.error e, channel) => (.bufferError e, s.onStdin fun _ => channel)
  else (.noWriter, s)

def converse (s : Piped) (book : Playbook Text) (config : WatchConfig) : Result × Piped :=
  let (r, logs, streams) := Streams.endpoints.forConversation s.streams
  let s := { s with streams, logs := logs.reverse ++ s.logs }
  match r with
  | .error e => (.error e, s)
  | .ok _ => (.ok, { s with watcher := some ⟨.ofConfig config, .conversation book⟩ })

def watch (s : Piped) (book : Playbook Action) : Result × Piped :=
  let (r, streams) := Streams.endpoints.forTrigger s.streams
  let s := { s with streams }
  match r with
  | .error e => (.error e, s)
  | .ok _ => (.ok, { s with watcher := some ⟨.ofConfig .default, .trigger (.ofBook book .inline)⟩ })

def start (s : Piped) (pattern : Option Text) : Result × Piped :=
  match s.watcher with
  | none => (noWatch, s)
  | some w =>
    match delimiterOf pattern with
    | .error e => (.error e, s)
    | .ok d =>
      let (got, line, watch) := w.watch.start d
      (.bool got, { s with watcher := some { w with watch }, logs := line :: s.logs })

def withWatch (s : Piped) (f : Startable → Result × Startable) : Result × Piped :=
  match s.watcher with
  | none => (Startable.noHandle, s)
  | some w => ((f w.watch).1, { s with watcher := some { w with watch := (f w.watch).2 } })

/-- The verdict on the copiers once nothing runs any more. -/
def collect (s : Piped) : Result × Piped :=
  match s.streams.collect with
  | (v, false) => (.stuck, { s with logs := v.logs.reverse ++ s.logs })
  | (v, true) => (.ofUnit v.result, { s with streams := s.streams.forgetCopiers, logs := v.logs.reverse ++ s.logs })

end Piped

end Dialogue.Scenario
