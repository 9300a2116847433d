import Dialogue.Prompt.Spec
import Dialogue.Scenario.Piped.Running

/-!
# Steps with a command behind channels

A scenario about a command whose streams are attached to channels. After each step the copiers and the watcher run
in turns until nothing can.

* `PipedStep`, `Refusal`: the steps, and why a scenario cannot be told to its end;
* `Piped.act`, `Piped.step`, `Piped.run`: one step alone, one with what runs by itself, and all of them.
-/

namespace Dialogue.Scenario

/-- A step with attached streams, their endpoints, or a watcher of the output. A wait is so many nanoseconds long, and
an encoding is as a setting writes it. -/
inductive PipedStep where
  | stdout (events : List SourceEvent)
  | stderr (events : List SourceEvent)
  | left
  | take (stream : Stream)
  | read (stream : Stream) (n : Nat)
  | write (bytes : Bytes)
  | endStdin
  | dropStdin
  | dropStdout
  | converse (discipline : Discipline) (rules : List (RuleSpec Text)) (config : Option Json)
  | watch (discipline : Discipline) (rules : List (RuleSpec Action))
  | start (pattern : Option Text)
  | started
  | finished
  | cancel
  | wait (nanos : Nat)
  | join
  | dropHandle
  | finish
  | output (encoding : Json)
  | drop

/-- Why a scenario cannot be told to its end. -/
inductive Refusal where
  | error (e : Error)
  | badConfig

namespace Piped

def needsStreams : PipedStep → Bool
  | .take _ | .converse .. | .watch .. | .finish | .output _ | .drop => true
  | _ => false

/-- Takes a step, without anything that runs by itself. -/
def act (s : Piped) : PipedStep → Except Refusal (Result × Piped)
  | .stdout events =>
    .ok (.ok, { s with
      streams := { s.streams with stdout := { s.streams.stdout with source := s.streams.stdout.source.feed events } } })
  | .stderr events =>
    .ok (.ok, { s with
      streams := { s.streams with stderr := { s.streams.stderr with source := s.streams.stderr.source.feed events } } })
  | .left => .ok (.left false false false, s)
  | .take stream => .ok (s.take stream)
  | .read stream n => .ok (s.read stream n)
  | .write bs => .ok (s.write bs)
  | .endStdin => .ok (.ok, if s.stdinHeld then s.onStdin Channel.closeWriter else s)
  | .dropStdin => .ok (.ok, if s.stdinHeld then { s.onStdin Channel.closeWriter with stdinHeld := false } else s)
  | .dropStdout => .ok (.ok, if s.stdoutHeld then { s.onStdout Channel.closeReader with stdoutHeld := false } else s)
  | .converse discipline rules config => do
    let book ← (Playbook.build discipline rules).mapError Refusal.error
    match config.elim (some WatchConfig.default) WatchConfig.ofJson? with
    | none => throw .badConfig
    | some config => return s.converse book config
  | .watch discipline rules => do
    let book ← (Playbook.build discipline rules).mapError Refusal.error
    return s.watch book
  | .start pattern => .ok (s.start pattern)
  | .started => .ok (match s.watcher with
    | none => (noWatch, s)
    | some w => (.bool w.watch.task.isSome, s))
  | .finished => .ok (s.withWatch Startable.finished)
  | .cancel => .ok (s.withWatch Startable.cancel)
  | .wait nanos => .ok (s.withWatch fun w => w.wait nanos)
  | .join => .ok (s.withWatch Startable.join)
  | .dropHandle => .ok (s.withWatch Startable.dropHandle)
  | .finish => .ok ({ s with streams := s.streams.closeInput }.settle.collect)
  | .output encoding =>
    match Encoding.ofJson? encoding with
    | none => .error .badConfig
    | some e =>
      match s.streams.output e with
      | .ok (stdout, stderr) => .ok (.output stdout stderr, s)
      | .error e => .ok (.error e, s)
  | .drop => .ok (.ok, { s with streams := s.streams.abort, dropped := true })

def step (s : Piped) (a : PipedStep) : Except Refusal (Result × Piped) :=
  if s.dropped && needsStreams a then .ok (gone, s) else (s.act a).map fun (r, s) => (r, s.settle)

/-- The events so far, the last one first, and the watcher without them. -/
def watcherEvents (s : Piped) : List Event × Option PipedWatcher :=
  match s.watcher with
  | some ⟨w, .trigger t⟩ => (t.events, some ⟨w, .trigger { t with events := [] }⟩)
  | w => ([], w)

def observe (s : Piped) (r : Result) : Observed × Piped :=
  let (events, watcher) := s.watcherEvents
  let sink := s.streams.stdin.sink
  (⟨r, sink.events.reverse ++ events.reverse, s.logs.reverse⟩,
    { s with
      streams := { s.streams with stdin := { s.streams.stdin with sink := { sink with events := [] } } }
      watcher, logs := [] })

/-- Whether nothing is asked after a result. -/
def isLast : Result → Bool
  | .stuck => true
  | _ => false

def run (s : Piped) : List PipedStep → Except Refusal (List Observed)
  | [] => .ok []
  | a :: more => do
    let (r, s) ← s.step a
    let (o, s) := s.observe r
    if isLast r then return [o] else return o :: (← s.run more)

end Piped

end Dialogue.Scenario
