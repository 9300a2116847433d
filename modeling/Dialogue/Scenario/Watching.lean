import Dialogue.Conversation
import Dialogue.Regex.Standard
import Dialogue.Scenario.Answer
import Dialogue.Trigger
import Dialogue.Watch.Handle
import Dialogue.Watch.Loop
import Dialogue.Watch.Recorder

/-!
# Watching a stream

A scenario about one stream and one watcher: a recorder, a conversation or a trigger. After each step everything
that can run does so until nothing can.

* `Watcher`, `Watcher.recorder`, `Watcher.conversation`, `Watcher.trigger`: the kinds of watcher;
* `WatchStep`, `Watching`;
* `Watching.step`, `Watching.settle`, `Watching.run`.
-/

namespace Dialogue.Scenario

/-- A kind of watcher with states of type `σ`: how it takes tokens, and what it does when those of a batch are done
with; how events and log lines are taken out, the last ones first; how kept actions are run; and the order in which log
lines are told, which is theirs unless several tasks write them. -/
structure Watcher (σ : Type) where
  consume : Consumer σ
  afterBatch : σ → σ
  observe : σ → (List Event × List Text) × σ
  runKept : σ → List (Except Stop Unit) × σ
  arrange : σ → List Text → List Text

namespace Watcher

def recorder : Watcher Recorder where
  consume := Recorder.consume
  afterBatch := id
  observe r := ((r.events, []), { r with events := [] })
  runKept r := ([], r)
  arrange _ := id

def conversation : Watcher (Conversation Sink) where
  consume := Conversation.consume Sink.outlet
  afterBatch := id
  observe c := ((c.out.events, []), { c with out := { c.out with events := [] } })
  runKept c := ([], c)
  arrange _ := id

def trigger : Watcher Trigger where
  consume := Trigger.consume
  afterBatch := Trigger.runDeferred
  observe t := ((t.events, t.logs), { t with events := [], logs := [] })
  runKept := Trigger.runKept
  arrange t := if t.executor.defers then fun lines => lines.mergeSort Text.precedes else id

end Watcher

/-- A step with a watcher, which is started with lines or with the matches of a pattern as the ends of tokens. A wait is
so many nanoseconds long. -/
inductive WatchStep where
  | feed (events : List SourceEvent)
  | start (pattern : Option Text)
  | started
  | finished
  | cancel
  | wait (nanos : Nat)
  | join
  | dropHandle
  | runKept

/-- A watcher that can be started once, and whether the handle on its task is held. -/
structure Startable where
  config : WatchConfig
  task : Option (Watched Worker)
  held : Bool

namespace Startable

def ofConfig (config : WatchConfig) : Startable := ⟨config, none, false⟩

def noHandle : Result := .missing (Text.lit "no_handle")

def begin (config : WatchConfig) (d : Delimiter) : Watched Worker :=
  match Worker.start config d with
  | .ok w => .start w
  | .error o => ⟨.ended o, false, false⟩

def start (s : Startable) (d : Delimiter) : Bool × Text × Startable :=
  match s.task with
  | some _ => (false, Text.lit "tokenizer: already started", s)
  | none =>
    (true, Text.lit "tokenizer: starting, delimiter " ++ Quoted.string d.pattern,
      { s with task := some (begin s.config d), held := true })

def withHandle (s : Startable) (f : Watched Worker → Result × Watched Worker) : Result × Startable :=
  match s.task, s.held with
  | some t, true => ((f t).1, { s with task := some (f t).2 })
  | _, _ => (noHandle, s)

def finished (s : Startable) : Result × Startable := s.withHandle fun t => (.bool t.isFinished, t)

def cancel (s : Startable) : Result × Startable := s.withHandle fun t => (.ok, t.cancel)

def wait (s : Startable) (nanos : Nat) : Result × Startable :=
  s.withHandle fun t => (.ofUnit (t.waitTimeout nanos).1, (t.waitTimeout nanos).2)

def join (s : Startable) : Result × Startable :=
  s.withHandle fun t => ((t.poll.1.map Result.ofUnit).getD .pending, t.poll.2)

/-- Gives the handle up; the task goes on. -/
def dropHandle (s : Startable) : Result × Startable :=
  if s.held then (.ok, { s with held := false }) else (noHandle, s)

end Startable

/-- The delimiter of a pattern; lines without one. -/
def delimiterOf : Option Text → Except Error Delimiter
  | none => .ok .line
  | some pattern => Delimiter.ofPattern pattern

/-- A stream with its watcher, and what was logged in this step, the last line first. -/
structure Watching (σ : Type) where
  watch : Startable
  source : Source
  state : σ
  logs : List Text

namespace Watching

variable {σ : Type}

def ofState (config : WatchConfig) (state : σ) : Watching σ := ⟨.ofConfig config, [], state, []⟩

def start (s : Watching σ) (pattern : Option Text) : Result × Watching σ :=
  match delimiterOf pattern with
  | .error e => (.error e, s)
  | .ok d =>
    let (got, line, watch) := s.watch.start d
    (.bool got, { s with watch, logs := line :: s.logs })

def answer (s : Watching σ) (r : Result × Startable) : Result × Watching σ := (r.1, { s with watch := r.2 })

def step (k : Watcher σ) (s : Watching σ) : WatchStep → Result × Watching σ
  | .feed events => (.ok, { s with source := s.source.feed events })
  | .start pattern => s.start pattern
  | .started => (.bool s.watch.task.isSome, s)
  | .finished => s.answer s.watch.finished
  | .cancel => s.answer s.watch.cancel
  | .wait nanos => s.answer (s.watch.wait nanos)
  | .join => s.answer s.watch.join
  | .dropHandle => s.answer s.watch.dropHandle
  | .runKept =>
    let (results, state) := k.runKept s.state
    (.each results, { s with state })

/-- The task takes everything that the stream does up to now. -/
def takeAll (k : Watcher σ) (s : Watching σ) (w : Worker) : Except Outcome Worker × Watching σ :=
  let (state, r) := w.watch k.consume k.afterBatch (Worker.room s.watch.config) s.state s.source
  let logs := match r with
    | .ok _ => s.logs
    | .error o => o.log?.toList ++ s.logs
  (r, { s with source := [], state, logs })

/-- The task runs until it has to wait or is over. -/
def settle (k : Watcher σ) (s : Watching σ) : Watching σ :=
  match s.watch.task with
  | none => s
  | some t =>
    match t.running? with
    | none => s
    | some w =>
      let (r, s) := if t.aborted then (.error .cancelled, s) else s.takeAll k w
      { s with watch := { s.watch with task := some (t.became r) } }

def observe (k : Watcher σ) (r : Result) (s : Watching σ) : Observed × Watching σ :=
  let ((events, logs), state) := k.observe s.state
  (⟨r, events.reverse, k.arrange s.state (logs ++ s.logs).reverse⟩, { s with state, logs := [] })

def run (k : Watcher σ) (s : Watching σ) : List WatchStep → List Observed
  | [] => []
  | a :: more =>
    let (r, s) := s.step k a
    let (o, s) := (s.settle k).observe k r
    o :: s.run k more

end Watching

end Dialogue.Scenario
