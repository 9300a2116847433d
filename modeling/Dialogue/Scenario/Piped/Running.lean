import Dialogue.Scenario.Piped.Basic

/-!
# Copiers and a watcher in turns

What runs by itself behind the channels: the copiers of the output, the watcher, and the copier of the input.

* `Piped.batch`: the next batch of the output channel;
* `Piped.tick`: the watcher's task runs once;
* `Piped.round`, `Piped.settle`: everything has a turn, and runs until nothing can.
-/

namespace Dialogue.Scenario

namespace Piped

/-- What is left behind when the watcher's task is over: its endpoints are given up. -/
def release (s : Piped) (kind : PipedKind) : Piped :=
  let s := s.onStdout Channel.closeReader
  match kind with
  | .conversation _ => s.onStdin Channel.closeWriter
  | .trigger _ => s

/-- Reads of at most `room` bytes from a channel until it has no more for now, for at most so many reads, after
those in `acc`, the last one first. -/
def batchFrom (room : Nat) : Nat → List Bytes → Channel → Batch × Channel
  | 0, acc, c => (⟨acc.reverse, .idle⟩, c)
  | n + 1, acc, c =>
    match c.poll room poller with
    | (.data [], c) => (⟨acc.reverse, .finished⟩, c)
    | (.data bs, c) => batchFrom room n (bs :: acc) c
    | (.pending, c) => (⟨acc.reverse, .idle⟩, c)
    | (.failed e, c) => (⟨acc.reverse, .failed e.message⟩, c)

def batch (s : Piped) (config : WatchConfig) : Batch × Piped :=
  let c := s.streams.stdout.channel
  let unread := match c.available with
    | .ok n => n
    | .error _ => 0
  let (b, channel) := batchFrom (Worker.room config) (unread + 1) [] c
  (b, s.onStdout fun _ => channel)

def takeBatch (s : Piped) (w : PipedWatcher) (worker : Worker) (b : Batch) :
    Except Outcome Worker × PipedKind × Piped :=
  match w.kind with
  | .conversation book =>
    let c : Conversation Channel := ⟨book, w.watch.config.encoding, s.streams.stdin.channel⟩
    let (c, r) := worker.takeBatch (Conversation.consume Channel.outlet) c b
    (r, .conversation c.book, s.onStdin fun _ => c.out)
  | .trigger t =>
    let (t, r) := worker.takeBatch Trigger.consume t b
    (r, .trigger t.runDeferred, s)

def became (s : Piped) (w : PipedWatcher) (t : Watched Worker) (r : Except Outcome Worker) : Piped :=
  let s := { s with watcher := some { w with watch := { w.watch with task := some (t.became r) } } }
  match r with
  | .ok _ => s
  | .error o => { s.release w.kind with logs := o.log?.toList ++ s.logs }

def tick (s : Piped) : Piped :=
  match s.watcher with
  | none => s
  | some w =>
    match w.watch.task with
    | none => s
    | some t =>
      match t.running? with
      | none => s
      | some worker =>
        if t.aborted then s.became w t (.error .cancelled)
        else
          let (b, s) := s.batch w.watch.config
          let (r, kind, s) := s.takeBatch w worker b
          s.became { w with kind } t r

/-- Each copier and the watcher has a turn: the output first, then the watcher, then the input. -/
def round (s : Piped) : Piped :=
  let s := { s with streams := { s.streams with stdout := s.streams.stdout.turn, stderr := s.streams.stderr.turn } }
  let s := s.tick
  { s with streams := { s.streams with stdin := s.streams.stdin.turn } }

def rounds : Nat → Piped → Piped
  | 0, s => s
  | n + 1, s => rounds n s.round

/-- Everything runs until nothing can: each round takes what is to come up to the next pause, and two more see the
ends of the streams through. -/
def settle (s : Piped) : Piped :=
  rounds (s.streams.stdout.source.length + s.streams.stderr.source.length + 3) s

end Piped

end Dialogue.Scenario
