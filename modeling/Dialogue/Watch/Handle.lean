import Dialogue.Watch.Worker

/-!
# Waiting for a task

A task runs until it has an outcome. Whoever holds its handle can ask whether it is over, wait for it, or cancel it;
the outcome is delivered once. A cancellation takes effect the next time the task would run, unless it is over by
then.

* `Task`, `Watched`, `Watched.start`;
* `Watched.tick`: the task runs once;
* `Watched.isFinished`, `Watched.cancel`, `Watched.poll`, `Watched.waitTimeout`.
-/

namespace Dialogue

/-- A task in one of its states. -/
inductive Task (ω : Type) where
  | running (w : ω)
  | ended (o : Outcome)

/-- A task with what was asked of it through its handle: whether it is to be cancelled, and whether its outcome was
delivered. -/
structure Watched (ω : Type) where
  task : Task ω
  aborted : Bool
  delivered : Bool

namespace Watched

variable {ω : Type}

def start (w : ω) : Watched ω := ⟨.running w, false, false⟩

/-- The task that would run now: none when it is over. -/
def running? (t : Watched ω) : Option ω :=
  match t.task with
  | .running w => some w
  | .ended _ => none

/-- The task after it ran, or its outcome. -/
def became (t : Watched ω) : Except Outcome ω → Watched ω
  | .ok w => { t with task := .running w }
  | .error o => { t with task := .ended o }

def tick (step : ω → Except Outcome ω) (t : Watched ω) : Watched ω :=
  match t.running? with
  | none => t
  | some w => t.became (if t.aborted then .error .cancelled else step w)

def isFinished (t : Watched ω) : Bool :=
  match t.task with
  | .ended _ => true
  | .running _ => t.delivered

def cancel (t : Watched ω) : Watched ω := if t.delivered then t else { t with aborted := true }

/-- Waits for the outcome without waiting for the task: nothing while the task runs, then the outcome, once. -/
def poll (t : Watched ω) : Option (Except Error Unit) × Watched ω :=
  if t.delivered then (some (.error (.watch .alreadyJoined)), t)
  else match t.task with
    | .running _ => (none, t)
    | .ended o => (some o.result, { t with delivered := true })

/-- Waits for a task that does not run while it is waited for: the wait is over at once or times out. -/
def waitTimeout (t : Watched ω) (nanos : Nat) : Except Error Unit × Watched ω :=
  match t.poll with
  | (some r, t) => (r, t)
  | (none, t) => (.error (.watch (.timeout nanos)), t)

end Watched

end Dialogue
