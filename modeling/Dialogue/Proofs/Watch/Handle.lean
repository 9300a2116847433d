import Dialogue.Proofs.Perform
import Dialogue.Proofs.Watch.Steps
import Dialogue.Watch.Handle

/-!
# A worker and its handle

While a worker takes its steps, whoever holds its handle polls it, waits for it with or without a limit, asks whether
it is over, or cancels it, all in any order. A cancellation takes effect when the worker is suspended and would go on.

* `Guarded`, `Guarded.Act`, `Guarded.Answer`, `Guarded.act`: a worker with its handle, and what happens to them;
* `Guarded.calm`, `Guarded.ready`, `Guarded.late`, `Guarded.told`: what is said before a worker is over, and then;
* `Guarded.Once`: a log in which an outcome is delivered once;
* `Guarded.Alive`, `Guarded.Exits`: a worker that is not over, and how it exits;
* `Guarded.perform_of_alive`, `Guarded.exits_of_work`: a worker exits once, and it does when it can;
* **`Guarded.delivers_once`**: the outcome is delivered once, whatever happens.
-/

namespace Dialogue

variable {σ : Type}

/-- A worker that is watched through its handle. A worker that was not run yet counts as suspended. -/
structure Guarded (σ : Type) where
  handle : Watched Stage
  suspended : Bool
  desk : Desk σ

namespace Guarded

/-- What happens to a worker and its handle. The handle is polled by whoever waits for it, with a limit that is not
over or without one; a wait of so many nanoseconds looks a last time when they are over. -/
inductive Act where
  | work (suspends : Bool)
  | poll
  | expire (nanos : Nat)
  | cancel
  | isFinished

/-- What comes of it. The worker exits with an outcome of its own, or a cancellation takes effect. -/
inductive Answer where
  | nothing
  | exited (o : Outcome)
  | cancelled
  | pending
  | completed (r : Except Error Unit)
  | finished (yes : Bool)

/-- A worker that begins. -/
def start (config : WatchConfig) (delimiter : Delimiter) (batches : List Batch) (s : σ) : Guarded σ :=
  ⟨.start (.spawned config delimiter), true, ⟨batches, s, []⟩⟩

section Act

variable (consume : Consumer σ) (between : σ → σ)

/-- The worker runs. -/
def work (x : Guarded σ) (suspends : Bool) : Answer × Guarded σ :=
  match x.handle.running? with
  | none => (.nothing, x)
  | some stage =>
    if x.handle.aborted && x.suspended then (.cancelled, { x with handle := x.handle.became (.error .cancelled) })
    else
      let (desk, r) := stage.step consume between x.desk
      (match r with
        | .ok _ => .nothing
        | .error o => .exited o, ⟨x.handle.became r, suspends, desk⟩)

/-- Something happens. -/
def act (x : Guarded σ) : Act → Answer × Guarded σ
  | .work suspends => x.work consume between suspends
  | .poll => ((x.handle.poll.1.map .completed).getD .pending, { x with handle := x.handle.poll.2 })
  | .expire nanos =>
    (.completed (x.handle.waitTimeout nanos).1, { x with handle := (x.handle.waitTimeout nanos).2 })
  | .cancel => (.nothing, { x with handle := x.handle.cancel })
  | .isFinished => (.finished x.handle.isFinished, x)

end Act

/-- Whether someone waits. -/
def Act.isWait : Act → Bool
  | .poll | .expire _ => true
  | _ => false

/-- The answer to a wait that is over too early, and the one to a wait that comes too late. -/
abbrev timeout (nanos : Nat) : Except Error Unit := .error (.watch (.timeout nanos))
abbrev alreadyJoined : Except Error Unit := .error (.watch .alreadyJoined)

/-- What is said as long as a worker is not over. -/
def calm : Act → Answer
  | .work _ | .cancel => .nothing
  | .poll => .pending
  | .expire nanos => .completed (timeout nanos)
  | .isFinished => .finished false

/-- What is said when the outcome of a worker was delivered. -/
def late : Act → Answer
  | .work _ | .cancel => .nothing
  | .poll | .expire _ => .completed alreadyJoined
  | .isFinished => .finished true

/-- What is said when a worker is over and its outcome was not delivered. -/
def ready (o : Outcome) : Act → Answer
  | .work _ | .cancel => .nothing
  | .poll | .expire _ => .completed o.result
  | .isFinished => .finished true

theorem timeout_of_calm {a : Act} {r : Except Error Unit} (h : calm a = .completed r) :
    ∃ nanos, a = .expire nanos ∧ r = timeout nanos := by
  cases a <;> cases h
  exact ⟨_, rfl, rfl⟩

theorem joined_of_late {a : Act} {r : Except Error Unit} (h : late a = .completed r) : r = alreadyJoined := by
  cases a <;> cases h <;> rfl

theorem late_of_isWait {a : Act} (h : a.isWait) : late a = .completed alreadyJoined := by
  cases a <;> first | rfl | cases h

theorem isWait_of_ready {o : Outcome} {a : Act} {r : Except Error Unit} (h : ready o a = .completed r) : a.isWait := by
  cases a <;> first | rfl | cases h

/-- What is said from the time on when a worker is over. -/
def told (o : Outcome) : List Act → List (Act × Answer)
  | [] => []
  | a :: more => (a, ready o a) :: if a.isWait then more.map fun a => (a, late a) else told o more

/-- At most one wait is told something else than that it is too early or too late; the waits before it were too early,
and those after it are too late. -/
def Once (log : List (Act × Answer)) : Prop :=
  ∀ before a r after, log = before ++ (a, .completed r) :: after → r ≠ alreadyJoined → (∀ nanos, r ≠ timeout nanos) →
    (∀ e ∈ before, ∀ r', e.2 = .completed r' → ∃ nanos, e.1 = .expire nanos ∧ r' = timeout nanos) ∧
    ∀ e ∈ after, e.1.isWait → e.2 = .completed alreadyJoined

theorem Once.nil : Once [] := fun before a r after h => by simp at h

theorem Once.cons {log : List (Act × Answer)} {e : Act × Answer} (h : Once log)
    (he : ∀ r, e.2 = .completed r → ∃ nanos, e.1 = .expire nanos ∧ r = timeout nanos) : Once (e :: log) := by
  intro before a r after hlog hjoined htimeout
  cases before with
  | nil =>
    obtain ⟨rfl, rfl⟩ := List.cons.inj hlog
    obtain ⟨nanos, -, heq⟩ := he r rfl
    exact absurd heq (htimeout nanos)
  | cons e' before =>
    obtain ⟨rfl, hmore⟩ := List.cons.inj hlog
    obtain ⟨hbefore, hafter⟩ := h before a r after hmore hjoined htimeout
    exact ⟨List.forall_mem_cons.mpr ⟨he, hbefore⟩, hafter⟩

theorem once_calm {log : List (Act × Answer)} (h : Once log) (acts : List Act) :
    Once (acts.map (fun a => (a, calm a)) ++ log) := by
  induction acts with
  | nil => exact h
  | cons a more ih => exact ih.cons fun r => timeout_of_calm

theorem once_told (o : Outcome) (acts : List Act) : Once (told o acts) := by
  induction acts with
  | nil => exact .nil
  | cons a more ih =>
    rw [told]
    split_ifs with hwait
    · intro before a' r after hlog hjoined _
      cases before with
      | nil =>
        obtain ⟨-, rfl⟩ := List.cons.inj hlog
        exact ⟨List.forall_mem_nil _, List.forall_mem_map.mpr fun b _ => late_of_isWait⟩
      | cons e before =>
        have hmem : (a', .completed r) ∈ more.map fun a => (a, late a) := by
          rw [(List.cons.inj hlog).2]
          exact List.mem_append_right _ (List.mem_cons_self ..)
        obtain ⟨b, -, hb⟩ := List.mem_map.mp hmem
        exact absurd (joined_of_late (Prod.mk.inj hb).2) hjoined
    · exact ih.cons fun r hr => absurd (isWait_of_ready hr) hwait

/-- Whether a worker that is not over is suspended after some acts. -/
def suspendedAfter (acts : List Act) : Bool :=
  acts.foldl (fun suspended a => match a with | .work suspends => suspends | _ => suspended) true

theorem suspendedAfter_concat (acts : List Act) (a : Act) :
    suspendedAfter (acts ++ [a]) = match a with | .work suspends => suspends | _ => suspendedAfter acts :=
  List.foldl_append

section Phases

variable (consume : Consumer σ) (between : σ → σ) {x : Guarded σ} {o : Outcome}

/-! ### After the outcome was delivered -/

theorem act_of_delivered (hended : x.handle.task = .ended o) (hdelivered : x.handle.delivered = true) (a : Act) :
    x.act consume between a = (late a, x) := by
  obtain ⟨⟨task, aborted, delivered⟩, suspended, desk⟩ := x
  obtain rfl : task = .ended o := hended
  obtain rfl : delivered = true := hdelivered
  cases a <;> rfl

theorem perform_of_delivered (hended : x.handle.task = .ended o) (hdelivered : x.handle.delivered = true)
    (acts : List Act) : perform (act consume between) x acts = (acts.map fun a => (a, late a), x) := by
  induction acts with
  | nil => rfl
  | cons a more ih => rw [perform, act_of_delivered consume between hended hdelivered, ih, List.map_cons]

/-! ### When the worker is over -/

theorem act_of_ended (hended : x.handle.task = .ended o) (hdelivered : x.handle.delivered = false) (a : Act) :
    (x.act consume between a).1 = ready o a ∧ (x.act consume between a).2.handle.task = .ended o ∧
      (x.act consume between a).2.handle.delivered = a.isWait ∧ (x.act consume between a).2.desk = x.desk := by
  obtain ⟨⟨task, aborted, delivered⟩, suspended, desk⟩ := x
  obtain rfl : task = .ended o := hended
  obtain rfl : delivered = false := hdelivered
  cases a <;> exact ⟨rfl, rfl, rfl, rfl⟩

theorem perform_of_ended (hended : x.handle.task = .ended o) (hdelivered : x.handle.delivered = false)
    (acts : List Act) :
    (perform (act consume between) x acts).1 = told o acts ∧
      (perform (act consume between) x acts).2.desk = x.desk := by
  induction acts generalizing x with
  | nil => exact ⟨rfl, rfl⟩
  | cons a more ih =>
    obtain ⟨hready, hended', hdelivered', hdesk⟩ := act_of_ended consume between hended hdelivered a
    rw [perform, told, hready]
    cases hwait : a.isWait with
    | false =>
      obtain ⟨hlog, hlast⟩ := ih hended' (hdelivered'.trans hwait)
      exact ⟨congrArg _ hlog, hlast.trans hdesk⟩
    | true =>
      rw [perform_of_delivered consume between hended' (hdelivered'.trans hwait)]
      exact ⟨rfl, hdesk⟩

/-! ### As long as the worker is not over -/

/-- A worker that is not over after some acts; `own` is what it comes to when it is left alone. -/
structure Alive (own : σ × Except Outcome Worker) (earlier : List Act) (x : Guarded σ) : Prop where
  running : ∃ stage, x.handle.task = .running stage ∧ stage.goOn consume between x.desk = own
  delivered : x.handle.delivered = false
  asked : x.handle.aborted = true ↔ .cancel ∈ earlier
  suspended : x.suspended = suspendedAfter earlier

/-- How a worker exits after some acts: it is cancelled when that was asked for and it was suspended; otherwise it comes
to an end by itself. -/
inductive Exits (own : σ × Except Outcome Worker) (earlier : List Act) (desk : Desk σ) :
    Answer → Outcome → Desk σ → Prop
  | own {o : Outcome} {desk' : Desk σ} (h : own = (desk'.state, .error o))
    (hnot : ¬ (.cancel ∈ earlier ∧ suspendedAfter earlier)) : Exits own earlier desk (.exited o) o desk'
  | cancelled (hasked : .cancel ∈ earlier) (hsuspended : suspendedAfter earlier) :
    Exits own earlier desk .cancelled .cancelled desk

variable {consume between} {own : σ × Except Outcome Worker} {earlier : List Act}

theorem Exits.ne_completed {desk desk' : Desk σ} {answer : Answer} {r : Except Error Unit}
    (h : Exits own earlier desk answer o desk') : answer ≠ .completed r := by
  cases h <;> exact Answer.noConfusion

theorem work_of_alive (h : Alive consume between own earlier x) (suspends : Bool) :
    ((x.work consume between suspends).1 = .nothing ∧
      Alive consume between own (earlier ++ [.work suspends]) (x.work consume between suspends).2) ∨
    ∃ o, Exits own earlier x.desk (x.work consume between suspends).1 o (x.work consume between suspends).2.desk ∧
      (x.work consume between suspends).2.handle.task = .ended o ∧
      (x.work consume between suspends).2.handle.delivered = false := by
  obtain ⟨⟨task, aborted, delivered⟩, suspended, desk⟩ := x
  obtain ⟨⟨stage, htask, hown⟩, hdelivered, hasked, hsuspended⟩ := h
  obtain rfl : task = .running stage := htask
  obtain rfl : delivered = false := hdelivered
  obtain rfl : suspended = suspendedAfter earlier := hsuspended
  simp only [Guarded.work, Watched.running?, Bool.and_eq_true]
  split_ifs with hcancelled
  · exact .inr ⟨.cancelled, .cancelled (hasked.mp hcancelled.1) hcancelled.2, rfl, rfl⟩
  · have hstep := stage.goOn_step consume between desk
    rw [hown] at hstep
    rcases hr : stage.step consume between desk with ⟨desk', o | stage'⟩ <;> rw [hr] at hstep
    · exact .inr ⟨o, .own hstep.symm fun ⟨h, hs⟩ => hcancelled ⟨hasked.mpr h, hs⟩, rfl, rfl⟩
    · refine .inl ⟨rfl, ⟨stage', rfl, hstep⟩, rfl, ?_, ?_⟩
      · simpa [Watched.became] using hasked
      · rw [suspendedAfter_concat]

theorem act_of_alive (h : Alive consume between own earlier x) (a : Act) :
    ((x.act consume between a).1 = calm a ∧
      Alive consume between own (earlier ++ [a]) (x.act consume between a).2) ∨
    ∃ o, (∃ suspends, a = .work suspends) ∧
      Exits own earlier x.desk (x.act consume between a).1 o (x.act consume between a).2.desk ∧
      (x.act consume between a).2.handle.task = .ended o ∧ (x.act consume between a).2.handle.delivered = false := by
  rcases hwork : a with suspends | _ | nanos | _ | _
  · exact (work_of_alive h suspends).imp id fun ⟨o, hexits⟩ => ⟨o, ⟨suspends, rfl⟩, hexits⟩
  all_goals
    obtain ⟨⟨task, aborted, delivered⟩, suspended, desk⟩ := x
    obtain ⟨⟨stage, htask, hown⟩, hdelivered, hasked, hsuspended⟩ := h
    obtain rfl : task = .running stage := htask
    obtain rfl : delivered = false := hdelivered
    refine .inl ⟨rfl, ⟨stage, rfl, hown⟩, rfl, ?_, by rw [suspendedAfter_concat]; exact hsuspended⟩
  · exact hasked.trans (by simp)
  · exact hasked.trans (by simp)
  · exact iff_of_true rfl (List.mem_append_right _ (List.mem_singleton_self _))
  · exact hasked.trans (by simp)

/-- **A log says nothing until the worker exits, and then it says how.** -/
theorem perform_of_alive (h : Alive consume between own earlier x) (acts : List Act) :
    ((perform (act consume between) x acts).1 = acts.map (fun a => (a, calm a)) ∧
      Alive consume between own (earlier ++ acts) (perform (act consume between) x acts).2) ∨
    ∃ before suspends answer o after, acts = before ++ .work suspends :: after ∧
      (perform (act consume between) x acts).1 =
        before.map (fun a => (a, calm a)) ++ (.work suspends, answer) :: told o after ∧
      Exits own (earlier ++ before) (perform (act consume between) x before).2.desk answer o
        (perform (act consume between) x acts).2.desk ∧
      (perform (act consume between) x acts).2.desk =
        (perform (act consume between) x (before ++ [.work suspends])).2.desk := by
  induction acts generalizing x earlier with
  | nil => exact .inl ⟨rfl, by rwa [List.append_nil]⟩
  | cons a more ih =>
    rcases act_of_alive h a with ⟨hcalm, halive⟩ | ⟨o, ⟨suspends, rfl⟩, hexits, hended, hdelivered⟩
    · rw [List.append_cons, perform, hcalm]
      rcases ih halive with ⟨hlog, hlast⟩ | ⟨before, suspends, answer, o, after, rfl, hlog, hexits, hdesk⟩
      · exact .inl ⟨congrArg _ hlog, hlast⟩
      · rw [← List.append_cons] at hexits
        exact .inr ⟨a :: before, suspends, answer, o, after, rfl, congrArg _ hlog, hexits, hdesk⟩
    · obtain ⟨hlog, hdesk⟩ := perform_of_ended consume between hended hdelivered more
      rw [perform, hlog]
      refine .inr ⟨[], suspends, _, o, more, rfl, rfl, ?_, hdesk⟩
      rw [List.append_nil, hdesk]
      exact hexits

/-- A worker that nobody cancels exits when it is given enough time, if it has an end. -/
theorem exits_of_work {stage : Stage} {s : σ} (hrunning : x.handle.task = .running stage)
    (hasked : x.handle.aborted = false) (hown : stage.goOn consume between x.desk = (s, .error o)) :
    ∃ n, (.work false, .exited o) ∈ (perform (act consume between) x (List.replicate n (.work false))).1 := by
  have hwf : WellFounded (Prod.Lex (· < ·) (· < ·) : Nat × Nat → Nat × Nat → Prop) :=
    (Prod.lex Nat.lt_wfRel Nat.lt_wfRel).wf
  -- each step takes one of the batches left or leads to a stage of lower rank
  induction hm : (x.desk.batches.length, stage.rank) using hwf.induction generalizing x stage with
  | h m ih =>
    obtain ⟨⟨task, aborted, delivered⟩, suspended, desk⟩ := x
    obtain rfl : task = .running stage := hrunning
    obtain rfl : aborted = false := hasked
    have hgoOn := stage.goOn_step consume between desk
    rcases hstep : stage.step consume between desk with ⟨desk', o' | stage'⟩ <;> rw [hstep] at hgoOn
    · obtain ⟨-, rfl⟩ : desk'.state = s ∧ o' = o := by simpa [Stage.goOnFrom] using hgoOn.trans hown
      exact ⟨1, List.mem_singleton.mpr (by simp [act, work, Watched.running?, hstep])⟩
    · rcases Stage.step_lt hstep with ⟨w, rfl, hbatches⟩ | hlt
      · simp [Stage.goOn, hbatches, Worker.run] at hown
      · obtain ⟨n, hmem⟩ := ih _ (hm ▸ hlt) (x := ⟨⟨.running stage', false, delivered⟩, false, desk'⟩) rfl rfl
          (hgoOn.trans hown) rfl
        have hnext : (act consume between ⟨⟨.running stage, false, delivered⟩, suspended, desk⟩ (.work false)).2 =
            ⟨⟨.running stage', false, delivered⟩, false, desk'⟩ := by
          simp [act, work, Watched.running?, Watched.became, hstep]
        exact ⟨n + 1, List.mem_cons_of_mem _ (by rwa [hnext])⟩

end Phases

/-- **The outcome of a worker is delivered once through its handle.** Let a worker take its steps while its handle is
polled, waited for, cancelled and asked, in any order.
* At most one wait is told something else than `timeout` and `alreadyJoined`.
* As long as the worker is not over it is not finished, no wait is told more than that its time is over, and without a
  cancellation the worker can still come to the outcome of its run.
* Or it exited, once: with that outcome, or, if that was asked for and it was suspended, as cancelled. Until then the
  answers are the ones before; from then on it is finished, the first wait is told the outcome, whatever else is done,
  and every later one `alreadyJoined`; nothing more is offered. -/
theorem delivers_once (consume : Consumer σ) (between : σ → σ) (config : WatchConfig) (delimiter : Delimiter)
    (batches : List Batch) (s : σ) (acts : List Act) :
    let own := match Worker.start config delimiter with
      | .ok w => Worker.run consume between s w batches
      | .error o => (s, .error o)
    let run := perform (act consume between) (start config delimiter batches s)
    Once (run acts).1 ∧
    (((run acts).1 = acts.map (fun a => (a, calm a)) ∧
        (.cancel ∉ acts → ∀ o, own.2 = .error o →
          ∃ n, (.work false, .exited o) ∈ (run (acts ++ List.replicate n (.work false))).1)) ∨
      ∃ before suspends answer o after, acts = before ++ .work suspends :: after ∧
        (run acts).1 = before.map (fun a => (a, calm a)) ++ (.work suspends, answer) :: told o after ∧
        Exits own before (run before).2.desk answer o (run acts).2.desk ∧
        (run acts).2.desk = (run (before ++ [.work suspends])).2.desk) := by
  intro own run
  have hstart : Alive consume between own [] (start config delimiter batches s) :=
    ⟨⟨_, rfl, rfl⟩, rfl, by simp [start, Watched.start], rfl⟩
  rcases perform_of_alive hstart acts with
    ⟨hlog, ⟨stage, hrunning, hown⟩, -, hasked, -⟩ | ⟨before, suspends, answer, o, after, hacts, hlog, hexits, hdesk⟩
  · refine ⟨?_, .inl ⟨hlog, fun hcancel o ho => ?_⟩⟩
    · rw [show (run acts).1 = _ from hlog, ← List.append_nil (acts.map _)]
      exact once_calm .nil acts
    · have haborted : (run acts).2.handle.aborted = false := by
        rw [← Bool.not_eq_true, hasked]
        exact hcancel
      obtain ⟨n, hmem⟩ := exits_of_work hrunning haborted (hown.trans (Prod.ext rfl ho))
      refine ⟨n, ?_⟩
      rw [show run _ = _ from perform_append ..]
      exact List.mem_append_right _ hmem
  · refine ⟨?_, .inr ⟨before, suspends, answer, o, after, hacts, hlog, hexits, hdesk⟩⟩
    rw [show (run acts).1 = _ from hlog]
    exact once_calm ((once_told o after).cons fun r hr => absurd hr hexits.ne_completed) before

/-- A worker is cancelled when its consumer has the second of three tokens. The waits before were too early, and neither
a second cancellation nor a question keeps the next one from being told. -/
theorem delivers_once_of_cancel :
    let run := perform (act (fun n _ => (n + 1, .accepted)) id)
      (start .default .line [⟨[[0x61, 0x0A, 0x62, 0x0A, 0x63, 0x0A]], .finished⟩] 0)
    let earlier : List Act := [.work true, .expire 5, .work true, .work false, .work true, .work true, .cancel,
      .expire 6, .work true, .cancel, .isFinished]
    (run (earlier ++ [.expire 7, .poll])).2.desk.offered = [['a'], ['b']] ∧
    (run (earlier ++ [.expire 7, .poll])).1 = (run earlier).1 ++
      [(.expire 7, .completed (.error (.watch .cancelled))), (.poll, .completed alreadyJoined)] ∧
    ∀ e ∈ (run earlier).1, ∀ r, e.2 = .completed r → ∃ nanos, e.1 = .expire nanos ∧ r = timeout nanos := by
  intro run earlier
  have hlog : (run (earlier ++ [.expire 7, .poll])).1 = (run earlier).1 ++
      [(.expire 7, .completed (.error (.watch .cancelled))), (.poll, .completed alreadyJoined)] := by
    with_unfolding_all rfl
  obtain ⟨honce, -⟩ := delivers_once (fun n _ => (n + 1, .accepted)) id .default .line
    [⟨[[0x61, 0x0A, 0x62, 0x0A, 0x63, 0x0A]], .finished⟩] 0 (earlier ++ [.expire 7, .poll])
  obtain ⟨hbefore, -⟩ := honce _ _ _ _ hlog (fun h => by cases h) (fun nanos h => by cases h)
  have hoffered : (run (earlier ++ [.expire 7, .poll])).2.desk.offered = [['a'], ['b']] := by with_unfolding_all rfl
  exact ⟨hoffered, hlog, hbefore⟩

end Guarded

end Dialogue
