import Dialogue.Proofs.Perform
import Dialogue.Proofs.Playbook
import Dialogue.Proofs.Trigger
import Dialogue.Proofs.Watch.Follows
import Dialogue.Proofs.Watch.Offers

/-!
# Triggers and the endings of their actions

Where actions are put off, a trigger goes on in the same way however they end. Where they run on the spot, it goes on
like that until the first of them fails or panics, and stops there.

* `Playbook.map`, `Playbook.lookup_map`: the same rules with other replies;
* `Fate`, `Fate.Spares`: how the actions of a run end; `ActionEnd.stop?`: why an action stops an inline trigger;
* `Trigger.fire`, `Course`, `Trigger.course`: a run in which actions end by a fate;
* `Trigger.course_of_defers`, `Trigger.course_of_inline`: put off, and on the spot;
* **`Trigger.course_of_fate`**: all of it.
-/

namespace Dialogue

/-! ## Other replies -/

section Map

variable {α β : Type} (f : α → β)

/-- The same reply, changed by a function. -/
def Reply.map : Reply α → Reply β
  | .fixed a => .fixed (f a)
  | .computed compute => .computed fun token =>
    match compute token with
    | .value a => .value (f a)
    | .failed reason => .failed reason
    | .panicked text => .panicked text

/-- The same rule with its reply changed. -/
def Rule.map (rule : Rule α) : Rule β := ⟨rule.prompt, rule.reply.map f⟩

/-- The same playbook with its replies changed. -/
def Playbook.map (b : Playbook α) : Playbook β := ⟨b.rules.map (Rule.map f), b.discipline, b.cursor⟩

theorem Reply.produce_map (r : Reply α) (token : Text) : (r.map f).produce token = (r.produce token).map f := by
  cases r with
  | fixed a => rfl
  | computed compute =>
    simp only [map, produce]
    cases compute token <;> rfl

namespace Playbook

theorem filterAuxM_map (rules : List (Rule α)) (token : Text) (acc : List (Rule α)) :
    (rules.map (Rule.map f)).filterAuxM (fun rule : Rule β => rule.prompt.accepts token) (acc.map (Rule.map f)) =
      (rules.filterAuxM (fun rule : Rule α => rule.prompt.accepts token) acc).map (List.map (Rule.map f)) := by
  induction rules generalizing acc with
  | nil => rfl
  | cons rule rules ih =>
    rw [List.map_cons, List.filterAuxM, List.filterAuxM]
    change (rule.prompt.accepts token >>= _) = Except.map _ (rule.prompt.accepts token >>= _)
    rcases rule.prompt.accepts token with e | _ | _
    · rfl
    · exact ih acc
    · exact ih (rule :: acc)

theorem accepting_map (rules : List (Rule α)) (token : Text) :
    accepting (rules.map (Rule.map f)) token = (accepting rules token).map (List.map (Rule.map f)) := by
  have hall := filterAuxM_map f rules token []
  rw [List.map_nil] at hall
  rw [accepting, accepting, List.filterM, List.filterM, hall]
  rcases rules.filterAuxM (fun rule : Rule α => rule.prompt.accepts token) [] with e | found
  · rfl
  · exact congrArg Except.ok List.map_reverse.symm

/-- **What a playbook waits for does not depend on what it replies.** -/
theorem lookup_map (b : Playbook α) (token : Text) :
    (b.map f).lookup token = ((b.lookup token).1.map (Option.map f), (b.lookup token).2.map f) := by
  obtain ⟨rules, discipline, cursor⟩ := b
  cases discipline with
  | ordered =>
    simp only [map, lookup, lookupOrdered, List.getElem?_map]
    rcases rules[cursor]? with _ | rule
    · rfl
    simp only [Option.map_some, Rule.map]
    rcases rule.prompt.accepts token with e | _ | _
    · rfl
    · rfl
    · simp only [Reply.produce_map]
      cases rule.reply.produce token <;> rfl
  | unordered =>
    simp only [map, lookup, lookupUnordered, accepting_map]
    rcases accepting rules token with e | _ | ⟨rule, _ | ⟨rule', more⟩⟩
    · rfl
    · rfl
    · simp only [Except.map, List.map_cons, List.map_nil, bind, Except.bind, Rule.map, Reply.produce_map]
      cases rule.reply.produce token <;> rfl
    · simp [Except.map, bind, Except.bind, throw, throwThe, MonadExceptOf.throw]

end Playbook

end Map

/-! ## Fates -/

/-- How the actions of a run end: each one by those that were dispatched before it. -/
abbrev Fate := List Action → Action → ActionEnd

namespace Fate

/-- Every action succeeds. -/
def smooth : Fate := fun _ _ => .done

/-- Actions that are dispatched one after another all succeed. -/
def Spares (fate : Fate) (dispatched : List Action) : Prop :=
  ∀ before a after, dispatched = before ++ a :: after → fate before a = .done

theorem spares_nil (fate : Fate) : fate.Spares [] := fun before a after h => by simp at h

theorem Spares.concat {fate : Fate} {dispatched : List Action} {a : Action} (h : fate.Spares dispatched)
    (ha : fate dispatched a = .done) : fate.Spares (dispatched ++ [a]) := by
  intro before x after hsplit
  rcases snoc_eq_append_cons hsplit with ⟨rfl, rfl, rfl⟩ | ⟨after', rfl, rfl⟩
  · exact ha
  · exact h before x after' rfl

theorem eq_of_first_of_prefix {fate : Fate} {before before' : List Action} {a a' : Action}
    (h : before ++ [a] <+: before' ++ [a']) (ha : fate before a ≠ .done) (hbefore' : fate.Spares before') :
    before = before' ∧ a = a' := by
  rcases List.prefix_concat_iff.mp h with heq | ⟨later, heq⟩
  · exact ⟨(List.append_inj' heq rfl).1, List.singleton_inj.mp (List.append_inj' heq rfl).2⟩
  · rw [List.append_assoc, List.singleton_append] at heq
    exact absurd (hbefore' before a later heq.symm) ha

theorem eq_of_first {fate : Fate} {dispatched before before' : List Action} {a a' : Action}
    (h : before ++ [a] <+: dispatched) (hbefore : fate.Spares before) (ha : fate before a ≠ .done)
    (h' : before' ++ [a'] <+: dispatched) (hbefore' : fate.Spares before') (ha' : fate before' a' ≠ .done) :
    before = before' ∧ a = a' := by
  rcases List.prefix_or_prefix_of_prefix h h' with hle | hle
  · exact eq_of_first_of_prefix hle ha hbefore'
  · obtain ⟨hsame, hsame'⟩ := eq_of_first_of_prefix hle ha' hbefore
    exact ⟨hsame.symm, hsame'.symm⟩

end Fate

/-- Why an action with such an ending stops a trigger that runs it on the spot. -/
def ActionEnd.stop? : ActionEnd → Option Stop
  | .done => none
  | .failed reason => some (.error (.callback (.action reason)))
  | .panicked text => some (.panic text)

theorem ActionEnd.stop?_eq_none {ending : ActionEnd} : ending.stop? = none ↔ ending = .done := by
  cases ending <;> simp [stop?]

theorem ActionEnd.ne_done_of_stop {ending : ActionEnd} {why : Stop} (h : ending.stop? = some why) :
    ending ≠ .done := by
  rintro rfl
  cases h

theorem Action.result_eq (a : Action) :
    a.result = match a.ending.stop? with
      | none => .ok ()
      | some why => .error why := by
  unfold result
  cases a.ending <;> rfl

/-! ## Courses -/

/-- What can be told of the run of a trigger: the tokens with their answers, the actions that were dispatched, what
happened, and the worker, or how it ended. -/
structure Course where
  offers : List (Text × Verdict)
  dispatched : List Action
  events : List Event
  result : Except Outcome Worker

namespace Trigger

/-- Fires on a token and takes the action down, which ends by a fate. -/
def fire (fate : Fate) : Consumer (Trigger × List Action) := fun (t, dispatched) token =>
  match t.book.lookup token with
  | (.error why, book) => (({ t with book }, dispatched), .stopped why)
  | (.ok none, book) => (({ t with book }, dispatched), .declined)
  | (.ok (some a), book) =>
    let (t, verdict) := { t with book }.execute { a with ending := fate dispatched a }
    ((t, dispatched ++ [a]), verdict)

/-- A trigger with the actions that it dispatched and the offers that were made to it. -/
abbrev Progress := (Trigger × List Action) × List (Text × Verdict)

/-- The run of a trigger over some batches. -/
def runBy (fate : Fate) (executor : Executor) (book : Playbook Action) (w : Worker) (batches : List Batch) :
    Progress × Except Outcome Worker :=
  Worker.run (fire fate).recording (Prod.map (Prod.map runDeferred id) id) ((ofBook book executor, []), []) w batches

/-- What can be told of it. -/
def course (fate : Fate) (executor : Executor) (book : Playbook Action) (w : Worker) (batches : List Batch) : Course :=
  let run := runBy fate executor book w batches
  ⟨run.1.2, run.1.1.2, run.1.1.1.events.reverse, run.2⟩

/-! ### Endings that are fixed -/

/-- A trigger whose actions end by themselves follows one whose actions end in that way by a fate. -/
theorem consume_follows (ending : Action → ActionEnd) :
    Follows consume.recording (Prod.map runDeferred id) (fire fun _ => ending).recording
      (Prod.map (Prod.map runDeferred id) id)
      (fun (s : Trigger × List (Text × Verdict)) (r : Progress) =>
        s = ({ r.1.1 with book := r.1.1.book.map fun a => { a with ending := ending a } }, r.2))
      fun _ _ _ => False where
  step := by
    rintro _ ⟨⟨t, dispatched⟩, offers⟩ token rfl
    refine .inl ?_
    simp only [Consumer.recording, consume, fire, Playbook.lookup_map]
    rcases t.book.lookup token with ⟨why | _ | a, book⟩
    · exact ⟨rfl, rfl⟩
    · exact ⟨rfl, rfl⟩
    · have hexecute := execute_book { t with book } { a with ending := ending a }
        (book.map fun a => { a with ending := ending a })
      have hbook : ({ t with book }.execute { a with ending := ending a }).1.book = book := (execute_frame _ _).1
      simp only [Except.map, Option.map_some] at hexecute hbook ⊢
      rw [hexecute, hbook]
      exact ⟨rfl, rfl⟩
  settle := by
    rintro _ ⟨⟨t, dispatched⟩, offers⟩ rfl
    simp only [Prod.map, id, runDeferred_book, book_runDeferred]
  later := fun _ => False.elim
  settled := False.elim

/-! ### Actions on the spot -/

/-- The event of an action that is run. -/
def ran (a : Action) : Event := .run a.name

/-- What a trigger has come to that runs its actions on the spot and that no action has stopped: each action that was
dispatched was run once, and each token that was accepted dispatched one. -/
structure OnTheSpot (s : Progress) : Prop where
  executor : s.1.1.executor = .inline
  deferred : s.1.1.deferred = []
  events : s.1.1.events.reverse = s.1.2.map ran
  accepted : s.2.countP (fun o => o.2 = .accepted) = s.1.2.length

theorem execute_of_inline {t : Trigger} (h : t.executor = .inline) (a : Action) :
    t.execute a = (t.run a, match a.ending.stop? with
      | none => .accepted
      | some why => .stopped why) := by
  unfold execute
  rw [h, Action.result_eq]
  cases a.ending.stop? <;> rfl

namespace OnTheSpot

variable {s : Progress}

theorem start (book : Playbook Action) : OnTheSpot ((ofBook book .inline, []), []) := ⟨rfl, rfl, rfl, rfl⟩

theorem settle (h : OnTheSpot s) : Prod.map (Prod.map runDeferred id) id s = s := by
  obtain ⟨⟨t, dispatched⟩, offers⟩ := s
  simp only [Prod.map, id, runDeferred_of_nil h.deferred]

theorem fire_smooth (h : OnTheSpot s) (token : Text) : OnTheSpot ((fire .smooth).recording s token).1 := by
  obtain ⟨⟨t, dispatched⟩, offers⟩ := s
  obtain ⟨hexecutor, hdeferred, hevents, haccepted⟩ := h
  simp only [Consumer.recording, fire]
  rcases t.book.lookup token with ⟨why | _ | a, book⟩
  · exact ⟨hexecutor, hdeferred, hevents, by simpa [List.countP_append] using haccepted⟩
  · exact ⟨hexecutor, hdeferred, hevents, by simpa [List.countP_append] using haccepted⟩
  · simp only [execute_of_inline (t := { t with book }) hexecutor]
    exact ⟨hexecutor, hdeferred, by simpa [run, ran] using hevents,
      by simpa [List.countP_append, Fate.smooth, ActionEnd.stop?] using haccepted⟩

end OnTheSpot

/-- One trigger was stopped by an action, after which another one went on. -/
inductive Cut (fate : Fate) (why : Stop) : Progress → Progress → Prop where
  | intro {t : Trigger} {before : List Action} {a : Action} {offered : List (Text × Verdict)} {token : Text}
      {r : Progress} (spares : fate.Spares before) (stop : (fate before a).stop? = some why)
      (spot : OnTheSpot ((t, before ++ [a]), offered ++ [(token, .accepted)])) (dispatched : before ++ [a] <+: r.1.2)
      (offers : offered ++ [(token, .accepted)] <+: r.2) :
      Cut fate why ((t, before ++ [a]), offered ++ [(token, .stopped why)]) r

theorem fire_prefix (fate : Fate) (r : Progress) (token : Text) :
    r.1.2 <+: ((fire fate).recording r token).1.1.2 ∧ r.2 <+: ((fire fate).recording r token).1.2 := by
  obtain ⟨⟨t, dispatched⟩, offers⟩ := r
  simp only [Consumer.recording, fire]
  rcases t.book.lookup token with ⟨why | _ | a, book⟩
  · exact ⟨List.prefix_rfl, List.prefix_append _ _⟩
  · exact ⟨List.prefix_rfl, List.prefix_append _ _⟩
  · exact ⟨List.prefix_append _ _, List.prefix_append _ _⟩

/-- A trigger that runs its actions on the spot goes on like one with actions that succeed until one does not. -/
theorem fire_follows_smooth (fate : Fate) :
    Follows (fire fate).recording (Prod.map (Prod.map runDeferred id) id) (fire .smooth).recording
      (Prod.map (Prod.map runDeferred id) id) (fun s r => s = r ∧ OnTheSpot r ∧ fate.Spares r.1.2) (Cut fate) where
  step := by
    rintro _ ⟨⟨t, dispatched⟩, offers⟩ token ⟨rfl, hspot, hspares⟩
    have hnext := hspot.fire_smooth token
    rcases hlookup : t.book.lookup token with ⟨why | _ | a, book⟩ <;>
      simp only [Consumer.recording, fire, hlookup] at hnext ⊢
    · exact .inl ⟨rfl, rfl, hnext, hspares⟩
    · exact .inl ⟨rfl, rfl, hnext, hspares⟩
    · simp only [execute_of_inline (t := { t with book }) hspot.executor] at hnext ⊢
      rcases hstop : (fate dispatched a).stop? with _ | why
      · exact .inl ⟨rfl, rfl, hnext, hspares.concat (ActionEnd.stop?_eq_none.mp hstop)⟩
      · exact .inr ⟨why, rfl, .intro hspares hstop hnext List.prefix_rfl List.prefix_rfl⟩
  settle := by
    rintro s r ⟨rfl, hspot, hspares⟩
    rw [hspot.settle]
    exact ⟨rfl, hspot, hspares⟩
  later := by
    rintro why _ r token ⟨hspares, hstop, hspot, hdispatched, hoffers⟩
    obtain ⟨hactions, hrecord⟩ := fire_prefix .smooth r token
    exact .intro hspares hstop hspot (hdispatched.trans hactions) (hoffers.trans hrecord)
  settled := by
    rintro why _ r ⟨hspares, hstop, hspot, hdispatched, hoffers⟩
    refine ⟨?_, .intro hspares hstop hspot hdispatched hoffers⟩
    simp only [Prod.map, id, runDeferred_of_nil hspot.deferred]
    exact .intro hspares hstop hspot hdispatched hoffers

/-! ### Actions that are put off -/

theorem events_runLater (t : Trigger) (a : Action) : (t.runLater a).events = ran a :: t.events := by
  unfold runLater
  rcases a.result with (e | text) | u <;> rfl

/-- A trigger puts its actions off where another one runs them on the spot, and they all succeed: both are at the same
place of their playbook, were offered the same tokens and dispatched the same actions, which were run, or will be. -/
structure PutOff (s r : Progress) : Prop where
  defers : s.1.1.executor.defers
  spot : OnTheSpot r
  book : s.1.1.book = r.1.1.book
  dispatched : s.1.2 = r.1.2
  offers : s.2 = r.2
  events : s.1.1.runDeferred.events = r.1.1.events

/-- A trigger that puts its actions off goes on like one that runs them on the spot when they succeed. -/
theorem fire_follows_of_defers (fate : Fate) :
    Follows (fire fate).recording (Prod.map (Prod.map runDeferred id) id) (fire .smooth).recording
      (Prod.map (Prod.map runDeferred id) id) PutOff fun _ _ _ => False where
  step := by
    rintro ⟨⟨t, dispatched⟩, offers⟩ ⟨⟨u, _⟩, _⟩ token ⟨hdefers, hspot, hbook, rfl, rfl, hevents⟩
    have hnext := hspot.fire_smooth token
    refine .inl ?_
    simp only at hbook hdefers hevents
    rcases hlookup : u.book.lookup token with ⟨why | _ | a, book⟩ <;>
      simp only [Consumer.recording, fire, hbook, hlookup] at hnext ⊢
    · exact ⟨trivial, hdefers, hnext, rfl, rfl, rfl, by simpa only [runDeferred_book] using hevents⟩
    · exact ⟨trivial, hdefers, hnext, rfl, rfl, rfl, by simpa only [runDeferred_book] using hevents⟩
    · have hlater := runDeferred_execute_of_defers (t := { t with book }) hdefers
        { a with ending := fate dispatched a }
      simp only [execute_of_defers (t := { t with book }) hdefers] at hlater ⊢
      simp only [execute_of_inline (t := { u with book }) hspot.executor] at hnext ⊢
      refine ⟨rfl, hdefers, hnext, rfl, rfl, rfl, ?_⟩
      rw [hlater, events_runLater, runDeferred_book, hevents]
      rfl
  settle := by
    rintro ⟨⟨t, dispatched⟩, offers⟩ ⟨⟨u, _⟩, _⟩ ⟨hdefers, hspot, hbook, rfl, rfl, hevents⟩
    rw [hspot.settle]
    refine ⟨?_, hspot, t.book_runDeferred.trans hbook, rfl, rfl, ?_⟩
    · exact (congrArg Executor.defers t.executor_runDeferred).trans hdefers
    · exact (congrArg Trigger.events (runDeferred_of_nil t.deferred_runDeferred)).trans hevents
  later := fun _ => False.elim
  settled := False.elim

/-! ### Runs -/

section Runs

variable (fate : Fate) {executor : Executor} (book : Playbook Action) (w : Worker) (batches : List Batch)

/-- When the endings are those of the actions of a playbook, the course is a run of `Trigger.consume`. -/
theorem course_of_ending (ending : Action → ActionEnd) (executor : Executor) :
    let b := book.map fun a => { a with ending := ending a }
    let run := Worker.run consume.recording (Prod.map runDeferred id) (ofBook b executor, []) w batches
    ∃ dispatched, course (fun _ => ending) executor book w batches =
      ⟨run.1.2, dispatched, run.1.1.events.reverse, run.2⟩ := by
  intro b run
  have hrun : Together _ _ _ run (runBy (fun _ => ending) executor book w batches) :=
    (consume_follows ending).run (r := ((ofBook book executor, []), [])) rfl w batches
  obtain ⟨hresult, hstate⟩ | ⟨_, _, hnever⟩ := hrun
  · rw [hresult, hstate]
    exact ⟨_, rfl⟩
  · cases hnever

/-- **What actions that are put off come to does not matter**: a trigger does what one does that runs them on the spot
when they all succeed. -/
theorem course_of_defers (h : executor.defers) :
    course fate executor book w batches = course .smooth .inline book w batches := by
  have hstart : PutOff ((ofBook book executor, []), []) ((ofBook book .inline, []), []) :=
    ⟨h, .start book, rfl, rfl, rfl, rfl⟩
  have hrun : Together PutOff _ _ (runBy fate executor book w batches) (runBy .smooth .inline book w batches) :=
    (fire_follows_of_defers fate).run hstart w batches
  have hdone : (runBy fate executor book w batches).1.1.1.deferred = [] :=
    Worker.run_between (J := fun s : Progress => s.1.1.deferred = []) (fun s => s.1.1.deferred_runDeferred) rfl w
      batches
  unfold course
  rcases hs : runBy fate executor book w batches with ⟨⟨⟨t, dispatched⟩, offers⟩, result⟩
  rcases hr : runBy .smooth .inline book w batches with ⟨⟨⟨u, _⟩, _⟩, _⟩
  rw [hs, hr] at hrun
  rw [hs] at hdone
  obtain ⟨rfl, -, -, -, rfl, rfl, hevents⟩ | ⟨_, _, hnever⟩ := hrun
  · rw [runDeferred_of_nil hdone] at hevents
    exact congrArg (fun events => Course.mk offers dispatched (List.reverse events) result) hevents
  · cases hnever

theorem course_smooth :
    let smooth := course .smooth .inline book w batches
    smooth.events = smooth.dispatched.map ran ∧
      smooth.offers.countP (fun o => o.2 = .accepted) = smooth.dispatched.length := by
  have hspot : OnTheSpot (runBy .smooth .inline book w batches).1 :=
    Worker.run_keeps (fun _ token h => h.fire_smooth token) (fun _ h => h.settle.symm ▸ h) (.start book) w batches
  exact ⟨hspot.events, hspot.accepted⟩

/-- **Actions on the spot are run until one of them does not succeed.** A trigger does what it does when they all
succeed, unless one of those actions does not; then that action is the last one, and its token too. -/
theorem course_of_inline :
    let smooth := course .smooth .inline book w batches
    (fate.Spares smooth.dispatched ∧ course fate .inline book w batches = smooth) ∨
      ∃ before a offered token why, fate.Spares before ∧ (fate before a).stop? = some why ∧
        before ++ [a] <+: smooth.dispatched ∧ offered ++ [(token, .accepted)] <+: smooth.offers ∧
        offered.countP (fun o => o.2 = .accepted) = before.length ∧
        course fate .inline book w batches = ⟨offered ++ [(token, .stopped why)], before ++ [a],
          (before ++ [a]).map ran, .error (.ofStop why)⟩ := by
  have hrun : Together _ (Cut fate) _ (runBy fate .inline book w batches) (runBy .smooth .inline book w batches) :=
    (fire_follows_smooth fate).run ⟨rfl, .start book, fate.spares_nil⟩ w batches
  unfold course
  rcases hs : runBy fate .inline book w batches with ⟨s, result⟩
  rcases hr : runBy .smooth .inline book w batches with ⟨⟨⟨u, dispatched⟩, offers⟩, _⟩
  rw [hs, hr] at hrun
  obtain ⟨hresult, hstate, -, hspares⟩ | ⟨why, rfl, hspares, hstop, hspot, hdispatched, hoffers⟩ := hrun
  · obtain rfl : result = _ := hresult
    obtain rfl : s = ((u, dispatched), offers) := hstate
    exact .inl ⟨hspares, rfl⟩
  · refine .inr ⟨_, _, _, _, why, hspares, hstop, hdispatched, hoffers, ?_, ?_⟩
    · simpa [List.countP_append] using hspot.accepted
    · exact congrArg (fun events => Course.mk _ _ events _) hspot.events

end Runs

/-- **Only actions that are run on the spot matter to a trigger, and they end it at the first failure.** Let the
actions of a trigger end in any way, each time that one is run. Compare its course with the one of a trigger that runs
them on the spot and in which they all succeed.
* Where the endings are those of the actions of a playbook, courses are the runs of `Trigger.consume`.
* With an executor that puts actions off, the course is the same: the offers with the answers, the actions that are
  dispatched, those that are run, and the result.
* Each token that is accepted dispatches one action, and each action that is dispatched is run once.
* With actions run on the spot, the course is the same too when none of them fails or panics.
* Otherwise the first one that does ends it: the actions up to that one are run and no other, its token is the last
  one offered, and the result is the failure or the panic. -/
theorem course_of_fate (book : Playbook Action) (w : Worker) (batches : List Batch) :
    let smooth := course .smooth .inline book w batches
    (∀ (ending : Action → ActionEnd) (executor : Executor),
      let b := book.map fun a => { a with ending := ending a }
      let run := Worker.run consume.recording (Prod.map runDeferred id) (ofBook b executor, []) w batches
      ∃ dispatched, course (fun _ => ending) executor book w batches =
        ⟨run.1.2, dispatched, run.1.1.events.reverse, run.2⟩) ∧
    (∀ (fate : Fate) (executor : Executor), executor.defers → course fate executor book w batches = smooth) ∧
    (smooth.events = smooth.dispatched.map ran ∧
      smooth.offers.countP (fun o => o.2 = .accepted) = smooth.dispatched.length) ∧
    (∀ fate : Fate, fate.Spares smooth.dispatched → course fate .inline book w batches = smooth) ∧
    ∀ (fate : Fate) (before : List Action) (a : Action) (after : List Action) (why : Stop),
      smooth.dispatched = before ++ a :: after → fate.Spares before → (fate before a).stop? = some why →
      ∃ offered token more, smooth.offers = offered ++ (token, .accepted) :: more ∧
        offered.countP (fun o => o.2 = .accepted) = before.length ∧
        course fate .inline book w batches = ⟨offered ++ [(token, .stopped why)], before ++ [a],
          (before ++ [a]).map ran, .error (.ofStop why)⟩ := by
  intro smooth
  refine ⟨fun ending executor => course_of_ending book w batches ending executor,
    fun fate executor h => course_of_defers fate book w batches h, course_smooth book w batches,
    fun fate hspares => ?_, fun fate before a after why hsmooth hspares hstop => ?_⟩
  · rcases course_of_inline fate book w batches with ⟨-, h⟩ | ⟨before, a, _, _, why, -, hstop, ⟨after, hfirst⟩, -⟩
    · exact h
    · rw [List.append_assoc, List.singleton_append] at hfirst
      exact absurd (hspares before a after hfirst.symm) (ActionEnd.ne_done_of_stop hstop)
  · have hfirst : before ++ [a] <+: smooth.dispatched :=
      ⟨after, by rw [hsmooth, List.append_assoc, List.singleton_append]⟩
    rcases course_of_inline fate book w batches with
      ⟨hall, -⟩ | ⟨before', a', offered, token, why', hspares', hstop', hfirst', ⟨more, hoffers⟩, haccepted, hcourse⟩
    · exact absurd (hall before a after hsmooth) (ActionEnd.ne_done_of_stop hstop)
    · obtain ⟨rfl, rfl⟩ := Fate.eq_of_first hfirst hspares (ActionEnd.ne_done_of_stop hstop) hfirst' hspares'
        (ActionEnd.ne_done_of_stop hstop')
      obtain rfl : why = why' := Option.some.inj (hstop.symm.trans hstop')
      rw [List.append_assoc, List.singleton_append] at hoffers
      exact ⟨offered, token, more, hoffers.symm, haccepted, hcourse⟩

/-- The second of three actions panics: put off, it is run like the others; on the spot, it is the last one. -/
theorem course_of_fate_of_panic :
    let action : Char → Action := fun c => ⟨[c], .done⟩
    let book : Playbook Action := .ofRules .ordered
      [⟨.exact ['a'], .fixed (action 'r')⟩, ⟨.exact ['b'], .fixed (action 's')⟩, ⟨.exact ['c'], .fixed (action 't')⟩]
    let fate : Fate := fun before _ => if before.length = 1 then .panicked ['!'] else .done
    let w : Worker := ⟨.line, .start .utf8 false, []⟩
    let batches : List Batch := [⟨[[0x61, 0x0A, 0x62, 0x0A]], .idle⟩, ⟨[[0x63, 0x0A]], .finished⟩]
    course fate .spawned book w batches =
        ⟨[(['a'], .accepted), (['b'], .accepted), (['c'], .accepted)], [action 'r', action 's', action 't'],
          [.run ['r'], .run ['s'], .run ['t']], .error (.finished 0 0)⟩ ∧
      course fate .inline book w batches =
        ⟨[(['a'], .accepted), (['b'], .stopped (.panic ['!']))], [action 'r', action 's'],
          [.run ['r'], .run ['s']], .error (.panicked ['!'])⟩ := by
  intro action book fate w batches
  have hsmooth : course .smooth .inline book w batches =
      ⟨[(['a'], .accepted), (['b'], .accepted), (['c'], .accepted)], [action 'r', action 's', action 't'],
        [.run ['r'], .run ['s'], .run ['t']], .error (.finished 0 0)⟩ := by
    simp only [w, batches]
    with_unfolding_all rfl
  obtain ⟨-, hdefers, -, -, hinline⟩ := course_of_fate book w batches
  refine ⟨(hdefers fate .spawned rfl).trans hsmooth, ?_⟩
  have hspares : fate.Spares [action 'r'] := (Fate.spares_nil fate).concat rfl
  obtain ⟨offered, token, more, hoffers, haccepted, hcourse⟩ :=
    hinline fate [action 'r'] (action 's') [action 't'] (.panic ['!']) (congrArg Course.dispatched hsmooth) hspares rfl
  rw [hsmooth] at hoffers
  -- the token that fires the second action is the second one
  rcases offered with _ | ⟨first, _ | ⟨second, offered⟩⟩
  · cases haccepted
  · cases hoffers
    exact hcourse
  · obtain ⟨rfl, hrest⟩ := List.cons.inj hoffers
    obtain ⟨rfl, -⟩ := List.cons.inj hrest
    simp at haccepted

end Trigger

end Dialogue
