import Dialogue.Proofs.Process.Outcomes

/-!
# The verdict on copiers that end in any order

A call for the end of all copying closes the input of a command and then waits for one copier after another. It may
have to look many times, and in between the copiers go on.

* `Attached`, `Attached.act`: a command whose copiers run and are waited for;
* `Attached.Open`, `Attached.Over`: what is known before the first call returns, and after that;
* `Attached.Tells`, `Attached.Tells.act`, `Attached.Tells.look`: what a log tells, and what a look finds out;
* **`Attached.judges_outcomes`**: a call returns when all copiers are over, and the verdict depends on the outcomes
  alone.
-/

namespace Dialogue

/-- The streams of a command, those whose copiers were not waited for yet, and what the call that waits has noted. -/
structure Attached where
  streams : Streams
  handles : List Stream
  waiting : Option Streams.Verdict

namespace Attached

/-- What happens to a command: something around its streams, a panic of its input, a call for the end of all copying,
and a look at the copiers by the call that waits. -/
inductive Act where
  | around (a : Streams.Act)
  | panic (text : Text)
  | call
  | look

/-- An act, and the result of the call when it returns. A call waits until it has returned. -/
def act (s : Attached) : Act → Option (Except Error Unit) × Attached
  | .around a => (none, { s with streams := (s.streams.act a).2 })
  | .panic text => (none, { s with streams := { s.streams with stdin := s.streams.stdin.breakOff text } })
  | .call => (none, { s with streams := s.streams.closeInput, waiting := s.waiting.or (some ⟨none, []⟩) })
  | .look =>
    match s.waiting with
    | none => (none, s)
    | some v =>
      match s.streams.collectOf v s.handles with
      | (v, true) => (some v.result, { s with handles := [], waiting := none })
      | (v, false) =>
        (none, { s with handles := s.handles.dropWhile fun x => s.streams.copier x ≠ .running, waiting := some v })

/-- A command all of whose copiers were just started. -/
def start (c : Command) (windows : Windows) (stdout stderr : Source) (sink : Sink) : Attached :=
  ⟨.attach c windows stdout stderr sink, c.started, none⟩

/-- Acts with their results, the earliest first. -/
abbrev Log := List (Act × Option (Except Error Unit))

/-- What was noted so far. -/
def verdict (s : Attached) : Streams.Verdict := s.waiting.getD ⟨none, []⟩

def Act.stdout? : Act → Option OutputPipe.Act
  | .around a => a.stdout?
  | _ => none

def Act.stderr? : Act → Option OutputPipe.Act
  | .around a => a.stderr?
  | _ => none

def Act.stdin? : Act → Option (InputPipe.Act ⊕ Text)
  | .around a => a.stdin?.map .inl
  | .panic text => some (.inr text)
  | .call => some (.inl .finish)
  | .look => none

variable {c : Command} {s t : Attached}

theorem verdict_of_waiting {v : Streams.Verdict} (h : s.waiting = some v) : s.verdict = v := by
  rw [verdict, h]
  rfl

theorem look_of_idle (h : s.waiting = none) : s.act .look = (none, s) := by
  simp only [act, h]

theorem look_of_over {v v' : Streams.Verdict} (h : s.waiting = some v)
    (hcollect : s.streams.collectOf v s.handles = (v', true)) :
    s.act .look = (some v'.result, { s with handles := [], waiting := none }) := by
  simp only [act, h, hcollect]

theorem look_of_running {v v' : Streams.Verdict} (h : s.waiting = some v)
    (hcollect : s.streams.collectOf v s.handles = (v', false)) :
    s.act .look = (none, { s with
      handles := s.handles.dropWhile fun x => s.streams.copier x ≠ .running, waiting := some v' }) := by
  simp only [act, h, hcollect]

theorem streams_look (s : Attached) : (s.act .look).2.streams = s.streams := by
  rcases hwaiting : s.waiting with _ | v
  · rw [look_of_idle hwaiting]
  · rcases hcollect : s.streams.collectOf v s.handles with ⟨v', _ | _⟩
    · rw [look_of_running hwaiting hcollect]
    · rw [look_of_over hwaiting hcollect]

theorem becomes_act (s : Attached) (a : Act) (x : Stream) :
    (s.streams.copier x).Becomes ((s.act a).2.streams.copier x) := by
  cases a with
  | around a => exact s.streams.becomes_act a x
  | panic text =>
    cases x with
    | stdout => exact .same _
    | stderr => exact .same _
    | stdin => exact s.streams.stdin.becomes_breakOff text
  | call => exact s.streams.becomes_act (.stdin .finish) x
  | look =>
    rw [streams_look]
    exact .same _

theorem act_of_ne_look {a : Act} (h : a ≠ .look) (s : Attached) :
    (s.act a).1 = none ∧ (s.act a).2.handles = s.handles ∧ (s.act a).2.verdict = s.verdict := by
  cases a with
  | around a => exact ⟨rfl, rfl, rfl⟩
  | panic text => exact ⟨rfl, rfl, rfl⟩
  | call =>
    refine ⟨rfl, rfl, ?_⟩
    unfold verdict
    show (s.waiting.or (some ⟨none, []⟩)).getD _ = _
    cases s.waiting <;> rfl
  | look => exact absurd rfl h

/-- Each started copier runs or is over, and there are no others. -/
def Present (c : Command) (s : Attached) : Prop := ∀ x, s.streams.copier x = .absent ↔ x ∉ c.started

theorem present_start (c : Command) (windows : Windows) (stdout stderr : Source) (sink : Sink) :
    Present c (start c windows stdout stderr sink) := by
  obtain ⟨hasOut, hasErr, hasIn⟩ := c
  intro x
  rw [Command.mem_started]
  cases x with
  | stdout => cases hasOut <;> simp [start, Streams.attach, Streams.copier, Streams.outputPipe, Command.has]
  | stderr => cases hasErr <;> simp [start, Streams.attach, Streams.copier, Streams.outputPipe, Command.has]
  | stdin => cases hasIn <;> simp [start, Streams.attach, Streams.copier, Streams.inputPipe, Command.has]

theorem Present.act (h : Present c s) (a : Act) : Present c (s.act a).2 := fun x =>
  (s.becomes_act a x).absent_iff.trans (h x)

theorem Present.ended (h : Present c s) {x : Stream} (hx : x ∈ c.started) (hover : s.streams.copier x ≠ .running) :
    ∃ o, s.streams.copier x = .ended o := by
  rcases hcopier : s.streams.copier x with _ | _ | o
  · exact absurd hx ((h x).mp hcopier)
  · exact absurd hcopier hover
  · exact ⟨o, rfl⟩

/-- No call has returned: what was noted is the verdict on the copiers that were waited for. -/
structure Open (c : Command) (noted : List Stream) (s : Attached) : Prop where
  started : c.started = noted ++ s.handles
  still : ∀ x ∈ noted, s.streams.copier x ≠ .running
  verdict : s.verdict = (s.streams.collectOf ⟨none, []⟩ noted).1

/-- A call has returned: no copier runs, and none is left to be waited for. -/
structure Over (c : Command) (s : Attached) : Prop where
  handles : s.handles = []
  still : ∀ x ∈ c.started, s.streams.copier x ≠ .running
  verdict : s.verdict = ⟨none, []⟩

theorem open_start (c : Command) (windows : Windows) (stdout stderr : Source) (sink : Sink) :
    Open c [] (start c windows stdout stderr sink) := ⟨rfl, nofun, rfl⟩

namespace Open

variable {noted : List Stream}

theorem collectOf_started (h : Open c noted s) :
    s.streams.collectOf ⟨none, []⟩ c.started = s.streams.collectOf s.verdict s.handles := by
  rw [h.started, Streams.collectOf_append h.still, h.verdict]

theorem act_of_ne_look (h : Open c noted s) {a : Act} (ha : a ≠ .look) : Open c noted (s.act a).2 := by
  obtain ⟨-, hhandles, hverdict⟩ := Attached.act_of_ne_look ha s
  have hsame : ∀ x ∈ noted, (s.act a).2.streams.copier x = s.streams.copier x := fun x hx =>
    (s.becomes_act a x).eq_of_over (h.still x hx)
  refine ⟨by rw [hhandles, h.started], fun x hx => ?_, ?_⟩
  · rw [hsame x hx]
    exact h.still x hx
  · rw [hverdict, h.verdict, Streams.collectOf_congr hsame]

theorem look_of_running (h : Open c noted s) (hrun : ∃ x ∈ c.started, s.streams.copier x = .running) :
    (s.act .look).1 = none ∧ ∃ noted', Open c noted' (s.act .look).2 := by
  rcases hwaiting : s.waiting with _ | v
  · rw [Attached.look_of_idle hwaiting]
    exact ⟨rfl, noted, h⟩
  · have hv := verdict_of_waiting hwaiting
    have hnot : (s.streams.collectOf v s.handles).2 ≠ true := by
      rw [← hv, ← h.collectOf_started, Ne, Streams.snd_collectOf]
      obtain ⟨x, hx, hcopier⟩ := hrun
      exact fun hover => hover x hx hcopier
    rcases hcollect : s.streams.collectOf v s.handles with ⟨v', all⟩
    obtain rfl : all = false := by rw [hcollect] at hnot; simpa using hnot
    rw [Attached.look_of_running hwaiting hcollect]
    -- the copiers that the look went past are noted now
    refine ⟨rfl, noted ++ s.handles.takeWhile fun x => s.streams.copier x ≠ .running, ?_, fun x hx => ?_, ?_⟩
    · show c.started = _ ++ _
      rw [List.append_assoc, List.takeWhile_append_dropWhile, h.started]
    · rcases List.mem_append.mp hx with hx | hx
      · exact h.still x hx
      · simpa using List.mem_takeWhile_imp hx
    · show v' = _
      rw [Streams.collectOf_append h.still, ← h.verdict, hv, ← Streams.fst_collectOf, hcollect]

theorem look_of_over (h : Open c noted s) (hwaiting : s.waiting.isSome)
    (hover : ∀ x ∈ c.started, s.streams.copier x ≠ .running) :
    (s.act .look).1 = some (s.streams.collectOf ⟨none, []⟩ c.started).1.result ∧ Over c (s.act .look).2 := by
  obtain ⟨v, hwaiting⟩ := Option.isSome_iff_exists.mp hwaiting
  have hv := verdict_of_waiting hwaiting
  have hall := Streams.snd_collectOf (v := ⟨none, []⟩) |>.mpr hover
  rw [h.collectOf_started, hv] at hall ⊢
  rcases hcollect : s.streams.collectOf v s.handles with ⟨v', all⟩
  obtain rfl : all = true := by rw [hcollect] at hall; exact hall
  rw [Attached.look_of_over hwaiting hcollect]
  exact ⟨rfl, rfl, hover, rfl⟩

/-- Whatever happens, the call goes on waiting or returns when no copier runs. -/
theorem act (h : Open c noted s) (a : Act) :
    ((s.act a).1 = none ∧ ∃ noted', Open c noted' (s.act a).2) ∨ ((s.act a).1 ≠ none ∧ Over c (s.act a).2) := by
  by_cases ha : a = .look
  · subst ha
    by_cases hrun : ∃ x ∈ c.started, s.streams.copier x = .running
    · exact .inl (h.look_of_running hrun)
    · rcases hwaiting : s.waiting with _ | v
      · rw [look_of_idle hwaiting]
        exact .inl ⟨rfl, noted, h⟩
      · push Not at hrun
        obtain ⟨hsome, hover⟩ := h.look_of_over (by rw [hwaiting]; rfl) hrun
        exact .inr ⟨by rw [hsome]; nofun, hover⟩
  · exact .inl ⟨(Attached.act_of_ne_look ha s).1, noted, h.act_of_ne_look ha⟩

end Open

namespace Over

theorem collectOf_handles (h : Over c s) (v : Streams.Verdict) : s.streams.collectOf v s.handles = (v, true) := by
  rw [h.handles]
  rfl

theorem act (h : Over c s) (a : Act) : Over c (s.act a).2 := by
  have hover : ∀ x ∈ c.started, (s.act a).2.streams.copier x ≠ .running := by
    intro x hx
    rw [(s.becomes_act a x).eq_of_over (h.still x hx)]
    exact h.still x hx
  by_cases ha : a = .look
  · subst ha
    rcases hwaiting : s.waiting with _ | v
    · rw [look_of_idle hwaiting]
      exact h
    · rw [look_of_over hwaiting (h.collectOf_handles v)] at hover ⊢
      exact ⟨rfl, hover, rfl⟩
  · obtain ⟨-, hhandles, hverdict⟩ := act_of_ne_look ha s
    exact ⟨hhandles.trans h.handles, hover, hverdict.trans h.verdict⟩

theorem look (h : Over c s) : (s.act .look).1 = if s.waiting.isSome then some (.ok ()) else none := by
  rcases hwaiting : s.waiting with _ | v
  · rw [look_of_idle hwaiting]
    rfl
  · have hv : v = ⟨none, []⟩ := (verdict_of_waiting hwaiting).symm.trans h.verdict
    rw [look_of_over hwaiting (h.collectOf_handles v), hv]
    rfl

end Over

/-! ## Acts in any order -/

/-- A call was made that has not returned. -/
def Log.Waits (log : Log) : Prop :=
  ∃ earlier since, log = earlier ++ (.call, none) :: since ∧ ∀ e ∈ since, e.2 = none

theorem Log.Waits.of_concat {log : Log} {a : Act} {r : Option (Except Error Unit)} (h : Waits (log ++ [(a, r)])) :
    r = none ∧ (a = .call ∨ log.Waits) := by
  obtain ⟨earlier, since, hlog, hsince⟩ := h
  rcases List.eq_nil_or_concat since with rfl | ⟨since', e, rfl⟩
  · obtain ⟨-, hlast⟩ := List.append_inj' hlog rfl
    obtain ⟨rfl, rfl⟩ := Prod.mk.inj (List.singleton_inj.mp hlast)
    exact ⟨rfl, .inl rfl⟩
  · rw [List.concat_eq_append, ← List.cons_append, ← List.append_assoc] at hlog
    obtain ⟨hbefore, hlast⟩ := List.append_inj' hlog rfl
    obtain rfl := List.singleton_inj.mp hlast
    rw [List.concat_eq_append, List.forall_mem_append] at hsince
    exact ⟨hsince.2 _ List.mem_cons_self, .inr ⟨earlier, since', hbefore, hsince.1⟩⟩

theorem waiting_act (a : Act) (hnone : (s.act a).1 = none) (h : a = .call ∨ s.waiting.isSome) :
    (s.act a).2.waiting.isSome := by
  cases a with
  | around a => exact h.resolve_left nofun
  | panic text => exact h.resolve_left nofun
  | call => cases hwaiting : s.waiting <;> simp [act, hwaiting]
  | look =>
    obtain ⟨v, hwaiting⟩ := Option.isSome_iff_exists.mp (h.resolve_left nofun)
    rcases hcollect : s.streams.collectOf v s.handles with ⟨v', _ | _⟩
    · rw [look_of_running hwaiting hcollect]
      rfl
    · rw [look_of_over hwaiting hcollect] at hnone
      cases hnone

/-- What the log of a command tells of it. -/
structure Tells (c : Command) (log : Log) (s : Attached) : Prop where
  present : Present c s
  waiting : log.Waits → s.waiting.isSome
  phase : ((∀ e ∈ log, e.2 = none) ∧ ∃ noted, Open c noted s) ∨ ((∃ e ∈ log, e.2 ≠ none) ∧ Over c s)

namespace Tells

variable {log : Log}

theorem start (c : Command) (windows : Windows) (stdout stderr : Source) (sink : Sink) :
    Tells c [] (start c windows stdout stderr sink) where
  present := present_start c windows stdout stderr sink
  waiting := by
    rintro ⟨earlier, since, hlog, -⟩
    simp at hlog
  phase := .inl ⟨nofun, [], open_start c windows stdout stderr sink⟩

theorem act (ht : Tells c log s) (a : Act) : Tells c (log ++ [(a, (s.act a).1)]) (s.act a).2 := by
  refine ⟨ht.present.act a, fun hwaits => ?_, ?_⟩
  · obtain ⟨hnone, hcall | hwaits⟩ := hwaits.of_concat
    · exact waiting_act a hnone (.inl hcall)
    · exact waiting_act a hnone (.inr (ht.waiting hwaits))
  · rcases ht.phase with ⟨hlog, noted, hopen⟩ | ⟨⟨e, he, hreturned⟩, hover⟩
    · rcases hopen.act a with ⟨hnone, hopen'⟩ | ⟨hreturned, hover⟩
      · exact .inl ⟨List.forall_mem_append.mpr ⟨hlog, by simpa using hnone⟩, hopen'⟩
      · exact .inr ⟨⟨_, List.mem_append_right _ List.mem_cons_self, hreturned⟩, hover⟩
    · exact .inr ⟨⟨e, List.mem_append_left _ he, hreturned⟩, hover.act a⟩

theorem look (ht : Tells c log s) :
    (log.Waits → ((s.act .look).1 = none ↔ ∃ x ∈ c.started, s.streams.copier x = .running)) ∧
      ∀ r, (s.act .look).1 = some r →
        (∀ x ∈ c.started, ∃ o, s.streams.copier x = .ended o) ∧
        ((∀ e ∈ log, e.2 = none) → Judges s.streams.copier c.started r ∧ s.streams.collect.1.result = r) ∧
        ((∃ e ∈ log, e.2 ≠ none) → r = .ok () ∧ s.streams.forgetCopiers.collect.1.result = r) := by
  rcases ht.phase with ⟨hlog, noted, hopen⟩ | ⟨hreturned, hover⟩
  · by_cases hrun : ∃ x ∈ c.started, s.streams.copier x = .running
    · have hnone := (hopen.look_of_running hrun).1
      exact ⟨fun _ => iff_of_true hnone hrun, fun r hr => by rw [hnone] at hr; cases hr⟩
    · have hover : ∀ x ∈ c.started, s.streams.copier x ≠ .running := fun x hx hcopier => hrun ⟨x, hx, hcopier⟩
      have hended : ∀ x ∈ c.started, ∃ o, s.streams.copier x = .ended o := fun x hx =>
        ht.present.ended hx (hover x hx)
      rcases hwaiting : s.waiting with _ | v
      · rw [look_of_idle hwaiting]
        exact ⟨fun hwaits => by simpa [hwaiting] using ht.waiting hwaits, nofun⟩
      · have hsome := (hopen.look_of_over (by rw [hwaiting]; rfl) hover).1
        rw [hsome]
        refine ⟨fun _ => iff_of_false nofun hrun, ?_⟩
        rintro r ⟨⟩
        refine ⟨hended, fun _ => ⟨judges_result hended ?_, ?_⟩, fun ⟨e, he, hne⟩ => absurd (hlog e he) hne⟩
        · exact (Streams.first_collectFrom ⟨none, []⟩ _).2 (Streams.snd_collectOf.mpr hover)
        · rw [Streams.collect_eq_collectOf ht.present]
  · have hrun : ¬∃ x ∈ c.started, s.streams.copier x = .running := fun ⟨x, hx, hcopier⟩ => hover.still x hx hcopier
    have hlook := hover.look
    refine ⟨fun hwaits => ?_, fun r hr => ?_⟩
    · rw [hlook, if_pos (ht.waiting hwaits)]
      exact iff_of_false nofun hrun
    · obtain ⟨e, he, hne⟩ := hreturned
      rw [hlook] at hr
      refine ⟨fun x hx => ht.present.ended hx (hover.still x hx), fun hlog => absurd (hlog e he) hne, fun _ => ?_⟩
      split_ifs at hr
      obtain rfl := Option.some.inj hr
      exact ⟨rfl, rfl⟩

end Tells

/-- **The verdict depends on the outcomes alone.** Take a command with any of its streams, sources and a sink that do
anything, and any acts of the copiers, of the holders of the endpoints and of calls for the end of all copying, in any
order. Each stream ends up as it does when nothing happens to the others. A call that waits does not return at a look
as long as a started copier runs, and returns at the first look after that. The first call to return names the failure
of the first copier that did not end well, in the order output, diagnostics, input, and is good when there is none; that
is the verdict on all copiers at once. Every later call is good, and so is the verdict when no copier is left. -/
theorem judges_outcomes (c : Command) (windows : Windows) (stdout stderr : Source) (sink : Sink) (acts : List Act) :
    let s₀ := start c windows stdout stderr sink
    let t := (perform act s₀ acts).2.streams
    (t.stdout = (perform OutputPipe.act s₀.streams.stdout (acts.filterMap Act.stdout?)).2 ∧
      t.stderr = (perform OutputPipe.act s₀.streams.stderr (acts.filterMap Act.stderr?)).2 ∧
      t.stdin = (perform InputPipe.undergo s₀.streams.stdin (acts.filterMap Act.stdin?)).2) ∧
    ∀ before result after, (perform act s₀ acts).1 = before ++ (.look, result) :: after →
      let s := (perform act s₀ (before.map Prod.fst)).2.streams
      (Log.Waits before → (result = none ↔ ∃ x ∈ c.started, s.copier x = .running)) ∧
      ∀ r, result = some r →
        (∀ x ∈ c.started, ∃ o, s.copier x = .ended o) ∧
        ((∀ e ∈ before, e.2 = none) → Judges s.copier c.started r ∧ s.collect.1.result = r) ∧
        ((∃ e ∈ before, e.2 ≠ none) → r = .ok () ∧ s.forgetCopiers.collect.1.result = r) := by
  intro s₀ t
  refine ⟨⟨?_, ?_, ?_⟩, ?_⟩
  · refine perform_part (fun s : Attached => s.streams.stdout) ?_ ?_ s₀ acts
    · rintro s ((a | a | a) | text | _ | _) a' ⟨⟩
      rfl
    · rintro s ((a | a | a) | text | _ | _) ⟨⟩
      · rfl
      · rfl
      · rfl
      · rfl
      · exact congrArg Streams.stdout (streams_look s)
  · refine perform_part (fun s : Attached => s.streams.stderr) ?_ ?_ s₀ acts
    · rintro s ((a | a | a) | text | _ | _) a' ⟨⟩
      rfl
    · rintro s ((a | a | a) | text | _ | _) ⟨⟩
      · rfl
      · rfl
      · rfl
      · rfl
      · exact congrArg Streams.stderr (streams_look s)
  · refine perform_part (fun s : Attached => s.streams.stdin) ?_ ?_ s₀ acts
    · rintro s ((a | a | a) | text | _ | _) a' ⟨⟩
      · rfl
      · rfl
      · rfl
    · rintro s ((a | a | a) | text | _ | _) ⟨⟩
      · rfl
      · rfl
      · exact congrArg Streams.stdin (streams_look s)
  · intro before result after hlog
    obtain ⟨hbefore, -⟩ := perform_eq_append hlog
    have ht := perform_keeps (fun log s a (h : Tells c log s) => h.act a) (Tells.start c windows stdout stderr sink)
      (before.map Prod.fst)
    rw [List.nil_append, hbefore] at ht
    have hlook := ht.look
    rwa [(answer_of_perform hlog).1] at hlook

/-- The input fails before the call, and the output panics when the diagnostics are copied and the call has looked
twice. -/
theorem judges_outcomes_of_late_panic :
    let b : Sink.Behaviour := ⟨fun _ _ => .fail (Text.lit "sink broken"), fun _ => none, none⟩
    let before : List Act := [.around (.stdin .take), .around (.stdin (.write .plenty [1])), .around (.stdin .copy),
      .around (.stdin .copy), .call, .look, .around (.stderr (.copy .plenty)),
      .around (.stderr (.copy .plenty)), .look, .around (.stdout (.copy .plenty))]
    let run := perform act (start ⟨true, true, true⟩ .default [.panic (Text.lit "pipe corrupted")]
      [.data [0x65], .finish] (.ofBehaviour b)) before
    (run.2.act .look).1 = some (.error (.watch (.panicked (Text.lit "pipe corrupted")))) ∧
      FirstFailure run.2.streams.copier [.stdout, .stderr, .stdin] (.panicked (Text.lit "pipe corrupted")) ∧
      run.2.streams.copier .stderr = .ended .done ∧
      run.2.streams.copier .stdin = .ended (.failed (Text.lit "sink broken")) := by
  intro b before run
  have hresult : (run.2.act .look).1 = some (.error (.watch (.panicked (Text.lit "pipe corrupted")))) := by
    decide +kernel
  have hnone : ∀ r ∈ run.1.map Prod.snd, r = none := by decide +kernel
  obtain ⟨-, hlooks⟩ := judges_outcomes ⟨true, true, true⟩ .default [.panic (Text.lit "pipe corrupted")]
    [.data [0x65], .finish] (.ofBehaviour b) (before ++ [.look])
  have hlook := hlooks _ _ [] (by rw [perform_append]; rfl)
  rw [map_fst_perform] at hlook
  obtain ⟨-, hfirst, -⟩ := hlook.2 _ hresult
  obtain ⟨hjudges, -⟩ := hfirst fun e he => hnone e.2 (List.mem_map_of_mem he)
  obtain ⟨w, hw, hfailure⟩ := (hjudges.error_iff _).mp rfl
  obtain rfl := Error.watch.inj hw
  exact ⟨hresult, hfailure, by decide +kernel, by decide +kernel⟩

end Attached

end Dialogue
