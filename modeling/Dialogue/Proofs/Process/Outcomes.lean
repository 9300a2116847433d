import Dialogue.Proofs.Process.Streams
import Mathlib.Data.List.TakeWhile

/-!
# How copiers end, and what is made of it

A copier that was started runs until it ends, and then its outcome stays. The outcomes are noted one after another, in
the order output, diagnostics, input.

* `Command.started`: the streams for which a copier is started;
* `Copier.Becomes`, `Streams.becomes_act`: what an act does to a copier;
* `Streams.collectOf`, `Streams.collectOf_append`, `Streams.fst_collectOf`: outcomes that are noted bit by bit;
* `FirstFailure`, `Judges`, **`judges_result`**: what a verdict says of the outcomes.
-/

namespace Dialogue

/-- Whether a command still has a stream. -/
def Command.has (c : Command) : Stream → Bool
  | .stdout => c.stdout
  | .stderr => c.stderr
  | .stdin => c.stdin

/-- The streams for which a copier is started, in the order in which the copiers are waited for. -/
def Command.started (c : Command) : List Stream := [.stdout, .stderr, .stdin].filter c.has

theorem Command.mem_started {c : Command} {x : Stream} : x ∈ c.started ↔ c.has x = true := by
  cases x <;> simp [started]

/-! ## What becomes of a copier -/

/-- A copier goes on, or it ends; when it is over, or there is none, that stays so. -/
inductive Copier.Becomes : Copier → Copier → Prop where
  | same (c : Copier) : Becomes c c
  | ends (o : CopyEnd) : Becomes .running (.ended o)

namespace Copier.Becomes

variable {c c' : Copier}

theorem eq_of_over (h : c.Becomes c') (hover : c ≠ .running) : c' = c := by
  cases h with
  | same => rfl
  | ends o => exact absurd rfl hover

theorem absent_iff (h : c.Becomes c') : c' = .absent ↔ c = .absent := by
  cases h <;> simp

end Copier.Becomes

namespace OutputPipe

theorem becomes_step [Memory] (p : OutputPipe) : p.copier.Becomes p.step.copier := by
  by_cases hrun : p.copier = .running
  · obtain ⟨events, channel, copier⟩ := p
    obtain rfl : copier = .running := hrun
    rcases events with _ | ⟨bs | _ | _ | reason | text, more⟩
    · exact .same _
    · simp only [step]
      rcases channel.write (bs.take Copier.blockSize) with ⟨e | _, channel'⟩
      · exact .ends _
      · exact .same _
    · exact .same _
    · exact .ends _
    · exact .ends _
    · exact .ends _
  · rw [step_of_over hrun]
    exact .same _

theorem becomes_act (p : OutputPipe) (a : Act) : p.copier.Becomes (p.act a).2.copier := by
  cases a with
  | copy _ => exact p.becomes_step
  | take => exact .same _
  | reader a =>
    unfold act
    split_ifs <;> exact .same _

end OutputPipe

namespace InputPipe

theorem becomes_writeBlock {p : InputPipe} (hrun : p.copier = .running) :
    Copier.Becomes .running p.writeBlock.copier := by
  unfold writeBlock
  rcases p.sink.write p.block with ⟨reason | _ | n, sink⟩
  · exact .ends _
  · exact .ends _
  · show Copier.Becomes .running p.copier
    rw [hrun]
    exact .same _

theorem becomes_flushIdle {p : InputPipe} (hrun : p.copier = .running) :
    Copier.Becomes .running p.flushIdle.copier := by
  unfold flushIdle
  rcases p.sink.flush with ⟨reason | _, sink⟩
  · exact .ends _
  · show Copier.Becomes .running p.copier
    rw [hrun]
    exact .same _

theorem becomes_close (p : InputPipe) : Copier.Becomes .running p.close.copier := by
  unfold close
  rcases p.sink.flush with ⟨reason | _, sink⟩
  · exact .ends _
  · simp only
    rcases sink.shutdown with ⟨reason | _, sink'⟩
    · exact .ends _
    · exact .ends _

theorem becomes_step (p : InputPipe) : p.copier.Becomes p.step.copier := by
  by_cases hrun : p.copier = .running
  · by_cases hblock : p.block = []
    · unfold step
      simp only [hrun, hblock, List.isEmpty_nil, if_true]
      rcases p.channel.poll Copier.blockSize waiter with ⟨⟨_ | ⟨b, rest⟩⟩ | _ | e, channel⟩
      · exact becomes_close _
      · exact .same _
      · simp only
        split_ifs
        · exact becomes_flushIdle rfl
        · exact .same _
      · exact .ends _
    · rw [step_of_block hrun hblock, hrun]
      exact becomes_writeBlock hrun
  · rw [step_of_over hrun]
    exact .same _

theorem becomes_act (p : InputPipe) (a : Act) : p.copier.Becomes (p.act a).2.copier := by
  cases a with
  | copy => exact p.becomes_step
  | take => exact .same _
  | write _ src =>
    unfold act
    split_ifs <;> exact .same _
  | close =>
    unfold act
    split_ifs <;> exact .same _
  | finish => exact .same _

/-- The command's input panics, and with it the copier. -/
def breakOff (p : InputPipe) (text : Text) : InputPipe :=
  match p.copier with
  | .running => p.finish (.panicked text)
  | .absent | .ended _ => p

theorem becomes_breakOff (p : InputPipe) (text : Text) : p.copier.Becomes (p.breakOff text).copier := by
  unfold breakOff
  rcases hcopier : p.copier with _ | _ | o
  · simp only [hcopier]; exact .same _
  · exact .ends _
  · simp only [hcopier]; exact .same _

/-- An act, or a panic with its text. -/
def undergo (p : InputPipe) : Act ⊕ Text → Channel.Answer × InputPipe
  | .inl a => p.act a
  | .inr text => (.done, p.breakOff text)

end InputPipe

namespace Streams

/-- The copier of a stream. -/
def copier (s : Streams) : Stream → Copier
  | .stdout => s.stdout.copier
  | .stderr => s.stderr.copier
  | .stdin => s.stdin.copier

theorem becomes_act (s : Streams) (a : Act) (x : Stream) : (s.copier x).Becomes ((s.act a).2.copier x) := by
  cases a with
  | stdout a =>
    cases x with
    | stdout => exact s.stdout.becomes_act a
    | stderr => exact .same _
    | stdin => exact .same _
  | stderr a =>
    cases x with
    | stdout => exact .same _
    | stderr => exact s.stderr.becomes_act a
    | stdin => exact .same _
  | stdin a =>
    cases x with
    | stdout => exact .same _
    | stderr => exact .same _
    | stdin => exact s.stdin.becomes_act a

/-! ## Waiting for copiers one after another -/

/-- The verdict on the copiers of some streams, and whether all of them are over. -/
def collectOf (s : Streams) (v : Verdict) (streams : List Stream) : Verdict × Bool :=
  collectFrom v (streams.map fun x => (x, s.copier x))

theorem snd_collectOf {s : Streams} {v : Verdict} {streams : List Stream} :
    (s.collectOf v streams).2 = true ↔ ∀ x ∈ streams, s.copier x ≠ .running := by
  rw [collectOf, (first_collectFrom v _).1]
  simp

theorem collectOf_congr {s t : Streams} {streams : List Stream} (h : ∀ x ∈ streams, t.copier x = s.copier x)
    (v : Verdict) : t.collectOf v streams = s.collectOf v streams := by
  unfold collectOf
  rw [List.map_congr_left fun x hx => by rw [h x hx]]

section Cons

variable {s : Streams} {x : Stream}

theorem collectOf_cons_of_running (h : s.copier x = .running) (v : Verdict) (more : List Stream) :
    s.collectOf v (x :: more) = (v, false) := by
  simp [collectOf, collectFrom, h]

theorem collectOf_cons_of_absent (h : s.copier x = .absent) (v : Verdict) (more : List Stream) :
    s.collectOf v (x :: more) = s.collectOf v more := by
  simp [collectOf, collectFrom, h]

/-- The end of a copier is noted before the next one is waited for. -/
theorem collectOf_cons_of_over (h : s.copier x ≠ .running) (v : Verdict) :
    ∃ v', ∀ more, s.collectOf v (x :: more) = s.collectOf v' more := by
  rcases hcopier : s.copier x with _ | _ | o
  · exact ⟨v, collectOf_cons_of_absent hcopier v⟩
  · exact absurd hcopier h
  · rcases hfailure : failure? x o with _ | e
    · exact ⟨v, fun more => by simp [collectOf, collectFrom, hcopier, hfailure]⟩
    · exact ⟨⟨v.first.or (some e), v.logs ++ [failureLog x e]⟩, fun more => by
        simp [collectOf, collectFrom, hcopier, hfailure]⟩

end Cons

theorem collectOf_append {s : Streams} {noted : List Stream} (h : ∀ x ∈ noted, s.copier x ≠ .running) (v : Verdict)
    (rest : List Stream) : s.collectOf v (noted ++ rest) = s.collectOf (s.collectOf v noted).1 rest := by
  induction noted generalizing v with
  | nil => rfl
  | cons x noted ih =>
    obtain ⟨v', hnext⟩ := collectOf_cons_of_over (h x List.mem_cons_self) v
    rw [List.cons_append, hnext, hnext]
    exact ih (fun y hy => h y (List.mem_cons_of_mem x hy)) v'

/-- A look that finds a copier running has noted the copiers before it. -/
theorem fst_collectOf (s : Streams) (v : Verdict) (streams : List Stream) :
    (s.collectOf v streams).1 = (s.collectOf v (streams.takeWhile fun x => s.copier x ≠ .running)).1 := by
  induction streams generalizing v with
  | nil => rfl
  | cons x streams ih =>
    by_cases hrun : s.copier x = .running
    · rw [List.takeWhile_cons_of_neg (by simp [hrun]), collectOf_cons_of_running hrun]
      rfl
    · obtain ⟨v', hnext⟩ := collectOf_cons_of_over hrun v
      rw [List.takeWhile_cons_of_pos (by simp [hrun]), hnext, hnext]
      exact ih v'

theorem collectOf_filter {c : Command} {s : Streams} (h : ∀ x, s.copier x = .absent ↔ x ∉ c.started) (v : Verdict)
    (streams : List Stream) : s.collectOf v streams = s.collectOf v (streams.filter c.has) := by
  induction streams generalizing v with
  | nil => rfl
  | cons x streams ih =>
    by_cases hx : c.has x = true
    · rw [List.filter_cons_of_pos hx]
      by_cases hrun : s.copier x = .running
      · rw [collectOf_cons_of_running hrun, collectOf_cons_of_running hrun]
      · obtain ⟨v', hnext⟩ := collectOf_cons_of_over hrun v
        rw [hnext, hnext, ih]
    · have habsent : s.copier x = .absent := (h x).mpr fun hstarted => hx (Command.mem_started.mp hstarted)
      rw [List.filter_cons_of_neg hx, collectOf_cons_of_absent habsent, ih]

theorem collect_eq_collectOf {c : Command} {s : Streams} (h : ∀ x, s.copier x = .absent ↔ x ∉ c.started) :
    s.collect = s.collectOf ⟨none, []⟩ c.started :=
  collectOf_filter h ⟨none, []⟩ [.stdout, .stderr, .stdin]

end Streams

/-! ## What a verdict says -/

section Judging

variable (copier : Stream → Copier)

/-- The failure of the first of some copiers that did not end well. -/
inductive FirstFailure : List Stream → WatchError → Prop where
  | failed {x : Stream} {more : List Stream} {reason : Text} :
    copier x = .ended (.failed reason) → FirstFailure (x :: more) (.copy x reason)
  | panicked {x : Stream} {more : List Stream} {text : Text} :
    copier x = .ended (.panicked text) → FirstFailure (x :: more) (.panicked text)
  | later {x : Stream} {more : List Stream} {e : WatchError} :
    copier x = .ended .done → FirstFailure more e → FirstFailure (x :: more) e

/-- The verdict on copiers that are over: good when all of them ended well, and otherwise the first failure. -/
structure Judges (streams : List Stream) (r : Except Error Unit) : Prop where
  ok_iff : r = .ok () ↔ ∀ x ∈ streams, copier x = .ended .done
  error_iff : ∀ e, r = .error e ↔ ∃ w, e = .watch w ∧ FirstFailure copier streams w

variable {copier} {streams : List Stream}

theorem findSome?_fault_eq_none_iff (h : ∀ x ∈ streams, ∃ o, copier x = .ended o) :
    (streams.map fun x => (x, copier x)).findSome? Streams.fault? = none ↔
      ∀ x ∈ streams, copier x = .ended .done := by
  rw [List.findSome?_eq_none_iff]
  constructor
  · intro hnone x hx
    obtain ⟨o, ho⟩ := h x hx
    rw [ho, Streams.eq_done_of_fault_eq_none (hnone (x, copier x) (List.mem_map_of_mem hx)) ho]
  · intro hdone y hy
    obtain ⟨x, hx, rfl⟩ := List.mem_map.mp hy
    rw [hdone x hx]
    rfl

theorem findSome?_fault_eq_some_iff (h : ∀ x ∈ streams, ∃ o, copier x = .ended o) (w : WatchError) :
    (streams.map fun x => (x, copier x)).findSome? Streams.fault? = some w ↔ FirstFailure copier streams w := by
  induction streams with
  | nil => exact ⟨nofun, nofun⟩
  | cons x more ih =>
    obtain ⟨o, ho⟩ := h x List.mem_cons_self
    have hmore := ih fun y hy => h y (List.mem_cons_of_mem x hy)
    rw [List.map_cons, List.findSome?_cons, ho]
    constructor
    · intro hsome
      cases o with
      | done => exact .later ho (hmore.mp hsome)
      | failed reason => cases hsome; exact .failed ho
      | panicked text => cases hsome; exact .panicked ho
    · intro hfirst
      cases hfirst with
      | failed hx => obtain rfl := Copier.ended.inj (ho.symm.trans hx); rfl
      | panicked hx => obtain rfl := Copier.ended.inj (ho.symm.trans hx); rfl
      | later hx hlater =>
        obtain rfl := Copier.ended.inj (ho.symm.trans hx)
        exact hmore.mpr hlater

theorem judges_result (h : ∀ x ∈ streams, ∃ o, copier x = .ended o) {v : Streams.Verdict}
    (hfirst : v.first = (streams.map fun x => (x, copier x)).findSome? Streams.fault?) :
    Judges copier streams v.result := by
  have hok := findSome?_fault_eq_none_iff h
  have herror := findSome?_fault_eq_some_iff h
  rw [← hfirst] at hok herror
  unfold Streams.Verdict.result
  rcases hv : v.first with _ | w <;> rw [hv] at hok herror
  · exact ⟨by simpa using hok, fun e => by simp [← herror]⟩
  · exact ⟨by simpa using hok, fun e => by simp [← herror, eq_comm]⟩

end Judging

end Dialogue
