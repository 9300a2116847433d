import Mathlib.Logic.Relation
import Mathlib.Tactic.Common
import Dialogue.Proofs.Regex.Matches
import Dialogue.Regex.Program

/-!
# The code of an expression

Code for a part is laid down in front of an instruction `next`: it leads from its entry to `next`, over just the
characters that the part matches, and nowhere else. That is shown once for each way to put code together, of any
finished program that holds the code.

* `Inst.Leads`, `Step`: one step of a program through a text;
* `Holds`, `Realizes`: what the code of a part does;
* `Realizes.seq`, `Realizes.branch`, `Realizes.copies`, `Realizes.options`, `Realizes.loop`, `Realizes.skippedLoop`:
  parts put together;
* `realizes_compileTo`, **`leads_ofRegex`**: the code of an expression.
-/

namespace Dialogue.Regex

open Relation (Comp)

/-! ## Steps -/

/-- Where an instruction leads from place `i` of a text: to an instruction and a place. -/
def Inst.Leads (t : Text) (i : Nat) : Inst → Nat × Nat → Prop
  | .set s next, y => (∃ c, t[i]? = some c ∧ s.contains c = true) ∧ y = (next, i + 1)
  | .look l next, y => l.holds (before t i) t[i]? = true ∧ y = (next, i)
  | .fork a b, y => y = (a, i) ∨ y = (b, i)
  | .accept, _ => False

/-- One step of a program through a text, from an instruction and a place to the next ones. -/
def Step (code : Array Inst) (t : Text) (x y : Nat × Nat) : Prop := ∃ inst, code[x.1]? = some inst ∧ inst.Leads t x.2 y

variable {t : Text} {code whole : Array Inst} {a b i : Nat} {inst : Inst} {y : Nat × Nat}

theorem step_iff (h : code[a]? = some inst) : Step code t (a, i) y ↔ inst.Leads t i y := by
  constructor
  · rintro ⟨inst', h', hy⟩
    obtain rfl : inst = inst' := Option.some.inj (h.symm.trans h')
    exact hy
  · exact fun hy => ⟨inst, h, hy⟩

theorem leads_choice {greedy : Bool} : (Inst.choice greedy a b).Leads t i y ↔ y = (a, i) ∨ y = (b, i) := by
  cases greedy
  · exact Or.comm
  · exact Iff.rfl

theorem choice_ne_accept {greedy : Bool} : Inst.choice greedy a b ≠ .accept := by
  cases greedy <;> exact Inst.noConfusion

/-- What begins at one instruction and ends at another one takes a step. -/
theorem rounds_of_ne {n k : Nat} (h : Rounds (Step code t) n (a, i) (b, k)) (hne : a ≠ b) :
    ∃ m y, n = m + 1 ∧ Step code t (a, i) y ∧ Rounds (Step code t) m y (b, k) := by
  cases n with
  | zero => exact absurd (congrArg Prod.fst h) hne
  | succ m =>
    obtain ⟨y, hstep, hrest⟩ := h
    exact ⟨m, y, rfl, hstep, hrest⟩

/-! ## Code in a program -/

/-- A program holds the instructions of `code` from `low` on. -/
def Holds (whole code : Array Inst) (low : Nat) : Prop := ∀ a, low ≤ a → a < code.size → whole[a]? = code[a]?

theorem holds_push (h : Holds whole (code.push inst) a) (hle : a ≤ code.size) :
    Holds whole code a ∧ whole[code.size]? = some inst := by
  refine ⟨fun b hb hlt => ?_, ?_⟩
  · rw [h b hb (by rw [Array.size_push]; omega), Array.getElem?_push_lt hlt, Array.getElem?_eq_getElem hlt]
  · rw [h code.size hle (by rw [Array.size_push]; omega), Array.getElem?_push_size]

/-- **What the code of a part does**: it is added to the code that is there, and in any program that holds what was
added, it leads from its entry to the instruction `next` over just the characters between two places that `R` relates.
All that comes to the code before it comes by `next`. -/
structure Realizes (t : Text) (part : Nat → Array Inst → Entry) (R : Nat → Nat → Prop) : Prop where
  size_le (next : Nat) (code : Array Inst) : code.size ≤ (part next code).2.size
  old (next : Nat) (code : Array Inst) (a : Nat) : a < code.size → (part next code).2[a]? = code[a]?
  ne_accept (next : Nat) (code : Array Inst) (a : Nat) : code.size ≤ a → (part next code).2[a]? ≠ some .accept
  complete {next : Nat} {code whole : Array Inst} {i j : Nat} : Holds whole (part next code).2 code.size → R i j →
    ∃ n, Rounds (Step whole t) n ((part next code).1, i) (next, j)
  sound {next : Nat} {code whole : Array Inst} {n i b k : Nat} : Holds whole (part next code).2 code.size →
    b < code.size → Rounds (Step whole t) n ((part next code).1, i) (b, k) →
    ∃ m j, m ≤ n ∧ R i j ∧ Rounds (Step whole t) m (next, j) (b, k)

namespace Realizes

variable {part other : Nat → Array Inst → Entry} {R S : Nat → Nat → Prop}

theorem congr (h : Realizes t part R) (hRS : ∀ i j, R i j ↔ S i j) : Realizes t part S := by
  obtain rfl : R = S := funext fun i => funext fun j => propext (hRS i j)
  exact h

theorem holds_inner (h : Realizes t part R) {next low : Nat} (hheld : Holds whole (part next code).2 low) :
    Holds whole code low :=
  fun a ha hlt => (hheld a ha (Nat.lt_of_lt_of_le hlt (h.size_le next code))).trans (h.old next code a hlt)

theorem nothing : Realizes t (fun next code => (next, code)) Eq where
  size_le _ _ := Nat.le_refl _
  old _ _ _ _ := rfl
  ne_accept _ code a ha := by simp [Array.getElem?_eq_none ha]
  complete := fun _ hij => ⟨0, hij ▸ rfl⟩
  sound := fun {_ _ _ n i _ _} _ _ h => ⟨n, i, Nat.le_refl n, rfl, h⟩

theorem single {inst : Nat → Inst} (hinst : ∀ next, inst next ≠ .accept)
    (hleads : ∀ next i y, (inst next).Leads t i y ↔ ∃ j, R i j ∧ y = (next, j)) :
    Realizes t (fun next code => Entry.add code (inst next)) R where
  size_le next code := by simp [Entry.add]
  old next code a ha := by simp [Entry.add, Array.getElem?_push_lt ha]
  ne_accept next code a ha := by
    rw [Entry.add, Array.getElem?_push]
    split
    · exact fun h => hinst next (Option.some.inj h)
    · simp [Array.getElem?_eq_none ha]
  complete := by
    intro next code whole i j hheld hij
    obtain ⟨-, hinst⟩ := holds_push hheld (Nat.le_refl _)
    exact ⟨1, rounds_one.mpr ((step_iff hinst).mpr ((hleads next i _).mpr ⟨j, hij, rfl⟩))⟩
  sound := by
    intro next code whole n i b k hheld hb h
    obtain ⟨-, hinst⟩ := holds_push hheld (Nat.le_refl _)
    obtain ⟨m, y, rfl, hstep, hrest⟩ := rounds_of_ne h (Nat.ne_of_gt hb)
    obtain ⟨j, hij, rfl⟩ := (hleads next i y).mp ((step_iff hinst).mp hstep)
    exact ⟨m, j, Nat.le_succ m, hij, hrest⟩

theorem seq (hp : Realizes t part R) (hq : Realizes t other S) :
    Realizes t (fun next code => part (other next code).1 (other next code).2) (Comp R S) where
  size_le next code := Nat.le_trans (hq.size_le next code) (hp.size_le _ _)
  old next code a ha :=
    (hp.old _ _ a (Nat.lt_of_lt_of_le ha (hq.size_le next code))).trans (hq.old next code a ha)
  ne_accept next code a ha := by
    by_cases hlt : a < (other next code).2.size
    · rw [hp.old _ _ a hlt]
      exact hq.ne_accept next code a ha
    · exact hp.ne_accept _ _ a (Nat.le_of_not_lt hlt)
  complete := by
    rintro next code whole i j hheld ⟨k, hik, hkj⟩
    obtain ⟨m, hm⟩ := hp.complete (fun a ha => hheld a (Nat.le_trans (hq.size_le next code) ha)) hik
    obtain ⟨n, hn⟩ := hq.complete (hp.holds_inner hheld) hkj
    exact ⟨m + n, hm.trans hn⟩
  sound := by
    intro next code whole n i b k hheld hb h
    obtain ⟨m, j, hm, hij, hrest⟩ := hp.sound (fun a ha => hheld a (Nat.le_trans (hq.size_le next code) ha))
      (Nat.lt_of_lt_of_le hb (hq.size_le next code)) h
    obtain ⟨l, j', hl, hjj, hrest⟩ := hq.sound (hp.holds_inner hheld) hb hrest
    exact ⟨l, j', Nat.le_trans hl hm, ⟨j, hij, hjj⟩, hrest⟩

theorem branch {choose : Nat → Nat → Inst} (hne : ∀ a b, choose a b ≠ .accept)
    (hleads : ∀ a b i y, (choose a b).Leads t i y ↔ y = (a, i) ∨ y = (b, i)) (hp : Realizes t part R)
    (hq : Realizes t other S) :
    Realizes t (fun next code =>
      Entry.add (part next (other next code).2).2 (choose (part next (other next code).2).1 (other next code).1))
      (fun i j => R i j ∨ S i j) where
  size_le next code := by
    have := hq.size_le next code
    have := hp.size_le next (other next code).2
    simp only [Entry.add, Array.size_push]
    omega
  old next code a ha := by
    have hlt := Nat.lt_of_lt_of_le ha (hq.size_le next code)
    have hlt' := Nat.lt_of_lt_of_le hlt (hp.size_le next _)
    simp only [Entry.add]
    rw [Array.getElem?_push_lt hlt', ← Array.getElem?_eq_getElem hlt', hp.old _ _ a hlt, hq.old _ _ a ha]
  ne_accept next code a ha := by
    rw [Entry.add, Array.getElem?_push]
    split
    · exact fun h => hne _ _ (Option.some.inj h)
    · by_cases hlt : a < (other next code).2.size
      · rw [hp.old _ _ a hlt]
        exact hq.ne_accept next code a ha
      · exact hp.ne_accept _ _ a (Nat.le_of_not_lt hlt)
  complete := by
    intro next code whole i j hheld hij
    have hle := Nat.le_trans (hq.size_le next code) (hp.size_le next _)
    obtain ⟨hheld, hfork⟩ := holds_push hheld hle
    rcases hij with hij | hij
    · obtain ⟨n, hn⟩ := hp.complete (fun a ha => hheld a (Nat.le_trans (hq.size_le next code) ha)) hij
      exact ⟨n + 1, _, (step_iff hfork).mpr ((hleads _ _ _ _).mpr (.inl rfl)), hn⟩
    · obtain ⟨n, hn⟩ := hq.complete (hp.holds_inner hheld) hij
      exact ⟨n + 1, _, (step_iff hfork).mpr ((hleads _ _ _ _).mpr (.inr rfl)), hn⟩
  sound := by
    intro next code whole n i b k hheld hb h
    have hle := Nat.le_trans (hq.size_le next code) (hp.size_le next _)
    obtain ⟨hheld, hfork⟩ := holds_push hheld hle
    obtain ⟨m, y, rfl, hstep, hrest⟩ := rounds_of_ne h (Nat.ne_of_gt (Nat.lt_of_lt_of_le hb hle))
    rcases (hleads _ _ _ _).mp ((step_iff hfork).mp hstep) with rfl | rfl
    · obtain ⟨l, j, hl, hij, hrest⟩ := hp.sound (fun a ha => hheld a (Nat.le_trans (hq.size_le next code) ha))
        (Nat.lt_of_lt_of_le hb (hq.size_le next code)) hrest
      exact ⟨l, j, Nat.le_succ_of_le hl, .inl hij, hrest⟩
    · obtain ⟨l, j, hl, hij, hrest⟩ := hq.sound (hp.holds_inner hheld) hb hrest
      exact ⟨l, j, Nat.le_succ_of_le hl, .inr hij, hrest⟩

theorem alt (hp : Realizes t part R) (hq : Realizes t other S) :
    Realizes t (fun next code =>
      Entry.add (part next (other next code).2).2 (.fork (part next (other next code).2).1 (other next code).1))
      (fun i j => R i j ∨ S i j) :=
  branch (fun _ _ => Inst.noConfusion) (fun _ _ _ _ => Iff.rfl) hp hq

theorem optional (hp : Realizes t part R) (greedy : Bool) :
    Realizes t (fun next code => Entry.add (part next code).2 (.choice greedy (part next code).1 next))
      (fun i j => i = j ∨ R i j) :=
  (branch (fun _ _ => choice_ne_accept) (fun _ _ _ _ => leads_choice) hp nothing).congr fun _ _ => Or.comm

theorem copies (hp : Realizes t part R) (hq : Realizes t other S) (n : Nat) :
    Realizes t (fun next code => Regex.copies part n (other next code)) (Comp (Rounds R n) S) := by
  induction n generalizing other S with
  | zero => exact hq.congr fun i j => ⟨fun h => ⟨i, rfl, h⟩, fun ⟨k, hik, hkj⟩ => (show i = k from hik) ▸ hkj⟩
  | succ n ih =>
    refine (ih (hp.seq hq)).congr fun i j => ⟨?_, ?_⟩
    · rintro ⟨k, hik, l, hkl, hlj⟩
      exact ⟨l, hik.trans (rounds_one.mpr hkl), hlj⟩
    · rintro ⟨l, hil, hlj⟩
      obtain ⟨k, hik, hkl⟩ := Rounds.split hil
      exact ⟨k, hik, l, rounds_one.mp hkl, hlj⟩

/-- Copies of a part, each of which may be the last. -/
theorem options (hp : Realizes t part R) (greedy : Bool) (n : Nat) :
    Realizes t (fun next code => Regex.options part greedy next n (next, code)) fun i j => ∃ m ≤ n, Rounds R m i j := by
  induction n with
  | zero =>
    refine nothing.congr fun i j => ⟨fun h => ⟨0, Nat.le_refl 0, h⟩, ?_⟩
    rintro ⟨m, hm, h⟩
    obtain rfl : m = 0 := Nat.le_zero.mp hm
    exact h
  | succ n ih =>
    refine ((hp.seq ih).optional greedy).congr fun i j => ⟨?_, ?_⟩
    · rintro (rfl | ⟨k, hik, m, hm, hkj⟩)
      · exact ⟨0, Nat.zero_le _, rfl⟩
      · exact ⟨m + 1, Nat.succ_le_succ hm, k, hik, hkj⟩
    · rintro ⟨_ | m, hm, h⟩
      · exact .inl h
      · obtain ⟨k, hik, hkj⟩ := h
        exact .inr ⟨k, hik, m, Nat.le_of_succ_le_succ hm, hkj⟩

/-! ## Loops -/

/-- The code of a loop over a part. -/
theorem holds_loop (hp : Realizes t part R) {greedy : Bool} {exit : Nat}
    (hheld : Holds whole (Regex.loop part greedy exit code).1.2 code.size) :
    Holds whole (part code.size (code.push .accept)).2 (code.size + 1) ∧
      whole[code.size]? = some (.choice greedy (part code.size (code.push .accept)).1 exit) := by
  have hle := hp.size_le code.size (code.push .accept)
  rw [Array.size_push] at hle
  simp only [Regex.loop, Array.set!_eq_setIfInBounds] at hheld
  -- the fork was written over the instruction that kept its place while the body was laid down
  refine ⟨fun a ha hlt => ?_, ?_⟩
  · rw [hheld a (by omega) (by simpa using hlt), Array.getElem?_setIfInBounds_ne (by omega)]
  · rw [hheld code.size (Nat.le_refl _) (by rw [Array.size_setIfInBounds]; omega),
      Array.getElem?_setIfInBounds_self_of_lt (by omega)]

/-- From the fork of a loop any number of rounds lead to its exit. -/
theorem complete_loop (hp : Realizes t part R) {greedy : Bool} {exit n i j : Nat}
    (hheld : Holds whole (Regex.loop part greedy exit code).1.2 code.size) (h : Rounds R n i j) :
    ∃ m, Rounds (Step whole t) m (code.size, i) (exit, j) := by
  obtain ⟨hbody, hfork⟩ := hp.holds_loop hheld
  induction n generalizing i with
  | zero =>
    obtain rfl : i = j := h
    exact ⟨1, rounds_one.mpr ((step_iff hfork).mpr (leads_choice.mpr (.inr rfl)))⟩
  | succ n ih =>
    obtain ⟨k, hik, hkj⟩ := h
    obtain ⟨m, hm⟩ := hp.complete (by rwa [Array.size_push]) hik
    obtain ⟨l, hl⟩ := ih hkj
    exact ⟨m + l + 1, _, (step_iff hfork).mpr (leads_choice.mpr (.inl rfl)), hm.trans hl⟩

/-- What comes from the fork of a loop to the code before it comes by its exit, after some rounds. The induction is on
the number of steps: a round may pass no character, but it takes the step at the fork. -/
theorem sound_loop (hp : Realizes t part R) {greedy : Bool} {exit : Nat}
    (hheld : Holds whole (Regex.loop part greedy exit code).1.2 code.size) {k : Nat} (hb : b < code.size) (n i : Nat)
    (h : Rounds (Step whole t) n (code.size, i) (b, k)) :
    ∃ m r j, m ≤ n ∧ Rounds R r i j ∧ Rounds (Step whole t) m (exit, j) (b, k) := by
  obtain ⟨hbody, hfork⟩ := hp.holds_loop hheld
  induction n using Nat.strongRecOn generalizing i with
  | ind n ih =>
    obtain ⟨m, y, rfl, hstep, hrest⟩ := rounds_of_ne h (Nat.ne_of_gt hb)
    rcases leads_choice.mp ((step_iff hfork).mp hstep) with rfl | rfl
    · obtain ⟨l, j, hl, hij, hrest⟩ := hp.sound (by rwa [Array.size_push]) (by rw [Array.size_push]; omega) hrest
      obtain ⟨o, r, j', ho, hjj, hrest⟩ := ih l (Nat.lt_succ_of_le hl) j hrest
      exact ⟨o, r + 1, j', by omega, ⟨j, hij, hjj⟩, hrest⟩
    · exact ⟨m, 0, i, Nat.le_succ m, rfl, hrest⟩

/-- What both ways to enter a loop have in common. -/
theorem size_loop (hp : Realizes t part R) {greedy : Bool} {exit : Nat} :
    code.size < (Regex.loop part greedy exit code).1.2.size := by
  have hle := hp.size_le code.size (code.push .accept)
  rw [Array.size_push] at hle
  simp only [Regex.loop, Array.set!_eq_setIfInBounds, Array.size_setIfInBounds]
  omega

theorem old_loop (hp : Realizes t part R) {greedy : Bool} {exit : Nat} (ha : a < code.size) :
    (Regex.loop part greedy exit code).1.2[a]? = code[a]? := by
  simp only [Regex.loop, Array.set!_eq_setIfInBounds]
  rw [Array.getElem?_setIfInBounds_ne (Nat.ne_of_gt ha), hp.old _ _ a (by rw [Array.size_push]; omega),
    Array.getElem?_push_lt ha, Array.getElem?_eq_getElem ha]

theorem ne_accept_loop (hp : Realizes t part R) {greedy : Bool} {exit : Nat} (ha : code.size ≤ a) :
    (Regex.loop part greedy exit code).1.2[a]? ≠ some .accept := by
  have hle := hp.size_le code.size (code.push .accept)
  rw [Array.size_push] at hle
  simp only [Regex.loop, Array.set!_eq_setIfInBounds]
  by_cases hclose : a = code.size
  · rw [hclose, Array.getElem?_setIfInBounds_self_of_lt (by omega)]
    exact fun h => choice_ne_accept (Option.some.inj h)
  · rw [Array.getElem?_setIfInBounds_ne (fun h => hclose h.symm)]
    exact hp.ne_accept _ _ a (by rw [Array.size_push]; omega)

theorem loop (hp : Realizes t part R) (greedy : Bool) :
    Realizes t (fun next code => (Regex.loop part greedy next code).1) fun i j => ∃ n, Rounds R (n + 1) i j where
  size_le _ _ := Nat.le_of_lt hp.size_loop
  old _ _ _ := hp.old_loop
  ne_accept _ _ _ := hp.ne_accept_loop
  complete := by
    rintro next code whole i j hheld ⟨n, k, hik, hkj⟩
    obtain ⟨hbody, -⟩ := hp.holds_loop hheld
    obtain ⟨m, hm⟩ := hp.complete (by rwa [Array.size_push]) hik
    obtain ⟨l, hl⟩ := hp.complete_loop hheld hkj
    exact ⟨m + l, hm.trans hl⟩
  sound := by
    intro next code whole n i b k hheld hb h
    obtain ⟨hbody, -⟩ := hp.holds_loop hheld
    obtain ⟨m, j, hm, hij, hrest⟩ := hp.sound (by rwa [Array.size_push]) (by rw [Array.size_push]; omega) h
    obtain ⟨l, r, j', hl, hjj, hrest⟩ := hp.sound_loop hheld hb m j hrest
    exact ⟨l, j', Nat.le_trans hl hm, ⟨r, j, hij, hjj⟩, hrest⟩

theorem skippedLoop (hp : Realizes t part R) (greedy : Bool) :
    Realizes t (fun next code => ((Regex.loop part greedy next code).2, (Regex.loop part greedy next code).1.2))
      fun i j => ∃ n, Rounds R n i j where
  size_le _ _ := Nat.le_of_lt hp.size_loop
  old _ _ _ := hp.old_loop
  ne_accept _ _ _ := hp.ne_accept_loop
  complete := fun hheld ⟨_, h⟩ => hp.complete_loop hheld h
  sound := by
    intro next code whole n i b k hheld hb h
    obtain ⟨m, r, j, hm, hij, hrest⟩ := hp.sound_loop hheld hb n i h
    exact ⟨m, j, hm, ⟨r, hij⟩, hrest⟩

end Realizes

/-! ## Expressions -/

theorem compileTo_bounded (r : Regex) (min max : Nat) (greedy : Bool) :
    compileTo (.repetition r min (some max) greedy) = fun next code =>
      copies (compileTo r) min (options (compileTo r) greedy next (max - min) (next, code)) := by
  funext next code
  rw [compileTo]

theorem compileTo_any {r : Regex} (greedy : Bool) (h : r.nullable = false) :
    compileTo (.repetition r 0 none greedy) = fun next code =>
      ((loop (compileTo r) greedy next code).2, (loop (compileTo r) greedy next code).1.2) := by
  funext next code
  simp [compileTo, h]

theorem compileTo_any_of_nullable {r : Regex} (greedy : Bool) (h : r.nullable = true) :
    compileTo (.repetition r 0 none greedy) = fun next code =>
      Entry.add (loop (compileTo r) greedy next code).1.2
        (.choice greedy (loop (compileTo r) greedy next code).1.1 next) := by
  funext next code
  simp [compileTo, h]

/-- A repetition with both bounds, from `min` copies and then at most as many as the bounds are apart. -/
theorem matches_bounded {r : Regex} {min max : Nat} {greedy : Bool} {i j : Nat} :
    Comp (Rounds (r.Matches t) min) (fun i j => ∃ m ≤ max - min, Rounds (r.Matches t) m i j) i j ↔
      (Regex.repetition r min (some max) greedy).Matches t i j := by
  constructor
  · rintro ⟨k, hik, m, hm, hkj⟩
    refine ⟨min + m, Nat.le_add_right _ _, fun m' hm' => ?_, hik.trans hkj⟩
    obtain rfl : max = m' := Option.some.inj hm'
    simp only [Nat.max_def]
    split <;> omega
  · rintro ⟨n, hmin, hmax, h⟩
    have hle : n ≤ Nat.max min max := hmax max rfl
    obtain ⟨m, rfl⟩ := Nat.exists_eq_add_of_le hmin
    obtain ⟨k, hik, hkj⟩ := Rounds.split h
    refine ⟨k, hik, m, ?_, hkj⟩
    simp only [Nat.max_def] at hle
    split at hle <;> omega

theorem matches_atLeast {r : Regex} {min : Nat} {greedy : Bool} {i j : Nat} :
    (Regex.repetition r min none greedy).Matches t i j ↔ ∃ n, Rounds (r.Matches t) (min + n) i j := by
  constructor
  · rintro ⟨n, hmin, -, h⟩
    obtain ⟨m, rfl⟩ := Nat.exists_eq_add_of_le hmin
    exact ⟨m, h⟩
  · rintro ⟨n, h⟩
    exact ⟨min + n, Nat.le_add_right _ _, by simp, h⟩

theorem realizes_compileTo (r : Regex) : Realizes t (compileTo r) (r.Matches t) := by
  induction r with
  | empty => exact .nothing
  | set s =>
    refine .single (fun _ => Inst.noConfusion) fun next i y => ⟨?_, ?_⟩
    · rintro ⟨hc, rfl⟩
      exact ⟨i + 1, ⟨rfl, hc⟩, rfl⟩
    · rintro ⟨j, ⟨rfl, hc⟩, rfl⟩
      exact ⟨hc, rfl⟩
  | look l =>
    refine .single (fun _ => Inst.noConfusion) fun next i y => ⟨?_, ?_⟩
    · rintro ⟨hl, rfl⟩
      exact ⟨i, ⟨rfl, hl⟩, rfl⟩
    · rintro ⟨j, ⟨rfl, hl⟩, rfl⟩
      exact ⟨hl, rfl⟩
  | seq r s hr hs => exact hr.seq hs
  | alt r s hr hs => exact hr.alt hs
  | repetition r min max greedy hr =>
    match min, max with
    | min, some max =>
      rw [compileTo_bounded]
      exact (hr.copies (hr.options greedy (max - min)) min).congr fun _ _ => matches_bounded
    | 0, none =>
      cases hnull : r.nullable with
      | false =>
        rw [compileTo_any greedy hnull]
        exact (hr.skippedLoop greedy).congr fun i j => by simp only [matches_atLeast, Nat.zero_add]
      | true =>
        rw [compileTo_any_of_nullable greedy hnull]
        refine ((hr.loop greedy).optional greedy).congr fun i j => ?_
        simp only [matches_atLeast, Nat.zero_add]
        exact Nat.or_exists_add_one (p := fun n => Rounds (r.Matches t) n i j)
    | min + 1, none =>
      refine (hr.copies (hr.loop greedy) min).congr fun i j => ?_
      simp only [matches_atLeast, Nat.succ_add_eq_add_succ]
      constructor
      · rintro ⟨k, hik, n, hkj⟩
        exact ⟨n, hik.trans hkj⟩
      · rintro ⟨n, h⟩
        obtain ⟨k, hik, hkj⟩ := Rounds.split h
        exact ⟨k, hik, n, hkj⟩

/-- **The program of an expression leads from its beginning to the end of a match** over just what the expression
matches, and no other instruction of it ends a match. -/
theorem leads_ofRegex (r : Regex) (i j : Nat) :
    (∃ n, Rounds (Step (Program.ofRegex r).code t) n ((Program.ofRegex r).start, i) (0, j)) ↔ r.Matches t i j := by
  have hr := realizes_compileTo (t := t) r
  have haccept : (Program.ofRegex r).code[0]? = some .accept := hr.old 0 #[.accept] 0 Nat.one_pos
  constructor
  · rintro ⟨n, h⟩
    obtain ⟨m, k, -, hik, hrest⟩ := hr.sound (fun _ _ _ => rfl) Nat.one_pos h
    cases m with
    | zero =>
      obtain rfl : k = j := congrArg Prod.snd hrest
      exact hik
    | succ m =>
      obtain ⟨y, hstep, -⟩ := hrest
      exact ((step_iff haccept).mp hstep).elim
  · exact hr.complete fun _ _ _ => rfl

theorem accept_ofRegex (r : Regex) (a : Nat) : (Program.ofRegex r).code[a]? = some .accept ↔ a = 0 := by
  have hr := realizes_compileTo (t := []) r
  constructor
  · intro h
    by_contra hne
    exact hr.ne_accept 0 #[.accept] a (Nat.one_le_iff_ne_zero.mpr hne) h
  · rintro rfl
    exact hr.old 0 #[.accept] 0 Nat.one_pos

end Dialogue.Regex
