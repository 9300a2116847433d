import Mathlib.Tactic.Common
import Dialogue.Regex.Syntax

/-!
# What an expression matches

The meaning of an expression, apart from any automaton: a relation between the places in a text where a match begins
and where it ends. Assertions look at the characters on both sides of a place in the whole text.

* `Rounds`: a relation several times over;
* `before`: the character before a place;
* **`Regex.Matches`**: the matches of an expression in a text;
* `Regex.Matches.bounds`: a match lies in the text.
-/

namespace Dialogue

variable {α : Type}

/-- `n` steps of a relation, one after another. -/
def Rounds (R : α → α → Prop) : Nat → α → α → Prop
  | 0, a, b => a = b
  | n + 1, a, b => ∃ m, R a m ∧ Rounds R n m b

theorem rounds_one {R : α → α → Prop} {a b : α} : Rounds R 1 a b ↔ R a b := by
  constructor
  · rintro ⟨m, h, rfl⟩
    exact h
  · intro h
    exact ⟨b, h, rfl⟩

theorem Rounds.trans {R : α → α → Prop} {m n : Nat} {a b c : α} (hab : Rounds R m a b) (hbc : Rounds R n b c) :
    Rounds R (m + n) a c := by
  induction m generalizing a with
  | zero =>
    obtain rfl : a = b := hab
    rwa [Nat.zero_add]
  | succ m ih =>
    obtain ⟨d, had, hdb⟩ := hab
    rw [Nat.succ_add]
    exact ⟨d, had, ih hdb⟩

theorem Rounds.split {R : α → α → Prop} {m n : Nat} {a c : α} (h : Rounds R (m + n) a c) :
    ∃ b, Rounds R m a b ∧ Rounds R n b c := by
  induction m generalizing a with
  | zero => exact ⟨a, rfl, by rwa [Nat.zero_add] at h⟩
  | succ m ih =>
    rw [Nat.succ_add] at h
    obtain ⟨d, had, hdc⟩ := h
    obtain ⟨b, hdb, hbc⟩ := ih hdc
    exact ⟨b, ⟨d, had, hdb⟩, hbc⟩

theorem Rounds.keeps {R : α → α → Prop} {P : α → Prop} (step : ∀ a b, P a → R a b → P b) {n : Nat} {a b : α}
    (h : Rounds R n a b) (ha : P a) : P b := by
  induction n generalizing a with
  | zero => exact h ▸ ha
  | succ n ih =>
    obtain ⟨m, ham, hmb⟩ := h
    exact ih hmb (step a m ha ham)

/-- The character before place `i` of a text; there is none at the beginning. -/
def before (t : Text) : Nat → Option Char
  | 0 => none
  | i + 1 => t[i]?

namespace Regex

/-- **The matches of an expression in a text**, from where they begin to where they end. Of the two bounds of a
repetition the lower one is stronger. -/
def Matches (t : Text) : Regex → Nat → Nat → Prop
  | .empty, i, j => i = j
  | .set s, i, j => j = i + 1 ∧ ∃ c, t[i]? = some c ∧ s.contains c = true
  | .look l, i, j => i = j ∧ l.holds (before t i) t[i]? = true
  | .seq r s, i, j => ∃ k, Matches t r i k ∧ Matches t s k j
  | .alt r s, i, j => Matches t r i j ∨ Matches t s i j
  | .repetition r min max _, i, j =>
    ∃ n, min ≤ n ∧ (∀ m ∈ max, n ≤ Nat.max min m) ∧ Rounds (Matches t r) n i j

variable {t : Text}

theorem Matches.bounds {r : Regex} {i j : Nat} (h : r.Matches t i j) (hi : i ≤ t.length) :
    i ≤ j ∧ j ≤ t.length := by
  induction r generalizing i j with
  | empty =>
    obtain rfl : i = j := h
    exact ⟨Nat.le_refl _, hi⟩
  | set s =>
    obtain ⟨rfl, c, hc, -⟩ := h
    obtain ⟨hi, -⟩ := List.getElem?_eq_some_iff.mp hc
    exact ⟨Nat.le_succ i, hi⟩
  | look l =>
    obtain ⟨rfl, -⟩ := h
    exact ⟨Nat.le_refl _, hi⟩
  | seq r s hr hs =>
    obtain ⟨k, hik, hkj⟩ := h
    obtain ⟨hle, hk⟩ := hr hik hi
    obtain ⟨hle', hj⟩ := hs hkj hk
    exact ⟨Nat.le_trans hle hle', hj⟩
  | alt r s hr hs => exact h.elim (hr · hi) (hs · hi)
  | repetition r min max greedy hr =>
    obtain ⟨n, -, -, h⟩ := h
    exact h.keeps (P := fun k => i ≤ k ∧ k ≤ t.length)
      (fun a b ha hab => ⟨Nat.le_trans ha.1 (hr hab ha.2).1, (hr hab ha.2).2⟩) ⟨Nat.le_refl _, hi⟩

end Regex

end Dialogue
