import Dialogue.Ring.Growth
import Mathlib.Algebra.Order.Ring.Nat
import Mathlib.Order.Nat
import Mathlib.Tactic.Common

/-!
# The length that a ring takes

A ring is doubled until its new slots suffice, and then cut to the greatest length. The sums and products on the way
leave the word only when the greatest length has no room either, so that a growth is refused exactly when no length
has room.

* `le_of_grow?`: a length that is taken has room;
* `doublings`, `exists_isLeast_doublings`: the numbers of doublings that suffice, and the least of them;
* `added?_eq_some`: the loop finds it when the doubled length is a word;
* `doubled_lt_size`: so it is when the greatest length has room;
* **`grow_exact`**: which length a ring takes, and when it takes none.
-/

namespace Dialogue.Ring

variable {available needed length : Nat}

/-- What a ring grows to holds what it held, the separating slot and the bytes needed. -/
theorem le_of_grow? {size : Nat} (h : grow? available needed length = some size) :
    size ≤ maxLength ∧ length - available + needed ≤ size := by
  simp only [grow?, Option.bind_eq_bind, Option.bind_eq_some_iff] at h
  obtain ⟨_, -, total, -, h⟩ := h
  split_ifs at h with hfit
  obtain rfl := Option.some.inj h
  exact ⟨Nat.min_le_right _ _, by omega⟩

theorem grow?_of_granted? [Memory] {size : Nat} (h : granted? available needed length = some size) :
    grow? available needed length = some size :=
  (Option.filter_eq_some_iff.mp h).1

/-! ## Doublings -/

/-- The numbers of doublings, at least one, after which the free slots are as many as are needed. -/
def doublings (available needed length : Nat) : Set Nat := {k | 1 ≤ k ∧ needed ≤ available + length * (2 ^ k - 1)}

theorem add_eq_doubled (length k : Nat) : length + length * (2 ^ k - 1) = length * 2 ^ k := by
  obtain ⟨n, hn⟩ := Nat.exists_eq_add_of_lt (Nat.two_pow_pos k)
  rw [hn, Nat.zero_add, Nat.add_sub_cancel, Nat.mul_succ, Nat.add_comm]

theorem exists_isLeast_doublings (hlength : available < length) :
    ∃ k, IsLeast (doublings available needed length) k := by
  have hpow : needed + 1 < 2 ^ (needed + 1) := Nat.lt_two_pow_self
  have henough : needed + 1 ∈ doublings available needed length := by
    refine ⟨Nat.le_add_left 1 needed, ?_⟩
    calc needed ≤ 2 ^ (needed + 1) - 1 := by omega
      _ ≤ length * (2 ^ (needed + 1) - 1) := Nat.le_mul_of_pos_left _ (by omega)
      _ ≤ available + length * (2 ^ (needed + 1) - 1) := Nat.le_add_left _ _
  classical exact ⟨_, Set.Nonempty.isLeast_natFind ⟨_, henough⟩⟩

theorem lt_needed_of_lt_least {j k : Nat} (hneeded : available < needed)
    (hk : IsLeast (doublings available needed length) k) (hj : j < k) :
    available + length * (2 ^ j - 1) < needed := by
  rcases Nat.eq_zero_or_pos j with rfl | hpos
  · rwa [Nat.pow_zero, Nat.sub_self, Nat.mul_zero, Nat.add_zero]
  · by_contra hge
    exact absurd (hk.2 ⟨hpos, Nat.le_of_not_lt hge⟩) (Nat.not_le_of_lt hj)

/-- The loop ends with the first number of doublings that suffices, from the `i`-th on, when the doubled length is a
word. -/
theorem added?_eq_some {i k : Nat} (hik : i ≤ k)
    (hshort : ∀ j, i ≤ j → j < k → available + length * (2 ^ j - 1) < needed)
    (hk : needed ≤ available + length * (2 ^ k - 1)) (hlength : available < length)
    (hword : length * 2 ^ k < Word.size) :
    added? available needed length (length * (2 ^ i - 1)) (i + 1) = some (length * (2 ^ k - 1)) := by
  have hsum : ∀ j ≤ k, length + length * (2 ^ j - 1) < Word.size := fun j hj => by
    rw [add_eq_doubled]
    exact Nat.lt_of_le_of_lt (Nat.mul_le_mul_left _ (Nat.pow_le_pow_right (by omega) hj)) hword
  -- on the number of doublings that are still to come
  induction hd : k - i generalizing i with
  | zero =>
    obtain rfl : i = k := by omega
    have hfree : length * (2 ^ i - 1) + available < Word.size := by have := hsum i hik; omega
    rw [added?, Word.add?, if_pos hfree]
    simp only [Option.bind_eq_bind, Option.bind_some]
    rw [if_pos (by omega)]
  | succ d ih =>
    have hfree : length * (2 ^ i - 1) + available < Word.size := by have := hsum i hik; omega
    have hmore : length * (2 ^ (i + 1) - 1) < Word.size := by have := hsum (i + 1) (by omega); omega
    have hshift : i + 1 < 64 := by
      refine (Nat.pow_lt_pow_iff_right (a := 2) (by omega)).mp ?_
      calc 2 ^ (i + 1) ≤ 2 ^ k := Nat.pow_le_pow_right (by omega) (by omega)
        _ ≤ length * 2 ^ k := Nat.le_mul_of_pos_left _ (by omega)
        _ < 2 ^ 64 := hword
    have hlacking := hshort i le_rfl (by omega)
    rw [added?, Word.add?, if_pos hfree]
    simp only [Option.bind_eq_bind, Option.bind_some]
    rw [if_neg (by omega), dif_pos hshift, Word.mul?, Nat.pow_eq, if_pos hmore]
    exact ih (by omega) (fun j hj => hshort j (by omega)) (by omega)

/-- When the greatest length has room, the doubled length is a word. -/
theorem doubled_lt_size {k : Nat} (hneeded : available < needed) (hlength : available < length)
    (hk : IsLeast (doublings available needed length) k) (hfit : needed + (length - available) ≤ maxLength) :
    length * 2 ^ k < Word.size := by
  obtain ⟨j, rfl⟩ := Nat.exists_eq_add_of_le' hk.1.1
  -- one doubling less does not suffice, so that it ends below the length that is needed
  have hlacking := lt_needed_of_lt_least hneeded hk (Nat.lt_succ_self j)
  have hhalf : length * 2 ^ j ≤ maxLength := by
    rw [← add_eq_doubled]
    omega
  rw [Nat.pow_succ, ← Nat.mul_assoc]
  unfold maxLength at hhalf
  unfold Word.size
  omega

theorem grow?_eq_some (hneeded : available < needed) (hlength : available < length) {k : Nat}
    (hk : IsLeast (doublings available needed length) k) (hfit : needed + (length - available) ≤ maxLength) :
    added? available needed length 0 1 = some (length * (2 ^ k - 1)) ∧
      Word.add? length (length * (2 ^ k - 1)) = some (length * 2 ^ k) ∧
      grow? available needed length = some (min (length * 2 ^ k) maxLength) := by
  have hword := doubled_lt_size hneeded hlength hk hfit
  have hadded := added?_eq_some (Nat.zero_le k) (fun j _ hj => lt_needed_of_lt_least hneeded hk hj) hk.1.2 hlength hword
  rw [Nat.pow_zero, Nat.sub_self, Nat.mul_zero] at hadded
  have htotal : Word.add? length (length * (2 ^ k - 1)) = some (length * 2 ^ k) := by
    rw [Word.add?, add_eq_doubled, if_pos hword]
  have henough : needed + (length - available) ≤ length * 2 ^ k := by
    have := hk.1.2
    have := add_eq_doubled length k
    omega
  refine ⟨hadded, htotal, ?_⟩
  simp only [grow?, hadded, Option.bind_eq_bind, Option.bind_some, htotal]
  rw [if_pos (by omega)]

/-- **A ring takes the least doubled length that has room, or the greatest length, and none only when that has no
room.** It has `length - available` slots that are not free. It refuses to grow exactly when these and the bytes
needed are more than the greatest length; when a shift, a product or a sum on the way leaves the word, no length that
it may take has room. Otherwise it is doubled `k` times, for the least `k ≥ 1` after which enough slots are free, and
cut to the greatest length. This is more than its length was, and has room for the bytes needed beside the slots that
are not free. -/
theorem grow_exact (hneeded : available < needed) (hlength : available < length) :
    (grow? available needed length = none ↔ maxLength < needed + (length - available)) ∧
      ((∀ added, added? available needed length 0 1 = some added → Word.add? length added = none) →
        ∀ size ≤ maxLength, size < needed + (length - available)) ∧
      (needed + (length - available) ≤ maxLength →
        ∃ k, IsLeast {k | 1 ≤ k ∧ needed ≤ available + length * (2 ^ k - 1)} k ∧
          grow? available needed length = some (min (length * 2 ^ k) maxLength) ∧
          length < min (length * 2 ^ k) maxLength ∧
          needed + (length - available) ≤ min (length * 2 ^ k) maxLength) := by
  obtain ⟨k, hk⟩ : ∃ k, IsLeast (doublings available needed length) k := exists_isLeast_doublings hlength
  have hsome := grow?_eq_some hneeded hlength hk
  refine ⟨⟨fun hnone => ?_, fun hover => ?_⟩, fun hleaves size hsize => ?_, fun hfit => ⟨k, hk, ?_⟩⟩
  · by_contra hfit
    rw [(hsome (Nat.le_of_not_lt hfit)).2.2] at hnone
    cases hnone
  · refine Option.eq_none_iff_forall_not_mem.mpr fun size hsize => ?_
    have := le_of_grow? hsize
    omega
  · by_contra hroom
    obtain ⟨hadded, htotal, -⟩ := hsome (by omega)
    rw [hleaves _ hadded] at htotal
    cases htotal
  · have hgrow := (hsome hfit).2.2
    have hroom := le_of_grow? hgrow
    exact ⟨hgrow, by omega, by omega⟩

/-- A ring of half the greatest length is doubled beyond it and takes the greatest length instead; it cannot hold its
length once more. -/
theorem grow_exact_of_cut :
    grow? 0 64 0x4000000000000000 = some maxLength ∧ grow? 0 0x4000000000000000 0x4000000000000000 = none := by
  have hneeded : 0 < 64 := by decide
  have hlength : 0 < 0x4000000000000000 := by decide
  obtain ⟨-, -, htakes⟩ := grow_exact hneeded hlength
  obtain ⟨hnone, -⟩ := grow_exact hlength hlength
  refine ⟨?_, hnone.mpr (by decide)⟩
  obtain ⟨k, ⟨⟨hk, -⟩, -⟩, hgrow, -⟩ := htakes (by decide)
  have hcut : maxLength ≤ 0x4000000000000000 * 2 ^ k := by
    calc maxLength ≤ 0x4000000000000000 * 2 ^ 1 := by decide
      _ ≤ 0x4000000000000000 * 2 ^ k := Nat.mul_le_mul_left _ (Nat.pow_le_pow_right (by omega) hk)
  rw [hgrow, Nat.min_eq_right hcut]

end Dialogue.Ring
