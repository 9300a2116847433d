import Dialogue.Ring.Basic
import Dialogue.Proofs.Ring.Growth
import Mathlib.Algebra.Ring.Nat
import Mathlib.Data.List.Rotate

/-!
# How a ring lays out its bytes

Read from its start on and going round, a ring is made of the bytes read already, the bytes still unread and at least
one free slot (**`Holds`**). The cursors are determined by the two lengths, so every operation of a ring is described
by what it does to the two byte strings.

* `run_distance`, `run_advance`: the cursor arithmetic neither leaves the word nor goes below zero;
* `run_copyOut`, `run_copyIn`: a part of the circle is read, or replaced;
* `Holds.run_readInto`, `Holds.run_advanceStart`, `Holds.run_resize`, `Holds.run_resize_full`: the operations on a ring
  that holds given bytes; `Holds.append`: bytes put into its free slots.
-/

namespace Dialogue.Ring

variable {r : Ring}

/-! ## Words and blocks -/

theorem run_bind_of_ok {α β : Type} {r' : Ring} {x : Op α} {a : α} (h : x.run r = .ok a r') (f : α → Op β) :
    (x >>= f).run r = (f a).run r' := by
  rw [EStateM.run_bind, h]

theorem run_plus {a b : Nat} (h : a + b < Word.size) : (plus a b).run r = .ok (a + b) r := by
  simp [plus, h]

theorem run_minus {a b : Nat} (h : b ≤ a) : (minus a b).run r = .ok (a - b) r := by
  simp [minus, h]

theorem run_modulo {a b : Nat} (h : b ≠ 0) : (modulo a b).run r = .ok (a % b) r := by
  simp [modulo, h]

theorem run_slice {block : Bytes} {i n : Nat} (h : i + n ≤ block.length) :
    (slice block i n).run r = .ok ((block.drop i).take n) r := by
  simp [slice, h]

theorem run_splice {block src : Bytes} {i : Nat} (h : i + src.length ≤ block.length) :
    (splice block i src).run r = .ok (block.take i ++ src ++ block.drop (i + src.length)) r := by
  simp [splice, h]

theorem run_length : length.run r = .ok r.data.length r := rfl

theorem run_get : (get : Op Ring).run r = .ok r r := rfl

theorem run_modify {f : Ring → Ring} : (modify f : Op Unit).run r = .ok () (f r) := rfl

/-! ## Going round -/

theorem mod_of_lt_two_mul {a n : Nat} (h : a < 2 * n) : a % n = if a < n then a else a - n := by
  split_ifs with hn
  · exact Nat.mod_eq_of_lt hn
  · rw [Nat.mod_eq_sub_mod (by omega), Nat.mod_eq_of_lt (by omega)]

theorem run_distance {i n : Nat} (hlen : r.data.length < 2 ^ 63) (hi : i < r.data.length) (hn : n < r.data.length) :
    (distance i ((i + n) % r.data.length)).run r = .ok n r := by
  rw [mod_of_lt_two_mul (by omega), distance]
  split_ifs with hin hle hle
  · rw [run_minus hle, Nat.add_sub_cancel_left]
  · omega
  · omega
  · rw [run_bind_of_ok run_length, run_bind_of_ok (run_plus (by unfold Word.size; omega)), run_minus (by omega)]
    congr 1; omega

theorem run_advance {i n : Nat} (hlen : r.data.length < 2 ^ 63) (hi : i < r.data.length) (hn : n ≤ r.data.length) :
    (advance i n).run r = .ok ((i + n) % r.data.length) r := by
  rw [advance, run_bind_of_ok (run_plus (by unfold Word.size; omega)), run_bind_of_ok run_length,
    run_modulo (by omega)]

/-- The `n` bytes from slot `i` on are the first `n` of the circle turned to `i`. -/
theorem run_copyOut {i n : Nat} (hi : i < r.data.length) (hn : n ≤ r.data.length) :
    (copyOut i n).run r = .ok ((r.data.rotate i).take n) r := by
  rw [copyOut, run_bind_of_ok run_get, run_bind_of_ok (run_minus (Nat.le_of_lt hi)),
    run_bind_of_ok (run_slice (by omega)), run_bind_of_ok (run_minus (Nat.min_le_left n _)),
    run_bind_of_ok (run_slice (by omega)), EStateM.run_pure, List.drop_zero,
    List.rotate_eq_drop_append_take (Nat.le_of_lt hi), List.take_append, List.length_drop, List.take_take]
  congr 2
  · rw [List.take_eq_take_iff, List.length_drop]; omega
  · rw [show min (n - (r.data.length - i)) i = n - min n (r.data.length - i) by omega]

/-- What `copyIn` makes of the slots. -/
def overwritten (data : Bytes) (i : Nat) (src : Bytes) : Bytes :=
  let first := min src.length (data.length - i)
  src.drop first ++ (data.take i ++ src.take first ++ data.drop (i + first)).drop (src.length - first)

theorem run_copyIn {i : Nat} {src : Bytes} (hi : i < r.data.length) (hsrc : src.length ≤ r.data.length) :
    (copyIn i src).run r = .ok () { r with data := overwritten r.data i src } := by
  rw [copyIn, run_bind_of_ok run_get, run_bind_of_ok (run_minus (Nat.le_of_lt hi)),
    run_bind_of_ok (run_splice (by rw [List.length_take]; omega)),
    run_bind_of_ok (run_splice (by simp; omega))]
  simp [overwritten]

/-- The circle turned to the first slot written begins with the bytes written, and the others keep their places. -/
theorem rotate_overwritten {data src : Bytes} {i : Nat} (hi : i < data.length) (hsrc : src.length ≤ data.length) :
    (overwritten data i src).rotate i = src ++ (data.rotate i).drop src.length := by
  rw [List.rotate_eq_drop_append_take (Nat.le_of_lt hi), List.drop_append, List.length_drop, overwritten]
  rcases Nat.le_total src.length (data.length - i) with h | h
  · have hl : (data.take i).length = i := by rw [List.length_take]; omega
    simp only [Nat.min_eq_left h, List.drop_length, List.take_length, Nat.sub_self, List.drop_zero, List.nil_append,
      Nat.sub_eq_zero_of_le h, List.append_assoc, List.drop_drop]
    nth_rewrite 3 [← hl]
    rw [List.rotate_append_length_eq, List.append_assoc]
  · have hd : data.drop (i + (data.length - i)) = [] := List.drop_eq_nil_of_le (by omega)
    have hback : (src.drop (data.length - i) ++ (data.take i).drop (src.length - (data.length - i))).length = i := by
      simp; omega
    simp only [Nat.min_eq_right h, hd, List.append_nil]
    rw [List.drop_append_of_le_length (by rw [List.length_take]; omega), ← List.append_assoc]
    nth_rewrite 5 [← hback]
    rw [List.rotate_append_length_eq, ← List.append_assoc, List.take_append_drop, List.drop_drop]
    rw [List.drop_eq_nil_of_le (by omega : data.length ≤ i + src.length), List.nil_append]

theorem length_overwritten {data src : Bytes} {i : Nat} (hi : i < data.length) (hsrc : src.length ≤ data.length) :
    (overwritten data i src).length = data.length := by
  have := congrArg List.length (rotate_overwritten hi hsrc)
  rw [List.length_rotate, List.length_append, List.length_drop, List.length_rotate] at this
  omega

/-! ## Rings that hold given bytes -/

/-- The ring holds the bytes `old`, read already, the bytes `new`, still unread, and the free slots `free`. -/
structure Holds (r : Ring) (old new free : Bytes) : Prop where
  length_lt : r.data.length < 2 ^ 63
  start_lt : r.start < r.data.length
  circle : r.data.rotate r.start = old ++ new ++ free
  free_ne_nil : free ≠ []
  read_eq : r.read = (r.start + old.length) % r.data.length
  write_eq : r.write = (r.start + (old ++ new).length) % r.data.length

namespace Holds

variable {old new free : Bytes}

theorem length_eq (h : r.Holds old new free) : r.data.length = (old ++ new).length + free.length := by
  rw [← List.length_append, ← h.circle, List.length_rotate]

theorem length_free_pos (h : r.Holds old new free) : 0 < free.length := List.length_pos_iff.mpr h.free_ne_nil

theorem read_lt (h : r.Holds old new free) : r.read < r.data.length := by
  rw [h.read_eq]; exact Nat.mod_lt _ (Nat.zero_lt_of_lt h.start_lt)

theorem write_lt (h : r.Holds old new free) : r.write < r.data.length := by
  rw [h.write_eq]; exact Nat.mod_lt _ (Nat.zero_lt_of_lt h.start_lt)

theorem rotate_read (h : r.Holds old new free) : r.data.rotate r.read = new ++ free ++ old := by
  rw [h.read_eq, List.rotate_mod, ← List.rotate_rotate, h.circle, List.append_assoc, List.rotate_append_length_eq]

theorem rotate_write (h : r.Holds old new free) : r.data.rotate r.write = free ++ (old ++ new) := by
  rw [h.write_eq, List.rotate_mod, ← List.rotate_rotate, h.circle, List.rotate_append_length_eq]

theorem write_eq_read_add (h : r.Holds old new free) : r.write = (r.read + new.length) % r.data.length := by
  rw [h.write_eq, h.read_eq, Nat.mod_add_mod, List.length_append, Nat.add_assoc]

theorem run_consumed (h : r.Holds old new free) : (distance r.start r.read).run r = .ok old.length r := by
  have := h.length_eq
  have := h.length_free_pos
  have : (old ++ new).length = old.length + new.length := List.length_append
  rw [h.read_eq, run_distance h.length_lt h.start_lt (by omega)]

theorem run_buffered (h : r.Holds old new free) : buffered.run r = .ok (old ++ new).length r := by
  have := h.length_eq
  have := h.length_free_pos
  rw [buffered, run_bind_of_ok run_get, h.write_eq, run_distance h.length_lt h.start_lt (by omega)]

theorem run_unread (h : r.Holds old new free) : unread.run r = .ok new.length r := by
  have := h.length_eq
  have := h.length_free_pos
  have : (old ++ new).length = old.length + new.length := List.length_append
  rw [unread, run_bind_of_ok run_get, h.write_eq_read_add, run_distance h.length_lt h.read_lt (by omega)]

/-- One of the free slots is never written. -/
theorem run_room (h : r.Holds old new free) : room.run r = .ok (free.length - 1) r := by
  have hlen := h.length_eq
  have hfree := h.length_free_pos
  have hlt := h.length_lt
  have hstart := h.start_lt
  have hwrite := h.write_lt
  rw [room, run_bind_of_ok run_get, run_bind_of_ok run_length,
    run_bind_of_ok (run_plus (by unfold Word.size; omega)), run_bind_of_ok (run_minus (by omega)),
    run_bind_of_ok (run_minus (by omega)), run_bind_of_ok run_length, run_modulo (by omega)]
  congr 1
  have hmod := h.write_eq
  rw [mod_of_lt_two_mul (by omega)] at hmod
  split_ifs at hmod
  · rw [Nat.mod_eq_of_lt (by omega)]; omega
  · rw [Nat.mod_eq_sub_mod (by omega), Nat.mod_eq_of_lt (by omega)]; omega

theorem run_snapshot (h : r.Holds old new free) : snapshot.run r = .ok (old ++ new) r := by
  have := h.length_eq
  rw [snapshot, run_bind_of_ok run_get, run_bind_of_ok h.run_buffered, run_copyOut h.start_lt (by omega), h.circle,
    List.take_left]

/-! ## The operations -/

/-- **Reading** moves bytes from the unread to the read ones. -/
theorem run_readInto (h : r.Holds old new free) (n : Nat) :
    ∃ r', (readInto n).run r = .ok (new.take n) r' ∧ r'.Holds (old ++ new.take n) (new.drop n) free ∧
      r'.data = r.data ∧ r'.window = r.window := by
  have hlen := h.length_eq
  rw [List.length_append] at hlen
  have htake : ((new ++ free ++ old).take (min n new.length)) = new.take n := by
    rw [List.append_assoc, List.take_append_of_le_length (Nat.min_le_right _ _), ← List.take_take, List.take_length]
  refine ⟨{ r with read := (r.read + min n new.length) % r.data.length }, ?_, ⟨h.length_lt, h.start_lt, ?_,
    h.free_ne_nil, ?_, ?_⟩, rfl, rfl⟩
  · rw [readInto, run_bind_of_ok h.run_unread, run_bind_of_ok run_get,
      run_bind_of_ok (run_copyOut h.read_lt (by omega)), run_bind_of_ok run_get,
      run_bind_of_ok (run_advance h.length_lt h.read_lt (by omega)), h.rotate_read, htake]
    rfl
  · simpa using h.circle
  · rw [h.read_eq, Nat.mod_add_mod, List.length_append, List.length_take, Nat.add_assoc]
  · rw [List.append_assoc, List.take_append_drop, h.write_eq]

/-- **Dropping** takes bytes away from the front, the unread ones last. -/
theorem run_advanceStart (h : r.Holds old new free) {n : Nat} (hn : n ≤ (old ++ new).length) :
    ∃ r', (advanceStart n).run r = .ok () r' ∧
      r'.Holds (old.drop n) (new.drop (n - old.length)) (free ++ (old ++ new).take n) ∧
      r'.data = r.data ∧ r'.window = r.window := by
  have hlen := h.length_eq
  have hfree := h.length_free_pos
  have hcircle : r.data.rotate ((r.start + n) % r.data.length) =
      old.drop n ++ new.drop (n - old.length) ++ (free ++ (old ++ new).take n) := by
    have hlength : ((old ++ new).take n).length = n := by rw [List.length_take]; omega
    rw [List.rotate_mod, ← List.rotate_rotate, h.circle, ← List.drop_append, ← List.append_assoc]
    nth_rewrite 1 [← List.take_append_drop n (old ++ new)]
    nth_rewrite 3 [← hlength]
    rw [List.append_assoc, List.rotate_append_length_eq]
  refine ⟨{ r with
    start := (r.start + n) % r.data.length
    read := if n > old.length then (r.start + n) % r.data.length else r.read }, ?_, ⟨h.length_lt,
      Nat.mod_lt _ (by omega), hcircle, by simp [h.free_ne_nil], ?_, ?_⟩, rfl, rfl⟩
  · rw [advanceStart, run_bind_of_ok run_get, run_bind_of_ok h.run_consumed,
      run_bind_of_ok (run_advance h.length_lt h.start_lt (by omega))]
    split_ifs <;> rfl
  · simp only [Nat.mod_add_mod, List.length_drop]
    split_ifs with hdrag
    · rw [Nat.sub_eq_zero_of_le (Nat.le_of_lt hdrag), Nat.add_zero]
    · rw [h.read_eq, Nat.add_assoc, Nat.add_sub_cancel' (by omega)]
  · rw [h.write_eq, Nat.mod_add_mod, ← List.drop_append, List.length_drop, Nat.add_assoc, Nat.add_sub_cancel' hn]

/-- **Growing** keeps the bytes and lays them out from the first slot on. -/
theorem run_resize [Memory] (h : r.Holds old new free) {needed size : Nat}
    (hgrow : granted? (free.length - 1) needed r.data.length = some size) :
    ∃ r', (resize needed).run r = .ok () r' ∧
      r'.Holds old new (List.replicate (size - (old ++ new).length) 0) ∧
      (old ++ new).length + needed < size ∧ r'.data.length = size ∧ r'.window = r.window := by
  have hlen := h.length_eq
  have hfree := h.length_free_pos
  obtain ⟨hsize, hroom⟩ := le_of_grow? (grow?_of_granted? hgrow)
  have hfit : (old ++ new).length + needed < size := by omega
  have hsplice : (List.replicate size (0 : UInt8)).take 0 ++ (old ++ new) ++
      (List.replicate size 0).drop (0 + (old ++ new).length) =
        old ++ new ++ List.replicate (size - (old ++ new).length) 0 := by
    rw [List.take_zero, List.nil_append, List.drop_replicate, Nat.zero_add]
  have hlength : (old ++ new ++ List.replicate (size - (old ++ new).length) (0 : UInt8)).length = size := by
    rw [List.length_append, List.length_replicate]; omega
  refine ⟨⟨old ++ new ++ List.replicate (size - (old ++ new).length) 0, 0, old.length, (old ++ new).length, r.window⟩,
    ?_, ⟨?_, ?_, ?_, ?_, ?_, ?_⟩, hfit, hlength, rfl⟩
  · rw [resize, run_bind_of_ok run_length, run_bind_of_ok h.run_room, hgrow, run_bind_of_ok h.run_buffered,
      run_bind_of_ok h.run_unread, run_bind_of_ok run_get, run_bind_of_ok (run_copyOut h.start_lt (by omega)),
      run_bind_of_ok (run_minus (by simp)), h.circle, List.take_left,
      run_bind_of_ok (run_splice (by rw [List.length_replicate]; omega)), hsplice]
    simp
  · rw [hlength]; unfold maxLength at hsize; omega
  · rw [hlength]; show 0 < size; omega
  · rw [List.rotate_zero]
  · rw [ne_eq, List.replicate_eq_nil_iff]; omega
  · rw [hlength, Nat.zero_add, Nat.mod_eq_of_lt]; rw [List.length_append] at hfit; omega
  · rw [hlength, Nat.zero_add, Nat.mod_eq_of_lt (by omega)]

theorem run_resize_full [Memory] (h : r.Holds old new free) {needed : Nat}
    (hgrow : granted? (free.length - 1) needed r.data.length = none) :
    (resize needed).run r = .error (.full needed r.data.length) r := by
  rw [resize, run_bind_of_ok run_length, run_bind_of_ok h.run_room, hgrow]
  rfl

/-- **Appending** puts bytes into free slots as unread ones. -/
theorem append (h : r.Holds old new free) {src : Bytes} (hsrc : src.length < free.length) :
    Holds { r with data := overwritten r.data r.write src, write := (r.write + src.length) % r.data.length }
      old (new ++ src) (free.drop src.length) := by
  have hlen := h.length_eq
  have hle : src.length ≤ r.data.length := by omega
  have hrotate := rotate_overwritten h.write_lt hle
  rw [h.rotate_write, List.drop_append_of_le_length (Nat.le_of_lt hsrc)] at hrotate
  have hlength := length_overwritten h.write_lt hle
  refine ⟨?_, ?_, ?_, ?_, ?_, ?_⟩
  · rw [hlength]; exact h.length_lt
  · rw [hlength]; exact h.start_lt
  · -- turned on to the first slot written, both sides begin with what was written there
    refine List.rotate_injective (old ++ new).length ?_
    simp only
    rw [List.rotate_rotate, ← List.rotate_mod, hlength, ← h.write_eq, hrotate, ← List.append_assoc old,
      List.append_assoc (old ++ new), List.rotate_append_length_eq, List.append_assoc]
  · rw [ne_eq, List.drop_eq_nil_iff]; omega
  · rw [hlength]; exact h.read_eq
  · change (r.write + src.length) % r.data.length = (r.start + (old ++ (new ++ src)).length) % _
    rw [hlength, ← List.append_assoc, @List.length_append _ (old ++ new), ← Nat.add_assoc, h.write_eq,
      Nat.mod_add_mod]

end Holds

end Dialogue.Ring
