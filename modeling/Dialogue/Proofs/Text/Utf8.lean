import Dialogue.Text.Utf8
import Mathlib.Data.List.Basic

/-!
# What stands at the front of a byte string

What can be read off the front of a byte string is compared with the byte forms of characters.

* `Form`: the byte strings that are read as a character, with its code point;
* **`front_encodeChar_append`**, **`eq_of_front_char`**: a character is read exactly where its byte form stands;
* `front_append_of_char`, `front_append_of_illFormed`: what follows does not change what was read;
* `exists_encodeChar_of_truncated`: what is cut off is the beginning of a character;
* `Valid`, `Extensible`: the byte forms of texts, and what begins one;
* `not_extensible_of_illFormed`, `le_of_valid_take`: how far a byte string is the byte form of a text.
-/

namespace Dialogue.Utf8

/-! ## Lead bytes -/

/-- What a lead byte of the given number announces: the bytes that follow, its share of the code point, and the least
and the greatest second byte. -/
def announced (n : Nat) : Option (Nat × Nat × Nat × Nat) :=
  if n < 0xC2 then none
  else if n < 0xE0 then some (1, n - 0xC0, 0x80, 0xBF)
  else if n < 0xF0 then some (2, n - 0xE0, if n = 0xE0 then 0xA0 else 0x80, if n = 0xED then 0x9F else 0xBF)
  else if n < 0xF5 then some (3, n - 0xF0, if n = 0xF0 then 0x90 else 0x80, if n = 0xF4 then 0x8F else 0xBF)
  else none

theorem lead?_eq (b : UInt8) :
    (lead? b).map (fun l => (l.following, l.value, l.low.toNat, l.high.toNat)) = announced b.toNat := by
  have htable : ∀ i : Fin 256, (lead? ⟨⟨i⟩⟩).map (fun l => (l.following, l.value, l.low.toNat, l.high.toNat)) =
      announced i.val := by decide +kernel
  exact htable b.toBitVec.toFin

theorem announced_of_lead? {b : UInt8} {l : Lead} (h : lead? b = some l) :
    announced b.toNat = some (l.following, l.value, l.low.toNat, l.high.toNat) := by rw [← lead?_eq, h]; rfl

theorem exists_lead? {b : UInt8} {following value low high : Nat}
    (h : announced b.toNat = some (following, value, low, high)) :
    ∃ l, lead? b = some l ∧ l.following = following ∧ l.value = value ∧ l.low.toNat = low ∧ l.high.toNat = high := by
  rw [← lead?_eq] at h
  obtain ⟨l, hl, heq⟩ := Option.map_eq_some_iff.mp h
  simp only [Prod.mk.injEq] at heq
  exact ⟨l, hl, heq⟩

/-! ## The byte forms of characters -/

/-- The byte strings that are read as one character, with its code point: one byte, or a lead byte, a byte in the
interval it announces, and continuations. -/
inductive Form : Bytes → Nat → Prop where
  | one {b : UInt8} : b < 0x80 → Form [b] b.toNat
  | more {b b' : UInt8} {l : Lead} {cont : Bytes} : ¬ b < 0x80 → lead? b = some l → l.low ≤ b' → b' ≤ l.high →
    cont.length = l.following - 1 → (∀ c ∈ cont, isContinuation c) →
    Form (b :: b' :: cont) ((b' :: cont).foldl extend l.value)

theorem isContinuation_iff {b : UInt8} : isContinuation b ↔ 0x80 ≤ b.toNat ∧ b.toNat ≤ 0xBF := by
  rw [isContinuation, Bool.and_eq_true, decide_eq_true_iff, decide_eq_true_iff, UInt8.le_iff_toNat_le,
    UInt8.le_iff_toNat_le]
  rfl

theorem toNat_ofNat {n : Nat} (h : n.isValidChar) : (Char.ofNat n).toNat = n := by
  rw [Char.ofNat, dif_pos h]
  rfl

theorem continuations_append {cont : Bytes} (h : ∀ c ∈ cont, isContinuation c) (v t : Nat) (rest : Bytes) :
    continuations cont.length v t (cont ++ rest) = .char (Char.ofNat (cont.foldl extend v)) rest := by
  induction cont generalizing v t with
  | nil => rfl
  | cons c cont ih =>
    obtain ⟨hc, hcont⟩ := List.forall_mem_cons.mp h
    rw [List.length_cons, List.cons_append, continuations, if_pos hc, ih hcont, List.foldl_cons]

theorem eq_of_continuations_char {n v t : Nat} {bs rest : Bytes} {c : Char}
    (h : continuations n v t bs = .char c rest) :
    ∃ cont, bs = cont ++ rest ∧ cont.length = n ∧ (∀ b ∈ cont, isContinuation b) ∧
      c = Char.ofNat (cont.foldl extend v) := by
  fun_induction continuations n v t bs with
  | case1 v t bs =>
    cases h
    exact ⟨[], rfl, rfl, List.forall_mem_nil _, rfl⟩
  | case2 => cases h
  | case3 n v t b bs hb ih =>
    obtain ⟨cont, rfl, hlength, hcont, rfl⟩ := ih h
    exact ⟨b :: cont, rfl, congrArg (· + 1) hlength, List.forall_mem_cons.mpr ⟨hb, hcont⟩, rfl⟩
  | case4 => cases h

theorem Form.front_append {form : Bytes} {n : Nat} (h : Form form n) (rest : Bytes) :
    front (form ++ rest) = .char (Char.ofNat n) rest := by
  cases h with
  | one hb => exact if_pos hb
  | more hb hl hlow hhigh hlength hcont =>
    rw [List.cons_append, List.cons_append, front, if_neg hb, hl]
    simp only [hlow, hhigh, decide_true, Bool.and_true, if_true]
    rw [← hlength, continuations_append hcont, List.foldl_cons]

theorem exists_form_of_front_char {bs rest : Bytes} {c : Char} (h : front bs = .char c rest) :
    ∃ form n, Form form n ∧ bs = form ++ rest ∧ c = Char.ofNat n := by
  cases bs with
  | nil => cases h
  | cons b more =>
    by_cases hb : b < 0x80
    · rw [front, if_pos hb] at h
      cases h
      exact ⟨[b], b.toNat, .one hb, rfl, rfl⟩
    rw [front, if_neg hb] at h
    rcases hl : lead? b with _ | l
    · rw [hl] at h
      cases h
    rw [hl] at h
    cases more with
    | nil => cases h
    | cons b' more =>
      simp only at h
      split_ifs at h with hb'
      obtain ⟨hlow, hhigh⟩ := Bool.and_eq_true_iff.mp hb'
      obtain ⟨cont, rfl, hlength, hcont, rfl⟩ := eq_of_continuations_char h
      exact ⟨_, _, .more hb hl (of_decide_eq_true hlow) (of_decide_eq_true hhigh) hlength hcont, rfl, rfl⟩

theorem announced_eq_some {n following value low high : Nat} (h : announced n = some (following, value, low, high)) :
    (following = 1 ∧ 0xC2 ≤ n ∧ n < 0xE0 ∧ value = n - 0xC0 ∧ low = 0x80 ∧ high = 0xBF) ∨
      (following = 2 ∧ 0xE0 ≤ n ∧ n < 0xF0 ∧ value = n - 0xE0 ∧ low = (if n = 0xE0 then 0xA0 else 0x80) ∧
        high = if n = 0xED then 0x9F else 0xBF) ∨
      (following = 3 ∧ 0xF0 ≤ n ∧ n < 0xF5 ∧ value = n - 0xF0 ∧ low = (if n = 0xF0 then 0x90 else 0x80) ∧
        high = if n = 0xF4 then 0x8F else 0xBF) := by
  unfold announced at h
  by_cases h₁ : n < 0xC2
  · rw [if_pos h₁] at h
    cases h
  rw [if_neg h₁] at h
  by_cases h₂ : n < 0xE0
  · rw [if_pos h₂] at h
    simp only [Option.some.injEq, Prod.mk.injEq] at h
    obtain ⟨rfl, rfl, rfl, rfl⟩ := h
    exact .inl ⟨rfl, Nat.le_of_not_lt h₁, h₂, rfl, rfl, rfl⟩
  rw [if_neg h₂] at h
  by_cases h₃ : n < 0xF0
  · rw [if_pos h₃] at h
    simp only [Option.some.injEq, Prod.mk.injEq] at h
    obtain ⟨rfl, rfl, rfl, rfl⟩ := h
    exact .inr (.inl ⟨rfl, Nat.le_of_not_lt h₂, h₃, rfl, rfl, rfl⟩)
  rw [if_neg h₃] at h
  by_cases h₄ : n < 0xF5
  · rw [if_pos h₄] at h
    simp only [Option.some.injEq, Prod.mk.injEq] at h
    obtain ⟨rfl, rfl, rfl, rfl⟩ := h
    exact .inr (.inr ⟨rfl, Nat.le_of_not_lt h₃, h₄, rfl, rfl, rfl⟩)
  · rw [if_neg h₄] at h
    cases h

section Code

variable {n : Nat}

theorem encodeChar_one (h : n < 0x80) : encodeChar (Char.ofNat n) = [UInt8.ofNat n] := by
  unfold encodeChar
  rw [toNat_ofNat (.inl (by omega))]
  exact if_pos h

theorem encodeChar_two (h : 0x80 ≤ n) (h' : n < 0x800) :
    encodeChar (Char.ofNat n) = [UInt8.ofNat (0xC0 + n / 64), UInt8.ofNat (0x80 + n % 64)] := by
  unfold encodeChar
  rw [toNat_ofNat (.inl (by omega))]
  simp only
  rw [if_neg (by omega), if_pos h']

theorem encodeChar_three (h : 0x800 ≤ n) (h' : n < 0x10000) (hvalid : n.isValidChar) :
    encodeChar (Char.ofNat n) =
      [UInt8.ofNat (0xE0 + n / 4096), UInt8.ofNat (0x80 + n / 64 % 64), UInt8.ofNat (0x80 + n % 64)] := by
  unfold encodeChar
  rw [toNat_ofNat hvalid]
  simp only
  rw [if_neg (by omega), if_neg (by omega), if_pos h']

theorem encodeChar_four (h : 0x10000 ≤ n) (hvalid : n.isValidChar) :
    encodeChar (Char.ofNat n) = [UInt8.ofNat (0xF0 + n / 262144), UInt8.ofNat (0x80 + n / 4096 % 64),
      UInt8.ofNat (0x80 + n / 64 % 64), UInt8.ofNat (0x80 + n % 64)] := by
  unfold encodeChar
  rw [toNat_ofNat hvalid]
  simp only
  rw [if_neg (by omega), if_neg (by omega), if_neg (by omega)]

end Code

/-- What is read as a character is the byte form of that character. -/
theorem Form.eq_encodeChar {form : Bytes} {n : Nat} (h : Form form n) : form = encodeChar (Char.ofNat n) := by
  cases h with
  | @one b hb =>
    rw [encodeChar_one (UInt8.lt_iff_toNat_lt.mp hb), UInt8.ofNat_toNat]
  | @more b b' l cont hb hl hlow hhigh hlength hcont =>
    rw [UInt8.le_iff_toNat_le] at hlow hhigh
    rcases announced_eq_some (announced_of_lead? hl) with h | h | h
    · obtain ⟨hfollowing, hlo, hhi, hvalue, hl₁, hl₂⟩ := h
      rw [hfollowing] at hlength
      obtain rfl := List.length_eq_zero_iff.mp hlength
      rw [hl₁] at hlow
      rw [hl₂] at hhigh
      rw [List.foldl_cons, List.foldl_nil, extend, hvalue, encodeChar_two (by omega) (by omega)]
      congr
      · rw [show 0xC0 + ((b.toNat - 0xC0) * 64 + b'.toNat % 64) / 64 = b.toNat by omega, UInt8.ofNat_toNat]
      · rw [show 0x80 + ((b.toNat - 0xC0) * 64 + b'.toNat % 64) % 64 = b'.toNat by omega, UInt8.ofNat_toNat]
    · obtain ⟨hfollowing, hlo, hhi, hvalue, hl₁, hl₂⟩ := h
      rw [hfollowing] at hlength
      obtain ⟨c, rfl⟩ := List.length_eq_one_iff.mp hlength
      have hc := isContinuation_iff.mp (hcont c (List.mem_cons_self ..))
      rw [hl₁] at hlow
      rw [hl₂] at hhigh
      simp only [List.foldl_cons, List.foldl_nil, extend, hvalue]
      generalize hn : ((b.toNat - 0xE0) * 64 + b'.toNat % 64) * 64 + c.toNat % 64 = n
      have hfirst : 0x80 ≤ b'.toNat ∧ b'.toNat ≤ 0xBF := by split_ifs at hlow hhigh <;> omega
      have hmin : 0x800 ≤ n := by split_ifs at hlow <;> omega
      have hvalid : n.isValidChar := by
        split_ifs at hhigh
        · exact .inl (by omega)
        · by_cases hsmall : b.toNat < 0xED
          · exact .inl (by omega)
          · exact .inr (by omega)
      rw [encodeChar_three hmin (by omega) hvalid, show 0xE0 + n / 4096 = b.toNat by omega,
        show 0x80 + n / 64 % 64 = b'.toNat by omega, show 0x80 + n % 64 = c.toNat by omega]
      simp only [UInt8.ofNat_toNat]
    · obtain ⟨hfollowing, hlo, hhi, hvalue, hl₁, hl₂⟩ := h
      rw [hfollowing] at hlength
      obtain ⟨c, d, rfl⟩ := List.length_eq_two.mp hlength
      have hc := isContinuation_iff.mp (hcont c (List.mem_cons_self ..))
      have hd := isContinuation_iff.mp (hcont d (List.mem_cons_of_mem _ (List.mem_cons_self ..)))
      rw [hl₁] at hlow
      rw [hl₂] at hhigh
      simp only [List.foldl_cons, List.foldl_nil, extend, hvalue]
      generalize hn : (((b.toNat - 0xF0) * 64 + b'.toNat % 64) * 64 + c.toNat % 64) * 64 + d.toNat % 64 = n
      have hfirst : 0x80 ≤ b'.toNat ∧ b'.toNat ≤ 0xBF := by split_ifs at hlow hhigh <;> omega
      have hmin : 0x10000 ≤ n := by split_ifs at hlow <;> omega
      have hvalid : n.isValidChar := .inr (by split_ifs at hhigh <;> omega)
      rw [encodeChar_four hmin hvalid, show 0xF0 + n / 262144 = b.toNat by omega,
        show 0x80 + n / 4096 % 64 = b'.toNat by omega, show 0x80 + n / 64 % 64 = c.toNat by omega,
        show 0x80 + n % 64 = d.toNat by omega]
      simp only [UInt8.ofNat_toNat]

theorem toNat_byte {n : Nat} (h : n < 256) : (UInt8.ofNat n).toNat = n := by
  rw [UInt8.toNat_ofNat', Nat.mod_eq_of_lt h]

theorem isContinuation_byte {n : Nat} (h : n < 64) : isContinuation (UInt8.ofNat (0x80 + n)) := by
  rw [isContinuation_iff, toNat_byte (by omega)]
  omega

theorem Form.of_announced (x y : Nat) (cont : Bytes) {following value low high : Nat} (hx : x < 256) (hx' : 0x80 ≤ x)
    (hy : y < 256) (hannounced : announced x = some (following, value, low, high)) (hlow : low ≤ y) (hhigh : y ≤ high)
    (hlength : cont.length = following - 1) (hcont : ∀ c ∈ cont, isContinuation c) :
    Form (UInt8.ofNat x :: UInt8.ofNat y :: cont) ((UInt8.ofNat y :: cont).foldl extend value) := by
  rw [← toNat_byte hx] at hannounced
  obtain ⟨l, hl, rfl, rfl, rfl, rfl⟩ := exists_lead? hannounced
  refine .more ?_ hl ?_ ?_ hlength hcont
  · rw [UInt8.lt_iff_toNat_lt, toNat_byte hx]
    exact Nat.not_lt.mpr hx'
  · rwa [UInt8.le_iff_toNat_le, toNat_byte hy]
  · rwa [UInt8.le_iff_toNat_le, toNat_byte hy]

theorem form_encodeChar (c : Char) : Form (encodeChar c) c.toNat := by
  have hvalid : c.toNat.isValidChar := c.valid
  rw [← Char.ofNat_toNat c, toNat_ofNat hvalid]
  generalize c.toNat = n at hvalid
  by_cases h₁ : n < 0x80
  · rw [encodeChar_one h₁]
    have hform : Form [UInt8.ofNat n] (UInt8.ofNat n).toNat :=
      .one (by rw [UInt8.lt_iff_toNat_lt, toNat_byte (by omega)]; exact h₁)
    rwa [toNat_byte (by omega)] at hform
  by_cases h₂ : n < 0x800
  · rw [encodeChar_two (by omega) h₂]
    have hform := Form.of_announced (0xC0 + n / 64) (0x80 + n % 64) [] (by omega) (by omega) (by omega)
      (by rw [announced, if_neg (by omega), if_pos (by omega)]) (by omega) (by omega) rfl
      (List.forall_mem_nil _)
    simp only [List.foldl_cons, List.foldl_nil, extend] at hform
    rwa [toNat_byte (by omega), show (0xC0 + n / 64 - 0xC0) * 64 + (0x80 + n % 64) % 64 = n by omega] at hform
  by_cases h₃ : n < 0x10000
  · rw [encodeChar_three (by omega) h₃ hvalid]
    have hlow : (if 0xE0 + n / 4096 = 0xE0 then 0xA0 else 0x80) ≤ 0x80 + n / 64 % 64 := by split_ifs <;> omega
    have hhigh : 0x80 + n / 64 % 64 ≤ if 0xE0 + n / 4096 = 0xED then 0x9F else 0xBF := by
      rcases hvalid with hvalid | hvalid <;> split_ifs <;> omega
    have hform := Form.of_announced (0xE0 + n / 4096) (0x80 + n / 64 % 64)
      [UInt8.ofNat (0x80 + n % 64)] (by omega) (by omega) (by omega)
      (by rw [announced, if_neg (by omega), if_neg (by omega), if_pos (by omega)]) hlow hhigh rfl
      (List.forall_mem_singleton.mpr (isContinuation_byte (by omega)))
    simp only [List.foldl_cons, List.foldl_nil, extend] at hform
    rwa [toNat_byte (by omega), toNat_byte (by omega),
      show ((0xE0 + n / 4096 - 0xE0) * 64 + (0x80 + n / 64 % 64) % 64) * 64 + (0x80 + n % 64) % 64 = n by omega]
      at hform
  · rw [encodeChar_four (by omega) hvalid]
    have hmax : n < 0x110000 := by rcases hvalid with hvalid | hvalid <;> omega
    have hlow : (if 0xF0 + n / 262144 = 0xF0 then 0x90 else 0x80) ≤ 0x80 + n / 4096 % 64 := by split_ifs <;> omega
    have hhigh : 0x80 + n / 4096 % 64 ≤ if 0xF0 + n / 262144 = 0xF4 then 0x8F else 0xBF := by split_ifs <;> omega
    have hform := Form.of_announced (0xF0 + n / 262144) (0x80 + n / 4096 % 64)
      [UInt8.ofNat (0x80 + n / 64 % 64), UInt8.ofNat (0x80 + n % 64)] (by omega) (by omega) (by omega)
      (by rw [announced, if_neg (by omega), if_neg (by omega), if_neg (by omega), if_pos (by omega)]) hlow hhigh rfl
      (List.forall_mem_cons.mpr ⟨isContinuation_byte (by omega),
        List.forall_mem_singleton.mpr (isContinuation_byte (by omega))⟩)
    simp only [List.foldl_cons, List.foldl_nil, extend] at hform
    rwa [toNat_byte (by omega), toNat_byte (by omega), toNat_byte (by omega),
      show (((0xF0 + n / 262144 - 0xF0) * 64 + (0x80 + n / 4096 % 64) % 64) * 64 + (0x80 + n / 64 % 64) % 64) * 64 +
        (0x80 + n % 64) % 64 = n by omega] at hform

/-! ## Characters at the front -/

/-- **A character is read where its byte form stands.** -/
theorem front_encodeChar_append (c : Char) (rest : Bytes) : front (encodeChar c ++ rest) = .char c rest := by
  rw [(form_encodeChar c).front_append, Char.ofNat_toNat]

/-- **A character is read only where its byte form stands.** -/
theorem eq_of_front_char {bs rest : Bytes} {c : Char} (h : front bs = .char c rest) : bs = encodeChar c ++ rest := by
  obtain ⟨form, n, hform, rfl, rfl⟩ := exists_form_of_front_char h
  rw [← hform.eq_encodeChar]

theorem encodeChar_ne_nil (c : Char) : encodeChar c ≠ [] := by
  intro h
  have hfront := front_encodeChar_append c []
  rw [h] at hfront
  cases hfront

theorem front_append_of_char {bs rest : Bytes} {c : Char} (h : front bs = .char c rest) (more : Bytes) :
    front (bs ++ more) = .char c (rest ++ more) := by
  rw [eq_of_front_char h, List.append_assoc, front_encodeChar_append]

theorem continuations_ne_done (n v t : Nat) (bs : Bytes) : continuations n v t bs ≠ .done := by
  fun_induction continuations n v t bs with
  | case1 => exact Front.noConfusion
  | case2 => exact Front.noConfusion
  | case3 _ _ _ _ _ _ ih => exact ih
  | case4 => exact Front.noConfusion

theorem eq_nil_of_front_done {bs : Bytes} (h : front bs = .done) : bs = [] := by
  cases bs with
  | nil => rfl
  | cons b tail =>
    rw [front] at h
    split_ifs at h
    rcases hl : lead? b with _ | l
    · rw [hl] at h
      cases h
    rw [hl] at h
    cases tail with
    | nil => cases h
    | cons b' tail =>
      simp only at h
      split_ifs at h
      exact absurd h (continuations_ne_done _ _ _ _)

/-! ## What is no character -/

theorem continuations_append_of_illFormed {n v t k : Nat} {bs rest : Bytes}
    (h : continuations n v t bs = .illFormed k rest) (more : Bytes) :
    continuations n v t (bs ++ more) = .illFormed k (rest ++ more) := by
  fun_induction continuations n v t bs with
  | case1 => cases h
  | case2 => cases h
  | case3 n v t b bs hb ih => rw [List.cons_append, continuations, if_pos hb, ih h]
  | case4 n v t b bs hb =>
    cases h
    rw [List.cons_append, continuations, if_neg hb]

theorem continuations_suffix (n v t : Nat) (bs : Bytes) : (continuations n v t bs).rest <:+ bs := by
  fun_induction continuations n v t bs with
  | case1 => exact List.suffix_rfl
  | case2 => exact List.suffix_rfl
  | case3 _ _ _ _ _ _ ih => exact ih.trans (List.suffix_cons _ _)
  | case4 => exact List.suffix_rfl

theorem front_suffix (bs : Bytes) : (front bs).rest <:+ bs := by
  fun_cases front bs with
  | case1 => exact List.suffix_rfl
  | case2 => exact List.suffix_cons _ _
  | case3 => exact List.suffix_cons _ _
  | case4 => exact List.nil_suffix
  | case5 => exact (continuations_suffix _ _ _ _).trans ((List.suffix_cons _ _).trans (List.suffix_cons _ _))
  | case6 => exact List.suffix_cons _ _

theorem front_append_of_illFormed {bs rest : Bytes} {k : Nat} (h : front bs = .illFormed k rest) (more : Bytes) :
    front (bs ++ more) = .illFormed k (rest ++ more) := by
  cases bs with
  | nil => cases h
  | cons b tail =>
    rw [List.cons_append, front]
    rw [front] at h
    split_ifs at h ⊢
    rcases hl : lead? b with _ | l
    · rw [hl] at h
      cases h
      rfl
    rw [hl] at h
    cases tail with
    | nil => cases h
    | cons b' tail =>
      simp only [List.cons_append] at h ⊢
      split_ifs at h ⊢
      · exact continuations_append_of_illFormed h more
      · cases h
        rfl

theorem isContinuation_of_mem_replicate {n : Nat} : ∀ c ∈ List.replicate n (0x80 : UInt8), isContinuation c := by
  intro c hc
  obtain rfl := List.eq_of_mem_replicate hc
  decide

theorem exists_completion_continuations {n v t : Nat} {bs : Bytes} (h : continuations n v t bs = .truncated) :
    bs.length < n ∧ ∃ more, more ≠ [] ∧ ∃ c, continuations n v t (bs ++ more) = .char c [] := by
  fun_induction continuations n v t bs with
  | case1 => cases h
  | case2 n v t =>
    have hall := continuations_append (isContinuation_of_mem_replicate (n := n + 1)) v t []
    rw [List.length_replicate, List.append_nil] at hall
    exact ⟨Nat.zero_lt_succ n, List.replicate (n + 1) 0x80, List.cons_ne_nil _ _, _, hall⟩
  | case3 n v t b bs hb ih =>
    obtain ⟨hlength, more, hmore, c, hc⟩ := ih h
    refine ⟨Nat.succ_lt_succ hlength, more, hmore, c, ?_⟩
    rw [List.cons_append, continuations, if_pos hb, hc]
  | case4 => cases h

theorem following_bounds {b : UInt8} {l : Lead} (h : lead? b = some l) :
    1 ≤ l.following ∧ l.following ≤ 3 ∧ l.low ≤ l.high := by
  rw [UInt8.le_iff_toNat_le]
  rcases announced_eq_some (announced_of_lead? h) with ⟨hf, -, -, -, hlow, hhigh⟩ | ⟨hf, -, -, -, hlow, hhigh⟩ |
    ⟨hf, -, -, -, hlow, hhigh⟩
  · omega
  · split_ifs at hlow hhigh <;> omega
  · split_ifs at hlow hhigh <;> omega

theorem exists_completion {bs : Bytes} (h : front bs = .truncated) :
    bs.length ≤ 3 ∧ ∃ more, more ≠ [] ∧ ∃ c, front (bs ++ more) = .char c [] := by
  cases bs with
  | nil => cases h
  | cons b tail =>
    rw [front] at h
    split_ifs at h with hb
    rcases hl : lead? b with _ | l
    · rw [hl] at h
      cases h
    rw [hl] at h
    obtain ⟨hone, hthree, hinterval⟩ := following_bounds hl
    cases tail with
    | nil =>
      have hform := Form.more hb hl (UInt8.le_refl l.low) hinterval List.length_replicate
        isContinuation_of_mem_replicate
      have hfront := hform.front_append []
      rw [List.append_nil] at hfront
      exact ⟨Nat.le_of_ble_eq_true rfl, _, List.cons_ne_nil _ _, _, hfront⟩
    | cons b' tail =>
      simp only at h
      split_ifs at h with hb'
      obtain ⟨hlength, more, hmore, c, hc⟩ := exists_completion_continuations h
      refine ⟨by simp only [List.length_cons]; omega, more, hmore, c, ?_⟩
      rw [List.cons_append, List.cons_append, front, if_neg hb, hl]
      simp only [hb', if_true]
      exact hc

/-- **What is cut off is the beginning of a character**, up to three bytes long. -/
theorem exists_encodeChar_of_truncated {bs : Bytes} (h : front bs = .truncated) :
    bs.length ≤ 3 ∧ ∃ c more, more ≠ [] ∧ bs ++ more = encodeChar c := by
  obtain ⟨hlength, more, hmore, c, hc⟩ := exists_completion h
  have hwhole := eq_of_front_char hc
  rw [List.append_nil] at hwhole
  exact ⟨hlength, c, more, hmore, hwhole⟩

/-! ## The byte forms of texts -/

/-- A byte string that is the byte form of a text. -/
def Valid (bs : Bytes) : Prop := ∃ s, encode s = bs

/-- A byte string that some bytes make the byte form of a text. -/
def Extensible (bs : Bytes) : Prop := ∃ more, Valid (bs ++ more)

theorem encode_cons (c : Char) (s : Text) : encode (c :: s) = encodeChar c ++ encode s := List.flatMap_cons

theorem Valid.extensible {bs : Bytes} (h : Valid bs) : Extensible bs := ⟨[], by rwa [List.append_nil]⟩

theorem Extensible.of_append {as bs : Bytes} (h : Extensible (as ++ bs)) : Extensible as := by
  obtain ⟨more, hvalid⟩ := h
  exact ⟨bs ++ more, by rwa [← List.append_assoc]⟩

theorem front_of_valid {bs : Bytes} (h : Valid bs) : bs = [] ∨ ∃ c rest, front bs = .char c rest ∧ Valid rest := by
  obtain ⟨s, rfl⟩ := h
  cases s with
  | nil => exact .inl rfl
  | cons c s => exact .inr ⟨c, encode s, by rw [encode_cons, front_encodeChar_append], s, rfl⟩

theorem valid_encodeChar_append_iff {c : Char} {bs : Bytes} : Valid (encodeChar c ++ bs) ↔ Valid bs := by
  constructor
  · intro h
    rcases front_of_valid h with hnil | ⟨d, rest, hfront, hrest⟩
    · exact absurd (List.append_eq_nil_iff.mp hnil).1 (encodeChar_ne_nil c)
    · rw [front_encodeChar_append] at hfront
      cases hfront
      exact hrest
  · rintro ⟨s, rfl⟩
    exact ⟨c :: s, encode_cons c s⟩

theorem valid_encode_append_iff {s : Text} {bs : Bytes} : Valid (encode s ++ bs) ↔ Valid bs := by
  induction s with
  | nil => rfl
  | cons c s ih => rw [encode_cons, List.append_assoc, valid_encodeChar_append_iff, ih]

theorem extensible_encode_append_iff {s : Text} {bs : Bytes} : Extensible (encode s ++ bs) ↔ Extensible bs := by
  unfold Extensible
  simp only [List.append_assoc, valid_encode_append_iff]

theorem extensible_of_truncated {bs : Bytes} (h : front bs = .truncated) : Extensible bs := by
  obtain ⟨-, c, more, -, hwhole⟩ := exists_encodeChar_of_truncated h
  exact ⟨more, [c], by rw [encode_cons, encode_nil, List.append_nil, hwhole]⟩

theorem not_extensible_of_illFormed {bs rest : Bytes} {k : Nat} (h : front bs = .illFormed k rest) :
    ¬ Extensible bs := by
  rintro ⟨more, hvalid⟩
  have hfront := front_append_of_illFormed h more
  rcases front_of_valid hvalid with hnil | ⟨c, r, hchar, -⟩
  · rw [hnil] at hfront
    cases hfront
  · rw [hchar] at hfront
    cases hfront

/-- Where no character stands, no beginning but the empty one is the byte form of a text. -/
theorem take_eq_nil_of_valid {bs : Bytes} {n : Nat} (hfront : ∀ c rest, front bs ≠ .char c rest)
    (h : Valid (bs.take n)) : bs.take n = [] := by
  rcases front_of_valid h with hnil | ⟨c, rest, hchar, -⟩
  · exact hnil
  · refine absurd (front_append_of_char hchar (bs.drop n)) ?_
    rw [List.take_append_drop]
    exact hfront _ _

/-- The byte form of a text up to where no character stands is the longest beginning that is one. -/
theorem le_of_valid_take {s : Text} {bs : Bytes} {n : Nat} (hfront : ∀ c rest, front bs ≠ .char c rest)
    (hn : n ≤ (encode s ++ bs).length) (h : Valid ((encode s ++ bs).take n)) : n ≤ (encode s).length := by
  by_contra hlt
  rw [List.take_append, List.take_of_length_le (by omega), valid_encode_append_iff] at h
  have hlength := congrArg List.length (take_eq_nil_of_valid hfront h)
  rw [List.length_append] at hn
  rw [List.length_take, List.length_nil] at hlength
  omega

end Dialogue.Utf8
