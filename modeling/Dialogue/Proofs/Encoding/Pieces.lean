import Dialogue.Encoding.Whole
import Dialogue.Proofs.Text.Utf8

/-!
# The pieces of a byte string

What can be read off the front of a byte string, one character or one ill-formed part after the other, says what any
reader makes of it.

* `Piece`, `Scans`: the pieces of a byte string, and the bytes left at the end; `exists_scans`: every one has them;
* `Scans.cases`: whole characters up to the end, or up to the first ill-formed part;
* `validate_encode_append_illFormed`, `validate_encode_append_truncated`: where a byte string is no text;
* `decode_encode`, `decode_encode_append`, `decodeLossy_of_scans`: whole byte strings in terms of their pieces.
-/

namespace Dialogue.Utf8

/-! ## Pieces read off the front -/

/-- What stands in a byte string: a character, or a maximal ill-formed part of the given length. -/
inductive Piece where
  | char (c : Char)
  | illFormed (length : Nat)
  deriving DecidableEq, Repr

/-- The pieces of a byte string, and the bytes left at the end: none, or a character that is cut off. -/
inductive Scans : Bytes → List Piece → Bytes → Prop where
  | nil : Scans [] [] []
  | truncated {bs : Bytes} : front bs = .truncated → Scans bs [] bs
  | char {bs rest left : Bytes} {c : Char} {ps : List Piece} : front bs = .char c rest → Scans rest ps left →
    Scans bs (.char c :: ps) left
  | illFormed {bs rest left : Bytes} {k : Nat} {ps : List Piece} : front bs = .illFormed k rest →
    Scans rest ps left → Scans bs (.illFormed k :: ps) left

namespace Scans

variable {bs left : Bytes} {ps : List Piece}

/-- What is left is nothing or cut off. -/
theorem left_cases (h : Scans bs ps left) : left = [] ∨ front left = .truncated := by
  induction h with
  | nil => exact .inl rfl
  | truncated h => exact .inr h
  | char _ _ ih => exact ih
  | illFormed _ _ ih => exact ih

theorem left_suffix (h : Scans bs ps left) : left <:+ bs := by
  induction h with
  | nil => exact List.suffix_rfl
  | truncated => exact List.suffix_rfl
  | @char bs rest left c ps hfront _ ih => exact ih.trans (by rw [eq_of_front_char hfront]; exact List.suffix_append _ _)
  | @illFormed bs rest left k ps hfront _ ih => exact ih.trans (by simpa [hfront, Front.rest] using front_suffix bs)

theorem cases (h : Scans bs ps left) :
    (∃ s : Text, ps = s.map .char ∧ bs = encode s ++ left) ∨
      ∃ (s : Text) (k : Nat) (more : List Piece) (bad rest : Bytes), ps = s.map .char ++ .illFormed k :: more ∧
        bs = encode s ++ bad ∧ front bad = .illFormed k rest := by
  induction h with
  | nil => exact .inl ⟨[], rfl, rfl⟩
  | truncated => exact .inl ⟨[], rfl, rfl⟩
  | @char bs rest left c ps hfront _ ih =>
    rw [eq_of_front_char hfront]
    rcases ih with ⟨s, rfl, rfl⟩ | ⟨s, k, more, bad, rest, rfl, rfl, hbad⟩
    · exact .inl ⟨c :: s, rfl, by rw [encode_cons, List.append_assoc]⟩
    · exact .inr ⟨c :: s, k, more, bad, rest, rfl, by rw [encode_cons, List.append_assoc], hbad⟩
  | @illFormed bs rest left k ps hfront => exact .inr ⟨[], k, ps, bs, rest, rfl, rfl, hfront⟩

end Scans

theorem exists_scans (bs : Bytes) : ∃ ps left, Scans bs ps left := by
  by_cases hnil : bs = []
  · subst hnil
    exact ⟨[], [], .nil⟩
  rcases hfront : front bs with _ | ⟨c, rest⟩ | ⟨k, rest⟩ | _
  · exact absurd (eq_nil_of_front_done hfront) hnil
  · have := front_char_lt hfront
    obtain ⟨ps, left, hscans⟩ := exists_scans rest
    exact ⟨_, _, .char hfront hscans⟩
  · have := front_illFormed_lt hfront
    obtain ⟨ps, left, hscans⟩ := exists_scans rest
    exact ⟨_, _, .illFormed hfront hscans⟩
  · exact ⟨_, _, .truncated hfront⟩
termination_by bs.length

/-! ## Strict readers -/

theorem width_encodeChar_append (c : Char) (rest : Bytes) : width (encodeChar c ++ rest) = (encodeChar c).length := by
  -- the width is told by the first byte, so one byte may be put after the character
  have hfirst : width (encodeChar c ++ rest) = width (encodeChar c ++ [0]) := by
    obtain ⟨b, more, hc⟩ := List.exists_cons_of_ne_nil (encodeChar_ne_nil c)
    rw [hc]
    rfl
  have hlength := congrArg List.length (rest_of_front_char (front_encodeChar_append c [0]))
  rw [List.length_drop, List.length_append, List.length_singleton] at hlength
  omega

theorem validateFrom_encode_append (acc s : Text) (n : Nat) (bs : Bytes) :
    validateFrom acc n (encode s ++ bs) = validateFrom (s.reverse ++ acc) (n + (encode s).length) bs := by
  induction s generalizing acc n with
  | nil => rfl
  | cons c s ih =>
    have hfront : front (encode (c :: s) ++ bs) = .char c (encode s ++ bs) := by
      rw [encode_cons, List.append_assoc, front_encodeChar_append]
    have hwidth : width (encode (c :: s) ++ bs) = (encodeChar c).length := by
      rw [encode_cons, List.append_assoc, width_encodeChar_append]
    rw [validateFrom]
    split
    · next h => rw [hfront] at h; cases h
    · next h =>
      rw [hfront] at h
      cases h
      rw [ih, hwidth, encode_cons, List.length_append, Nat.add_assoc, List.reverse_cons, List.append_assoc,
        List.singleton_append]
    · next h => rw [hfront] at h; cases h
    · next h => rw [hfront] at h; cases h

theorem validate_encode (s : Text) : validate (encode s) = .ok s := by
  have hall := validateFrom_encode_append [] s 0 []
  rw [List.append_nil, List.append_nil] at hall
  rw [validate, hall, validateFrom]
  exact congrArg Except.ok s.reverse_reverse

theorem validate_encode_append_illFormed (s : Text) {bs rest : Bytes} {k : Nat} (h : front bs = .illFormed k rest) :
    validate (encode s ++ bs) = .error ⟨(encode s).length, some k⟩ := by
  rw [validate, validateFrom_encode_append, Nat.zero_add, validateFrom]
  split <;> simp_all

theorem validate_encode_append_truncated (s : Text) {bs : Bytes} (h : front bs = .truncated) :
    validate (encode s ++ bs) = .error ⟨(encode s).length, none⟩ := by
  rw [validate, validateFrom_encode_append, Nat.zero_add, validateFrom]
  split <;> simp_all

theorem decode_encode (s : Text) : decode (encode s) = .ok s := by
  rw [decode, validate_encode]
  rfl

theorem decode_encode_append (s : Text) {bs : Bytes} (hbs : bs ≠ []) (hfront : ∀ c rest, front bs ≠ .char c rest) :
    decode (encode s ++ bs) = .error (encode s).length := by
  rcases h : front bs with _ | ⟨c, rest⟩ | ⟨k, rest⟩ | _
  · exact absurd (eq_nil_of_front_done h) hbs
  · exact absurd h (hfront c rest)
  · rw [decode, validate_encode_append_illFormed s h]
    rfl
  · rw [decode, validate_encode_append_truncated s h]
    rfl

/-! ## Reading with U+FFFD -/

/-- A piece as a text with U+FFFD shows it. -/
def Piece.shown : Piece → Char
  | .char c => c
  | .illFormed _ => replacement

theorem decodeLossyFrom_of_scans {bs left : Bytes} {ps : List Piece} (h : Scans bs ps left) (acc : Text) :
    decodeLossyFrom acc bs = acc.reverse ++ ps.map Piece.shown ++ if left = [] then [] else [replacement] := by
  induction h generalizing acc with
  | nil =>
    rw [decodeLossyFrom]
    simp [front]
  | @truncated bs hfront =>
    have hne : bs ≠ [] := by
      rintro rfl
      cases hfront
    rw [decodeLossyFrom, if_neg hne]
    split <;> simp_all
  | @char bs rest left c ps hfront _ ih =>
    rw [decodeLossyFrom]
    split
    · next h => rw [hfront] at h; cases h
    · next h =>
      rw [hfront] at h
      cases h
      rw [ih, List.reverse_cons, List.append_assoc acc.reverse]
      rfl
    · next h => rw [hfront] at h; cases h
    · next h => rw [hfront] at h; cases h
  | @illFormed bs rest left k ps hfront _ ih =>
    rw [decodeLossyFrom]
    split
    · next h => rw [hfront] at h; cases h
    · next h => rw [hfront] at h; cases h
    · next h =>
      rw [hfront] at h
      cases h
      rw [ih, List.reverse_cons, List.append_assoc acc.reverse]
      rfl
    · next h => rw [hfront] at h; cases h

/-- A whole byte string is read with U+FFFD as its pieces show it, and with one more for what is cut off. -/
theorem decodeLossy_of_scans {bs left : Bytes} {ps : List Piece} (h : Scans bs ps left) :
    decodeLossy bs = ps.map Piece.shown ++ if left = [] then [] else [replacement] :=
  decodeLossyFrom_of_scans h []

end Dialogue.Utf8
