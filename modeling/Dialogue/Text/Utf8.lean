import Dialogue.Text.Basic

/-!
# UTF-8

The byte form of a text, and what can be read off the front of a byte string. Reading goes by *maximal ill-formed
parts*: bytes that begin no character, or a proper beginning of one that the next byte does not continue, up to
that byte. Overlong forms, surrogates and values above U+10FFFF are refused at the second byte, so a lead byte
comes with the interval its second byte must lie in.

* `encodeChar`, `encode`: a text as bytes;
* `Lead`, `lead?`: what a byte announces when it begins a character;
* `Front`, `front`: one character, or one ill-formed part, off the front;
* `Fault`, `validate`: a byte string as a text, or where it is not one;
* `decode`, `decodeLossy`: a whole byte string as a text, strictly or with U+FFFD for each ill-formed part.
-/

namespace Dialogue.Utf8

/-- U+FFFD, which stands in for what cannot be read. -/
def replacement : Char := '\uFFFD'

def encodeChar (c : Char) : Bytes :=
  let n := c.toNat
  if n < 0x80 then [UInt8.ofNat n]
  else if n < 0x800 then [UInt8.ofNat (0xC0 + n / 64), UInt8.ofNat (0x80 + n % 64)]
  else if n < 0x10000 then
    [UInt8.ofNat (0xE0 + n / 4096), UInt8.ofNat (0x80 + n / 64 % 64), UInt8.ofNat (0x80 + n % 64)]
  else
    [UInt8.ofNat (0xF0 + n / 262144), UInt8.ofNat (0x80 + n / 4096 % 64), UInt8.ofNat (0x80 + n / 64 % 64),
      UInt8.ofNat (0x80 + n % 64)]

def encode (s : Text) : Bytes := s.flatMap encodeChar

@[simp] theorem encode_nil : encode [] = [] := rfl

def size (s : Text) : Nat := (encode s).length

/-- A byte that only continues a character. -/
def isContinuation (b : UInt8) : Bool := 0x80 ≤ b && b ≤ 0xBF

/-- What the first byte of a longer character announces: how many bytes follow, its share of the code point, and
the interval of the byte that comes next. -/
structure Lead where
  following : Nat
  value : Nat
  low : UInt8
  high : UInt8

/-- Reads a byte as the first of a character of two to four bytes. -/
def lead? (b : UInt8) : Option Lead :=
  if b < 0xC2 then none
  else if b < 0xE0 then some ⟨1, b.toNat - 0xC0, 0x80, 0xBF⟩
  else if b == 0xE0 then some ⟨2, 0, 0xA0, 0xBF⟩
  else if b == 0xED then some ⟨2, 13, 0x80, 0x9F⟩
  else if b < 0xF0 then some ⟨2, b.toNat - 0xE0, 0x80, 0xBF⟩
  else if b == 0xF0 then some ⟨3, 0, 0x90, 0xBF⟩
  else if b < 0xF4 then some ⟨3, b.toNat - 0xF0, 0x80, 0xBF⟩
  else if b == 0xF4 then some ⟨3, 4, 0x80, 0x8F⟩
  else none

/-- A code point lengthened by the six bits of a continuation byte. -/
def extend (value : Nat) (b : UInt8) : Nat := value * 64 + b.toNat % 64

/-- What stands at the front of a byte string: nothing; a character, or a maximal ill-formed part of the given length,
and what follows it; or the proper beginning of a character, cut off by the end of the string. -/
inductive Front where
  | done
  | char (c : Char) (rest : Bytes)
  | illFormed (length : Nat) (rest : Bytes)
  | truncated

/-- Reads the last `n` bytes of a character whose first `taken` bytes gave `value`. -/
def continuations : Nat → Nat → Nat → Bytes → Front
  | 0, value, _, rest => .char (Char.ofNat value) rest
  | _ + 1, _, _, [] => .truncated
  | n + 1, value, taken, b :: rest =>
    if isContinuation b then continuations n (extend value b) (taken + 1) rest else .illFormed taken (b :: rest)

/-- Reads one character, or one ill-formed part, off the front. -/
def front : Bytes → Front
  | [] => .done
  | b :: rest =>
    if b < 0x80 then .char (Char.ofNat b.toNat) rest
    else match lead? b with
      | none => .illFormed 1 rest
      | some l => match rest with
        | [] => .truncated
        | b' :: rest' =>
          if l.low ≤ b' && b' ≤ l.high then continuations (l.following - 1) (extend l.value b') 2 rest'
          else .illFormed 1 rest

/-- What follows the part at the front. -/
def Front.rest : Front → Bytes
  | .char _ rest => rest
  | .illFormed _ rest => rest
  | .done => []
  | .truncated => []

theorem rest_continuations_le (n v t : Nat) (bs : Bytes) :
    (continuations n v t bs).rest.length ≤ bs.length := by
  fun_induction continuations n v t bs with
  | case1 => exact Nat.le_refl _
  | case2 => exact Nat.le_refl _
  | case3 _ _ _ _ _ _ ih => exact Nat.le_succ_of_le ih
  | case4 => exact Nat.le_refl _

theorem rest_front_lt {bs : Bytes} (h : bs ≠ []) : (front bs).rest.length < bs.length := by
  fun_cases front bs with
  | case1 => exact absurd rfl h
  | case2 => exact Nat.lt_succ_self _
  | case3 => exact Nat.lt_succ_self _
  | case4 => exact Nat.zero_lt_succ _
  | case5 => exact Nat.lt_succ_of_le (Nat.le_succ_of_le (rest_continuations_le _ _ _ _))
  | case6 => exact Nat.lt_succ_self _

theorem ne_nil_of_front_char {bs r : Bytes} {c : Char} (h : front bs = .char c r) : bs ≠ [] := by
  rintro rfl; simp [front] at h

theorem ne_nil_of_front_illFormed {bs r : Bytes} {k : Nat} (h : front bs = .illFormed k r) : bs ≠ [] := by
  rintro rfl; simp [front] at h

theorem front_char_lt {bs r : Bytes} {c : Char} (h : front bs = .char c r) : r.length < bs.length := by
  simpa [h, Front.rest] using rest_front_lt (ne_nil_of_front_char h)

theorem front_illFormed_lt {bs r : Bytes} {k : Nat} (h : front bs = .illFormed k r) : r.length < bs.length := by
  simpa [h, Front.rest] using rest_front_lt (ne_nil_of_front_illFormed h)

/-- The number of bytes of the character at the front, as its first byte tells. -/
def width : Bytes → Nat
  | [] => 0
  | b :: _ => if b < 0x80 then 1 else (lead? b).elim 1 fun l => l.following - 1 + 2

theorem rest_continuations (n v t : Nat) (bs : Bytes) :
    match continuations n v t bs with
    | .char _ rest => rest = bs.drop n
    | .illFormed k rest => t ≤ k ∧ rest = bs.drop (k - t)
    | _ => True := by
  fun_induction continuations n v t bs with
  | case1 => rfl
  | case2 => trivial
  | case3 n v t b bs _ ih =>
    rcases hc : continuations n (extend v b) (t + 1) bs with _ | ⟨c, rest⟩ | ⟨k, rest⟩ | _ <;> rw [hc] at ih
    · trivial
    · exact ih
    · exact ⟨by omega, by rw [ih.2, show k - t = k - (t + 1) + 1 by omega, List.drop_succ_cons]⟩
    · trivial
  | case4 => exact ⟨Nat.le_refl _, by rw [Nat.sub_self, List.drop_zero]⟩

theorem rest_front (bs : Bytes) :
    match front bs with
    | .char _ rest => rest = bs.drop (width bs)
    | .illFormed k rest => 0 < k ∧ rest = bs.drop k
    | _ => True := by
  fun_cases front bs with
  | case1 => trivial
  | case2 b more hb => simp [width, hb]
  | case3 => exact ⟨Nat.one_pos, rfl⟩
  | case4 => trivial
  | case5 b hb l hl b' more =>
    have h := rest_continuations (l.following - 1) (extend l.value b') 2 more
    rcases hc : continuations (l.following - 1) (extend l.value b') 2 more with _ | ⟨c, rest⟩ | ⟨k, rest⟩ | _ <;>
      rw [hc] at h
    · trivial
    · simpa [width, hb, hl] using h
    · obtain ⟨k, rfl⟩ := Nat.exists_eq_add_of_le' h.1
      exact ⟨Nat.succ_pos _, h.2⟩
    · trivial
  | case6 => exact ⟨Nat.one_pos, rfl⟩

theorem rest_of_front_char {bs rest : Bytes} {c : Char} (h : front bs = .char c rest) : rest = bs.drop (width bs) := by
  simpa [h] using rest_front bs

theorem rest_of_front_illFormed {bs rest : Bytes} {k : Nat} (h : front bs = .illFormed k rest) :
    0 < k ∧ rest = bs.drop k := by
  simpa [h] using rest_front bs

/-- Why a byte string is not the byte form of a text: how many bytes at its front are one, and the length of the
ill-formed part after them, unless it ends in the middle of a character. -/
structure Fault where
  valid : Nat
  invalid : Option Nat
  deriving DecidableEq, Repr

/-- Reads characters after `acc`, the last one first, which took `n` bytes. -/
def validateFrom (acc : Text) (n : Nat) (bs : Bytes) : Except Fault Text :=
  match h : front bs with
  | .done => .ok acc.reverse
  | .char c rest =>
    have := front_char_lt h
    validateFrom (c :: acc) (n + width bs) rest
  | .illFormed k _ => .error ⟨n, some k⟩
  | .truncated => .error ⟨n, none⟩
termination_by bs.length

/-- The text whose byte form is `bs`, or where it is not one. -/
def validate (bs : Bytes) : Except Fault Text := validateFrom [] 0 bs

/-- Where a byte string is not the byte form of a text an ill-formed part begins, or a character that is cut off. -/
theorem front_of_validateFrom {acc : Text} {n : Nat} {bs : Bytes} {fault : Fault}
    (h : validateFrom acc n bs = .error fault) :
    ∃ m, fault.valid = n + m ∧ (fault.invalid = none → front (bs.drop m) = .truncated) ∧
      ∀ k, fault.invalid = some k → ∃ rest, front (bs.drop m) = .illFormed k rest := by
  fun_induction validateFrom acc n bs with
  | case1 => cases h
  | case2 acc n bs c rest hfront _ ih =>
    obtain ⟨m, hvalid, hnone, hsome⟩ := ih h
    rw [rest_of_front_char hfront, List.drop_drop] at hnone hsome
    exact ⟨width bs + m, by rw [hvalid, Nat.add_assoc], hnone, hsome⟩
  | case3 acc n bs k rest hfront =>
    obtain rfl := Except.error.inj h
    exact ⟨0, rfl, nofun, fun _ hk => Option.some.inj hk ▸ ⟨rest, hfront⟩⟩
  | case4 acc n bs hfront =>
    obtain rfl := Except.error.inj h
    exact ⟨0, rfl, fun _ => hfront, nofun⟩

theorem front_of_validate {bs : Bytes} {fault : Fault} (h : validate bs = .error fault) :
    (fault.invalid = none → front (bs.drop fault.valid) = .truncated) ∧
      ∀ k, fault.invalid = some k → ∃ rest, front (bs.drop fault.valid) = .illFormed k rest := by
  obtain ⟨m, hvalid, hfront⟩ := front_of_validateFrom h
  rwa [hvalid, Nat.zero_add]

/-- The text whose byte form is `bs`, or the length of the longest beginning of `bs` made of whole characters. -/
def decode (bs : Bytes) : Except Nat Text := (validate bs).mapError Fault.valid

/-- Reads a whole byte string after the characters `acc`, the last one first, with U+FFFD for what is ill-formed. -/
def decodeLossyFrom (acc : Text) (bs : Bytes) : Text :=
  match h : front bs with
  | .done => acc.reverse
  | .char c rest =>
    have := front_char_lt h
    decodeLossyFrom (c :: acc) rest
  | .illFormed _ rest =>
    have := front_illFormed_lt h
    decodeLossyFrom (replacement :: acc) rest
  | .truncated => (replacement :: acc).reverse
termination_by bs.length

/-- The text of `bs`, with one U+FFFD for each maximal ill-formed part and for a character cut off at the end. -/
def decodeLossy (bs : Bytes) : Text := decodeLossyFrom [] bs

end Dialogue.Utf8
