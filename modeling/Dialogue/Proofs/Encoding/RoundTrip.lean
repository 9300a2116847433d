import Dialogue.Proofs.Encoding.Texts

/-!
# Encoding and decoding undo each other

A byte string that decodes without a replacement is the byte form of its text, and no other text has it.

* `Utf8.encode_of_decode`, `Utf8.decodeLossy_encode`: UTF-8, read strictly and with U+FFFD;
* `Encoding.latin1_encode_eq`: the byte form in ISO-8859-1, or the first character that has none;
* `Encoding.decode_of_encode`, `Encoding.encode_of_decode`: there and back, in both directions;
* **`Encoding.round_trips`**: all of this for all encodings.
-/

namespace Dialogue

namespace Utf8

theorem encode_of_decode {bs : Bytes} {s : Text} (h : decode bs = .ok s) : encode s = bs := by
  obtain ⟨ps, left, hscans⟩ := exists_scans bs
  rcases hscans.cases with ⟨t, -, rfl⟩ | ⟨t, k, more, bad, rest, -, rfl, hbad⟩
  · rcases hscans.left_cases with rfl | hcut
    · rw [List.append_nil, decode_encode] at h
      rw [List.append_nil, Except.ok.inj h]
    · have hne : left ≠ [] := by
        rintro rfl
        cases hcut
      rw [decode_encode_append t hne (by simp [hcut])] at h
      cases h
  · rw [decode_encode_append t (ne_nil_of_front_illFormed hbad) (by simp [hbad])] at h
    cases h

theorem decodeLossy_encode (s : Text) : decodeLossy (encode s) = s := by
  obtain ⟨ps, left, hscans⟩ := exists_scans (encode s)
  obtain ⟨rfl, rfl⟩ := hscans.of_encode
  have hshown : (Piece.shown ∘ Piece.char : Char → Char) = id := rfl
  simp [decodeLossy_of_scans hscans, hshown]

end Utf8

namespace Encoding

/-- A text has its characters' bytes as its form, unless one has none. -/
theorem latin1_encode_eq (s : Text) : latin1.encode s =
    match s.find? fun c => 0xFF < c.toNat with
    | none => .ok (s.map fun c => UInt8.ofNat c.toNat)
    | some c => .error (.unencodable .latin1 c) := by
  change s.mapM latin1Byte = _
  induction s with
  | nil => rfl
  | cons c rest ih =>
    rw [List.mapM_cons, ih, List.find?_cons]
    by_cases hc : c.toNat < 256
    · have hlow : decide (0xFF < c.toNat) = false := by simp; omega
      simp only [latin1Byte, hc, hlow, if_true]
      rcases rest.find? _ with _ | d <;> rfl
    · have hhigh : decide (0xFF < c.toNat) = true := by simp; omega
      simp only [latin1Byte, hc, hhigh, if_false]
      rfl

/-- The first character above U+00FF is named. -/
theorem latin1_encode_eq_error {s : Text} {fault : StreamError} : latin1.encode s = .error fault ↔
    ∃ before c after, s = before ++ c :: after ∧ (∀ d ∈ before, d.toNat ≤ 0xFF) ∧ 0xFF < c.toNat ∧
      fault = .unencodable .latin1 c := by
  rw [latin1_encode_eq]
  constructor
  · intro h
    rcases hfind : s.find? fun c => 0xFF < c.toNat with _ | c <;> rw [hfind] at h
    · cases h
    · obtain ⟨hc, before, after, hs, hbefore⟩ := List.find?_eq_some_iff_append.mp hfind
      exact ⟨before, c, after, hs, by simpa using hbefore, by simpa using hc, (Except.error.inj h).symm⟩
  · rintro ⟨before, c, after, rfl, hbefore, hc, rfl⟩
    have hfind : (before ++ c :: after).find? (fun c => 0xFF < c.toNat) = some c :=
      List.find?_eq_some_iff_append.mpr ⟨by simpa using hc, before, after, rfl, by simpa using hbefore⟩
    rw [hfind]

theorem latin1_encode_fails_iff {s : Text} :
    (∃ fault, latin1.encode s = .error fault) ↔ ∃ c ∈ s, 0xFF < c.toNat := by
  constructor
  · rintro ⟨fault, h⟩
    obtain ⟨before, c, after, rfl, -, hc, -⟩ := latin1_encode_eq_error.mp h
    exact ⟨c, by simp, hc⟩
  · rintro ⟨c, hc, hhigh⟩
    have hsome : (s.find? fun c => 0xFF < c.toNat).isSome := List.find?_isSome.mpr ⟨c, hc, by simpa using hhigh⟩
    obtain ⟨d, hd⟩ := Option.isSome_iff_exists.mp hsome
    rw [latin1_encode_eq, hd]
    exact ⟨_, rfl⟩

theorem latin1_encode_latin1Text (bs : Bytes) : latin1.encode (latin1Text bs) = .ok bs := by
  have hnumber : ∀ b : UInt8, (Char.ofNat b.toNat).toNat = b.toNat := by
    intro b
    have := b.toNat_lt
    exact Utf8.toNat_ofNat (.inl (by omega))
  have hnone : (latin1Text bs).find? (fun c => 0xFF < c.toNat) = none := by
    rw [List.find?_eq_none]
    intro c hc
    obtain ⟨b, -, rfl⟩ := List.mem_map.mp hc
    have := b.toNat_lt
    simp [hnumber]
    omega
  rw [latin1_encode_eq, hnone]
  simp [latin1Text, hnumber, Function.comp_def]

theorem decode_of_encode {e : Encoding} {s : Text} {bs : Bytes} (h : e.encode s = .ok bs) : e.decode bs = .ok s := by
  cases e with
  | utf8 =>
    obtain rfl := Except.ok.inj h
    rw [decode, Utf8.decode_encode]
    rfl
  | utf8Lossy =>
    obtain rfl := Except.ok.inj h
    rw [decode, Utf8.decodeLossy_encode]
  | latin1 => rw [decode, latin1Text_of_encode h]

theorem utf8_decode_of_decode {bs : Bytes} {s : Text} (h : utf8.decode bs = .ok s) : Utf8.decode bs = .ok s := by
  rw [decode] at h
  rcases hs : Utf8.decode bs with n | t <;> rw [hs] at h <;> cases h
  rfl

theorem encode_of_decode {e : Encoding} (he : e ≠ .utf8Lossy) {bs : Bytes} {s : Text} (h : e.decode bs = .ok s) :
    e.encode s = .ok bs := by
  cases e with
  | utf8 => exact congrArg Except.ok (Utf8.encode_of_decode (utf8_decode_of_decode h))
  | utf8Lossy => exact absurd rfl he
  | latin1 =>
    obtain rfl := Except.ok.inj h
    exact latin1_encode_latin1Text bs

theorem encode_of_ne_latin1 {e : Encoding} (he : e ≠ .latin1) (s : Text) : e.encode s = .ok (Utf8.encode s) := by
  cases e with
  | utf8 | utf8Lossy => rfl
  | latin1 => exact absurd rfl he

/-- **Encoding and decoding undo each other.** What a text is encoded to decodes to that text. Encoding fails in
ISO-8859-1 alone, just when the text has a character above U+00FF, of which it names the first. What decodes strictly,
or in ISO-8859-1, is the byte form of the text that it decodes to. Decoding fails for strict UTF-8 alone; with U+FFFD it
agrees with strict decoding where that succeeds, and what it gives, encoded and decoded again in UTF-8, strictly or not,
is the same text. -/
theorem round_trips :
    (∀ (e : Encoding) (s : Text) (bs : Bytes), e.encode s = .ok bs → e.decode bs = .ok s) ∧
    (∀ (e : Encoding) (s : Text), e ≠ .latin1 → ∃ bs, e.encode s = .ok bs) ∧
    (∀ (s : Text) (fault : StreamError), latin1.encode s = .error fault ↔
      ∃ before c after, s = before ++ c :: after ∧ (∀ d ∈ before, d.toNat ≤ 0xFF) ∧ 0xFF < c.toNat ∧
        fault = .unencodable .latin1 c) ∧
    (∀ s : Text, (∃ fault, latin1.encode s = .error fault) ↔ ∃ c ∈ s, 0xFF < c.toNat) ∧
    (∀ (e : Encoding) (bs : Bytes) (s : Text), e ≠ .utf8Lossy → e.decode bs = .ok s → e.encode s = .ok bs) ∧
    (∀ (e : Encoding) (bs : Bytes), e ≠ .utf8 → ∃ s, e.decode bs = .ok s) ∧
    (∀ (bs : Bytes) (s : Text), utf8Lossy.decode bs = .ok s →
      (∀ t, utf8.decode bs = .ok t → t = s) ∧
      ∀ e e' : Encoding, e ≠ .latin1 → e' ≠ .latin1 → ∃ again, e.encode s = .ok again ∧ e'.decode again = .ok s) := by
  refine ⟨fun e s bs h => decode_of_encode h, fun e s he => ⟨_, encode_of_ne_latin1 he s⟩,
    fun s fault => latin1_encode_eq_error, fun s => latin1_encode_fails_iff,
    fun e bs s he h => encode_of_decode he h, ?_, ?_⟩
  · intro e bs he
    cases e with
    | utf8 => exact absurd rfl he
    | utf8Lossy => exact ⟨_, rfl⟩
    | latin1 => exact ⟨_, rfl⟩
  · intro bs s hs
    refine ⟨?_, ?_⟩
    · intro t ht
      have hbs := Utf8.encode_of_decode (utf8_decode_of_decode ht)
      rw [← hbs, decode, Utf8.decodeLossy_encode] at hs
      exact Except.ok.inj hs
    · intro e e' he he'
      exact ⟨_, encode_of_ne_latin1 he s, decode_of_encode (encode_of_ne_latin1 he' s)⟩

end Encoding

end Dialogue
