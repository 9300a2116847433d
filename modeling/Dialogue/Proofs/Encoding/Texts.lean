import Dialogue.Encoding.Whole
import Dialogue.Proofs.Encoding.Chunks

/-!
# Texts in a stream

A decoder that keeps control sequences reads a text off its byte form, wherever that stands in the stream. And bytes
that take it from any place to one between two characters bring new text.

* `Utf8.Scans.of_encode`: the pieces of the byte form of a text;
* `Encoding.latin1Text_of_encode`;
* **`Decoder.read_encode`**: the byte form of a text is read as that text;
* `Decoder.read_append_eq_ok`, `Decoder.terminal_of_read`, **`Decoder.ne_nil_of_read`**: what is read up to the end of
  a character.
-/

namespace Dialogue

namespace Utf8

theorem Scans.of_encode {s : Text} {ps : List Piece} {left : Bytes} (h : Scans (encode s) ps left) :
    ps = s.map .char ∧ left = [] := by
  induction s generalizing ps with
  | nil =>
    generalize hbs : encode [] = bs at h
    cases h with
    | nil => exact ⟨rfl, rfl⟩
    | truncated hfront => exact ⟨rfl, hbs.symm⟩
    | char hfront => rw [← hbs] at hfront; cases hfront
    | illFormed hfront => rw [← hbs] at hfront; cases hfront
  | cons c s ih =>
    have hc : front (encode (c :: s)) = .char c (encode s) := by rw [encode_cons, front_encodeChar_append]
    generalize hbs : encode (c :: s) = bs at h hc
    cases h with
    | nil => cases hc
    | truncated hfront => rw [hfront] at hc; cases hc
    | illFormed hfront => rw [hfront] at hc; cases hc
    | char hfront hmore =>
      rw [hfront] at hc
      cases hc
      obtain ⟨rfl, rfl⟩ := ih hmore
      exact ⟨rfl, rfl⟩

end Utf8

theorem Encoding.latin1Text_of_encode {s : Text} {bs : Bytes} (h : Encoding.latin1.encode s = .ok bs) :
    latin1Text bs = s := by
  induction s generalizing bs with
  | nil =>
    obtain rfl : bs = [] := (Except.ok.inj h).symm
    rfl
  | cons c s ih =>
    change (c :: s).mapM latin1Byte = .ok bs at h
    rw [List.mapM_cons, latin1Byte] at h
    split_ifs at h with hc
    · rcases hs : s.mapM latin1Byte with e | rest <;> rw [hs] at h <;> cases h
      change Char.ofNat (UInt8.ofNat c.toNat).toNat :: latin1Text rest = c :: s
      rw [Utf8.toNat_byte hc, Char.ofNat_toNat, ih hs]
    · cases h

namespace Decoder

variable {d d' : Decoder} {e : Encoding} {bs : Bytes} {new : Text}

/-- **The byte form of a text is read as that text**, from one place between two characters to another. -/
theorem read_encode {s : Text} (h : e.encode s = .ok bs) (n : Nat) :
    ∃ m, (⟨e, none, [], n, .inl rfl⟩ : Decoder).read bs = .ok (⟨e, none, [], m, .inl rfl⟩, s) := by
  have htext : ∃ m, decodeText e n bs [] = .ok ⟨s.reverse, [], m, .inl rfl⟩ := by
    cases e with
    | utf8 | utf8Lossy =>
      obtain rfl := Except.ok.inj h
      rw [← List.append_nil s.reverse]
      exact ⟨_, decodeUtf8_encode _ n s []⟩
    | latin1 =>
      rw [← List.append_nil s.reverse, ← Encoding.latin1Text_of_encode h]
      exact ⟨_, rfl⟩
  obtain ⟨m, hm⟩ := htext
  rw [read, feed_of_decodeText hm]
  exact ⟨m, congrArg (fun t => Except.ok (_, t)) s.reverse_reverse⟩

theorem read_append_eq_ok {as : Bytes} {text : Text} (h : d.read (as ++ bs) = .ok (d', text)) :
    ∃ d₁ part more, d.read as = .ok (d₁, part) ∧ d₁.read bs = .ok (d', more) ∧ text = part ++ more := by
  rw [read_append] at h
  rcases has : d.read as with n | ⟨d₁, part⟩ <;> rw [has] at h
  · cases h
  · change (d₁.read bs).map _ = _ at h
    rcases hbs : d₁.read bs with n | ⟨d₂, more⟩ <;> rw [hbs] at h <;> cases h
    exact ⟨d₁, part, more, rfl, hbs, rfl⟩

theorem decodeText_of_read (hd : d.terminal = none) (h : d.read bs = .ok (d', new)) :
    ∃ r, decodeText d.encoding d.consumed (d.undecoded ++ bs) [] = .ok r ∧ d' = d.after r ∧ new = r.text.reverse := by
  unfold read feed decode at h
  simp only [hd] at h
  rcases htext : decodeText d.encoding d.consumed (d.undecoded ++ bs) [] with n | r <;> rw [htext] at h <;> cases h
  exact ⟨r, rfl, rfl, rfl⟩

theorem terminal_of_read (hd : d.terminal = none) (h : d.read bs = .ok (d', new)) : d'.terminal = none := by
  obtain ⟨r, -, rfl, -⟩ := decodeText_of_read hd h
  exact hd

theorem text_ne_nil_of_decodeText {n : Nat} {r : Decoded e} (hbs : bs ≠ []) (h : decodeText e n bs [] = .ok r)
    (hleft : r.left = []) : r.text ≠ [] := by
  have hutf8 : ∀ he : e ≠ .latin1, decodeUtf8 e he n bs [] = .ok r → r.text ≠ [] := by
    intro he h
    have hadded : ∀ m rest c, decodeUtf8 e he m rest ([] ++ [c]) = .ok r → r.text ≠ [] := by
      intro m rest c hmore
      rw [decodeUtf8_out] at hmore
      rcases hnew : decodeUtf8 e he m rest [] with k | q <;> rw [hnew] at hmore <;> cases hmore
      exact List.append_ne_nil_of_right_ne_nil _ (List.cons_ne_nil _ _)
    obtain ⟨pieces, left, hscans⟩ := Utf8.exists_scans bs
    cases hscans with
    | nil => exact absurd rfl hbs
    | truncated hfront =>
      rw [decodeUtf8_truncated he n [] hfront] at h
      obtain rfl := Except.ok.inj h
      exact absurd hleft hbs
    | char hfront _ =>
      rw [decodeUtf8_char he n [] hfront] at h
      exact hadded _ _ _ h
    | illFormed hfront _ =>
      rw [decodeUtf8_illFormed he n [] hfront] at h
      split_ifs at h
      exact hadded _ _ _ h
  cases e with
  | utf8 | utf8Lossy => exact hutf8 Encoding.noConfusion h
  | latin1 =>
    obtain rfl := Except.ok.inj h
    simpa [Encoding.latin1Text] using hbs

/-- **What is read up to the end of a character is not empty.** -/
theorem ne_nil_of_read (hd : d.terminal = none) (hbs : bs ≠ []) (h : d.read bs = .ok (d', new))
    (hd' : d'.undecoded = []) : new ≠ [] := by
  obtain ⟨r, htext, rfl, rfl⟩ := decodeText_of_read hd h
  have hinput : d.undecoded ++ bs ≠ [] := List.append_ne_nil_of_right_ne_nil _ hbs
  exact List.reverse_ne_nil_iff.mpr (text_ne_nil_of_decodeText hinput htext hd')

end Decoder

end Dialogue
