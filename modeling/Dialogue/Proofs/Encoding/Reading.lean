import Dialogue.Encoding.Incremental
import Dialogue.Proofs.Encoding.Pieces

/-!
# Reading a stream part by part

The decoding loop takes an input as far as it is the byte form of a text, goes past an ill-formed part and starts
again, and leaves a character that is cut off. Read piece by piece it does not matter where an input ends, as long as
what it left comes before the next one. What it adds does not depend on the text that is there, so a stream may be read
part by part.

* `decodeUtf8_encode_append_illFormed`, `decodeUtf8_encode_append_truncated`: one turn of the loop;
* `decodeUtf8_char`, `decodeUtf8_illFormed`: the loop, one piece at a time;
* **`decodeUtf8_append`**, `decodeText_append`: an input may be cut anywhere;
* `decodeText_out`: what is added to a text;
* **`Decoder.feed_append`**, `foldlM_feed`: chunks may be cut anywhere;
* `Decoder.read`, **`read_append`**: the text that a run of bytes adds, and that of two runs.
-/

namespace Dialogue

open Utf8 (encode encodeChar front)

/-! ## One turn of the loop -/

section Loop

variable {e : Encoding} (he : e ≠ .latin1) (n : Nat) (s out : Text) {bs rest : Bytes} {k : Nat} {c : Char}

theorem decodeUtf8_encode :
    decodeUtf8 e he n (encode s) out = .ok ⟨s.reverse ++ out, [], n + (encode s).length, .inl rfl⟩ := by
  have hvalid := Utf8.validate_encode s
  rw [decodeUtf8]
  split
  · next h =>
    rw [hvalid] at h
    cases h
    rfl
  · next h =>
    rw [hvalid] at h
    cases h

theorem decodeUtf8_encode_append_truncated (h : front bs = .truncated) :
    decodeUtf8 e he n (encode s ++ bs) out =
      .ok ⟨s.reverse ++ out, bs, n + (encode s).length, .inr ⟨he, h⟩⟩ := by
  have hfault := Utf8.validate_encode_append_truncated s h
  have htake : Utf8.validate ((encode s ++ bs).take (encode s).length) = .ok s := by
    rw [List.take_left, Utf8.validate_encode]
  rw [decodeUtf8]
  split
  · next hok =>
    rw [hfault] at hok
    cases hok
  · next fault herror =>
    obtain rfl := Except.error.inj (hfault.symm.trans herror)
    simp only [htake, List.drop_left]

theorem decodeUtf8_encode_append_illFormed (h : front bs = .illFormed k rest) :
    decodeUtf8 e he n (encode s ++ bs) out =
      if e = .utf8 then .error (n + (encode s).length)
      else decodeUtf8 e he (n + ((encode s).length + k)) rest (Utf8.replacement :: (s.reverse ++ out)) := by
  have hfault := Utf8.validate_encode_append_illFormed s h
  have htake : Utf8.validate ((encode s ++ bs).take (encode s).length) = .ok s := by
    rw [List.take_left, Utf8.validate_encode]
  have hdrop : (encode s ++ bs).drop ((encode s).length + k) = rest := by
    rw [List.drop_length_add_append, (Utf8.rest_of_front_illFormed h).2]
  rw [decodeUtf8]
  split
  · next hok =>
    rw [hfault] at hok
    cases hok
  · next fault herror =>
    obtain rfl := Except.error.inj (hfault.symm.trans herror)
    simp only [htake, hdrop]

/-! ## The loop, one piece at a time -/

theorem decodeUtf8_nil : decodeUtf8 e he n [] out = .ok ⟨out, [], n, .inl rfl⟩ := decodeUtf8_encode he n [] out

theorem decodeUtf8_truncated (h : front bs = .truncated) :
    decodeUtf8 e he n bs out = .ok ⟨out, bs, n, .inr ⟨he, h⟩⟩ :=
  decodeUtf8_encode_append_truncated he n [] out h

theorem decodeUtf8_illFormed (h : front bs = .illFormed k rest) : decodeUtf8 e he n bs out =
    if e = .utf8 then .error n else decodeUtf8 e he (n + k) rest (Utf8.replacement :: out) := by
  have hturn := decodeUtf8_encode_append_illFormed he n [] out h
  rwa [Utf8.encode_nil, List.length_nil, Nat.zero_add, List.nil_append] at hturn

theorem decodeUtf8_char (h : front bs = .char c rest) :
    decodeUtf8 e he n bs out = decodeUtf8 e he (n + (encodeChar c).length) rest (c :: out) := by
  rw [Utf8.eq_of_front_char h]
  obtain ⟨pieces, left, hscans⟩ := Utf8.exists_scans rest
  -- the turn that takes the character goes as far as the one that begins after it
  have hlength : ∀ s : Text, n + (encode (c :: s)).length = n + (encodeChar c).length + (encode s).length := by
    intro s
    rw [Utf8.encode_cons, List.length_append, Nat.add_assoc]
  rcases hscans.cases with ⟨s, -, rfl⟩ | ⟨s, k, more, bad, rest, -, rfl, hbad⟩
  · rw [← List.append_assoc, ← Utf8.encode_cons]
    rcases hscans.left_cases with rfl | hcut
    · rw [List.append_nil, List.append_nil, decodeUtf8_encode, decodeUtf8_encode, ← hlength]
      simp
    · rw [decodeUtf8_encode_append_truncated he n _ out hcut, decodeUtf8_encode_append_truncated he _ _ _ hcut,
        ← hlength]
      simp
  · rw [← List.append_assoc, ← Utf8.encode_cons, decodeUtf8_encode_append_illFormed he n _ out hbad,
      decodeUtf8_encode_append_illFormed he _ _ _ hbad, ← hlength, ← Nat.add_assoc, ← Nat.add_assoc, ← hlength]
    simp

end Loop

/-! ## Where an input ends -/

/-- **An input may be cut anywhere**, if what is left of its first part comes before the second one. -/
theorem decodeUtf8_append {e : Encoding} (he : e ≠ .latin1) (n : Nat) (as bs : Bytes) (out : Text) :
    decodeUtf8 e he n (as ++ bs) out =
      decodeUtf8 e he n as out >>= fun r => decodeUtf8 e he r.consumed (r.left ++ bs) r.text := by
  obtain ⟨pieces, left, hscans⟩ := Utf8.exists_scans as
  induction hscans generalizing n out with
  | nil =>
    rw [decodeUtf8_nil]
    rfl
  | truncated hfront =>
    rw [decodeUtf8_truncated he n out hfront]
    rfl
  | char hfront _ ih =>
    rw [decodeUtf8_char he n out (Utf8.front_append_of_char hfront bs), decodeUtf8_char he n out hfront]
    exact ih _ _
  | illFormed hfront _ ih =>
    rw [decodeUtf8_illFormed he n out (Utf8.front_append_of_illFormed hfront bs), decodeUtf8_illFormed he n out hfront]
    split_ifs
    · rfl
    · exact ih _ _

theorem decodeText_append (e : Encoding) (n : Nat) (as bs : Bytes) (out : Text) :
    decodeText e n (as ++ bs) out =
      decodeText e n as out >>= fun r => decodeText e r.consumed (r.left ++ bs) r.text := by
  cases e with
  | utf8 => exact decodeUtf8_append _ n as bs out
  | utf8Lossy => exact decodeUtf8_append _ n as bs out
  | latin1 =>
    change Except.ok (Decoded.mk ..) = Except.ok (Decoded.mk ..)
    simp [Encoding.latin1Text, Nat.add_assoc]

theorem decodeText_left {e : Encoding} (n : Nat) {left : Bytes} (h : e.Waits left) (out : Text) :
    decodeText e n left out = .ok ⟨out, left, n, h⟩ := by
  rcases h with rfl | ⟨he, hfront⟩
  · cases e with
    | utf8 => exact decodeUtf8_nil _ n out
    | utf8Lossy => exact decodeUtf8_nil _ n out
    | latin1 => rfl
  · cases e with
    | utf8 => exact decodeUtf8_truncated _ n out hfront
    | utf8Lossy => exact decodeUtf8_truncated _ n out hfront
    | latin1 => exact absurd rfl he

/-! ## What is added to a text -/

/-- Puts the characters of a text, the last one first, under those that were added. -/
def Decoded.under {e : Encoding} (acc : Text) (r : Decoded e) : Decoded e := { r with text := r.text ++ acc }

theorem decodeUtf8_out {e : Encoding} (he : e ≠ .latin1) (n : Nat) (bs : Bytes) (out acc : Text) :
    decodeUtf8 e he n bs (out ++ acc) = (decodeUtf8 e he n bs out).map (Decoded.under acc) := by
  obtain ⟨pieces, left, hscans⟩ := Utf8.exists_scans bs
  induction hscans generalizing n out with
  | nil =>
    rw [decodeUtf8_nil, decodeUtf8_nil]
    rfl
  | truncated hfront =>
    rw [decodeUtf8_truncated he n _ hfront, decodeUtf8_truncated he n _ hfront]
    rfl
  | @char bs rest left c pieces hfront _ ih =>
    rw [decodeUtf8_char he n _ hfront, decodeUtf8_char he n _ hfront]
    exact ih _ (c :: out)
  | illFormed hfront _ ih =>
    rw [decodeUtf8_illFormed he n _ hfront, decodeUtf8_illFormed he n _ hfront]
    split_ifs
    · rfl
    · exact ih _ (Utf8.replacement :: out)

theorem decodeText_out (e : Encoding) (n : Nat) (bs : Bytes) (out acc : Text) :
    decodeText e n bs (out ++ acc) = (decodeText e n bs out).map (Decoded.under acc) := by
  cases e with
  | utf8 => exact decodeUtf8_out _ n bs out acc
  | utf8Lossy => exact decodeUtf8_out _ n bs out acc
  | latin1 =>
    change Except.ok (Decoded.mk ..) = Except.ok (Decoded.mk ..)
    rw [List.append_assoc]

namespace Decoder

/-! ## Chunks -/

/-- The decoder after a run of bytes, and the text that they add. -/
def read (d : Decoder) (bs : Bytes) : Except Nat (Decoder × Text) := (feed (d, []) bs).map (.map id List.reverse)

theorem feed_eq_read (d : Decoder) (acc : Text) (bs : Bytes) :
    feed (d, acc) bs = (d.read bs).map fun r => (r.1, r.2.reverse ++ acc) := by
  unfold read feed decode
  simp only
  rcases d.terminal with _ | t
  · have hout := decodeText_out d.encoding d.consumed (d.undecoded ++ bs) [] acc
    rw [List.nil_append] at hout
    simp only [hout]
    rcases decodeText d.encoding d.consumed (d.undecoded ++ bs) [] with n | r
    · rfl
    · exact congrArg (fun u => Except.ok (d.after r, u ++ acc)) r.text.reverse_reverse.symm
  · simp only
    rcases decodeText d.encoding d.consumed (d.undecoded ++ bs) [] with n | r
    · rfl
    · simp [Except.map]

theorem encoding_of_feed {s s' : Decoder × Text} {bs : Bytes} (h : feed s bs = .ok s') :
    s'.1.encoding = s.1.encoding := by
  obtain ⟨⟨encoding, terminal, undecoded, n, hwaits⟩, acc⟩ := s
  unfold feed decode at h
  cases terminal with
  | none =>
    simp only at h
    rcases hr : decodeText encoding n (undecoded ++ bs) acc with e | r <;> rw [hr] at h <;> cases h
    rfl
  | some t =>
    simp only at h
    rcases hr : decodeText encoding n (undecoded ++ bs) [] with e | r <;> rw [hr] at h <;> cases h
    rfl

theorem feed_nil (s : Decoder × Text) : feed s [] = .ok s := by
  obtain ⟨⟨encoding, terminal, undecoded, n, hwaits⟩, acc⟩ := s
  unfold feed decode
  simp only [List.append_nil, decodeText_left n hwaits]
  cases terminal with
  | none => rfl
  | some t => rfl

/-- **It makes no difference where a chunk is cut.** -/
theorem feed_append (s : Decoder × Text) (as bs : Bytes) :
    feed s (as ++ bs) = feed s as >>= fun t => feed t bs := by
  obtain ⟨⟨encoding, terminal, undecoded, n, hwaits⟩, acc⟩ := s
  unfold feed decode
  cases terminal with
  | none =>
    simp only [← List.append_assoc]
    rw [decodeText_append]
    rcases decodeText encoding n (undecoded ++ as) acc with e | r
    · rfl
    · rfl
  | some t =>
    simp only [← List.append_assoc]
    rw [decodeText_append]
    rcases decodeText encoding n (undecoded ++ as) [] with e | r
    · rfl
    · -- the terminal is shown the first text and then the rest
      change (decodeText encoding r.consumed (r.left ++ bs) r.text).map _ =
        (decodeText encoding r.consumed (r.left ++ bs) []).map _
      have hout := decodeText_out encoding r.consumed (r.left ++ bs) [] r.text
      rw [List.nil_append] at hout
      rw [hout]
      rcases decodeText encoding r.consumed (r.left ++ bs) [] with e | q
      · rfl
      · simp [Except.map, Decoded.under, Decoder.after, Terminal.text_append]

theorem foldlM_feed (s : Decoder × Text) (chunks : List Bytes) : chunks.foldlM feed s = feed s chunks.flatten := by
  induction chunks generalizing s with
  | nil => exact (feed_nil s).symm
  | cons bs chunks ih =>
    rw [List.foldlM_cons, List.flatten_cons, feed_append]
    exact congrArg _ (funext ih)

/-! ## Reading in parts -/

theorem read_nil (d : Decoder) : d.read [] = .ok (d, []) := by
  rw [read, feed_nil]
  rfl

/-- **A stream may be read in parts.** -/
theorem read_append (d : Decoder) (as bs : Bytes) :
    d.read (as ++ bs) = d.read as >>= fun r => (r.1.read bs).map fun q => (q.1, r.2 ++ q.2) := by
  unfold read
  rw [feed_append]
  rcases feed (d, []) as with e | ⟨d', new⟩
  · rfl
  · change (feed (d', new) bs).map _ = (d'.read bs).map _
    rw [feed_eq_read]
    rcases d'.read bs with e | ⟨d'', more⟩
    · rfl
    · exact congrArg (fun t => Except.ok (d'', t)) (by rw [List.reverse_append, List.reverse_reverse]; rfl)

end Decoder

end Dialogue
