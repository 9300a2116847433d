import Dialogue.Proofs.Encoding.Reading

/-!
# A stream in chunks and as a whole

However a byte string is cut into chunks, the decoder makes the same of it, and agrees with what is made of the whole
byte string at once.

* `stripped`, **`feed_stripped`**: leaving control sequences out is done to the text and changes nothing else;
* `feed_utf8`, `feed_utf8Lossy`, `feed_latin1`: what a decoder makes of a whole byte string;
* `Agrees`, **`feed_chunks`**: however the bytes are cut, they come to what they come to as a whole.
-/

namespace Dialogue.Decoder

open Utf8 (Piece Valid Extensible)

/-! ## Control sequences -/

/-- The decoder and the text when control sequences are left out of the text. -/
def stripped (s : Decoder × Text) : Decoder × Text :=
  ({ s.1 with terminal := some (Terminal.ground.text s.2.reverse).1 }, (Terminal.ground.text s.2.reverse).2.reverse)

/-- **Control sequences are left out of the text and nothing else.** -/
theorem feed_stripped {s : Decoder × Text} (hs : s.1.terminal = none) (bs : Bytes) :
    feed (stripped s) bs = (feed s bs).map stripped := by
  obtain ⟨⟨encoding, terminal, undecoded, n, hwaits⟩, acc⟩ := s
  obtain rfl : terminal = none := hs
  have hout := decodeText_out encoding n (undecoded ++ bs) [] acc
  rw [List.nil_append] at hout
  unfold feed decode
  simp only [stripped, hout]
  rcases decodeText encoding n (undecoded ++ bs) [] with e | r
  · rfl
  · -- a terminal that was shown the text goes on with what is added
    simp [Except.map, Decoded.under, after, stripped, Terminal.text_append]

/-! ## Whole byte strings -/

section Plain

variable {e : Encoding} {n : Nat} {acc : Text} {bs : Bytes}

theorem feed_of_decodeText {r : Decoded e} (h : decodeText e n bs acc = .ok r) :
    feed (⟨e, none, [], n, .inl rfl⟩, acc) bs = .ok (⟨e, none, r.left, r.consumed, r.waits⟩, r.text) := by
  change (decodeText e n bs acc).map _ = _
  rw [h]
  rfl

theorem feed_of_decodeText_error {m : Nat} (h : decodeText e n bs acc = .error m) :
    feed (⟨e, none, [], n, .inl rfl⟩, acc) bs = .error m := by
  change (decodeText e n bs acc).map _ = _
  rw [h]
  rfl

end Plain

/-- What a strict reader makes of a byte string: all of it, or an error where an ill-formed part begins. -/
theorem feed_utf8 (bs : Bytes) :
    (∃ s d, feed (start .utf8 false, []) bs = .ok (d, s.reverse) ∧ Utf8.Scans bs (s.map .char) d.undecoded ∧
        bs = Utf8.encode s ++ d.undecoded) ∨
      ∃ s bad k rest, feed (start .utf8 false, []) bs = .error (Utf8.encode s).length ∧ bs = Utf8.encode s ++ bad ∧
        Utf8.front bad = .illFormed k rest := by
  have he : Encoding.utf8 ≠ .latin1 := Encoding.noConfusion
  obtain ⟨pieces, left, hscans⟩ := Utf8.exists_scans bs
  rcases hscans.cases with ⟨s, rfl, rfl⟩ | ⟨s, k, more, bad, rest, -, rfl, hfront⟩
  · rcases hscans.left_cases with rfl | hcut
    · rw [List.append_nil] at hscans ⊢
      have hfeed := feed_of_decodeText (e := .utf8) (decodeUtf8_encode he 0 s [])
      rw [List.append_nil] at hfeed
      exact .inl ⟨s, _, hfeed, hscans, (List.append_nil _).symm⟩
    · have hfeed := feed_of_decodeText (e := .utf8) (decodeUtf8_encode_append_truncated he 0 s [] hcut)
      rw [List.append_nil] at hfeed
      exact .inl ⟨s, _, hfeed, hscans, rfl⟩
  · have hturn := decodeUtf8_encode_append_illFormed he 0 s [] hfront
    rw [if_pos rfl, Nat.zero_add] at hturn
    exact .inr ⟨s, bad, k, rest, feed_of_decodeText_error (e := .utf8) hturn, rfl, hfront⟩

theorem decodeUtf8_lossy_of_scans {bs left : Bytes} {pieces : List Piece} (h : Utf8.Scans bs pieces left)
    (he : Encoding.utf8Lossy ≠ .latin1) (n : Nat) (out : Text) :
    ∃ r, decodeUtf8 .utf8Lossy he n bs out = .ok r ∧ r.text = (pieces.map Piece.shown).reverse ++ out ∧
      r.left = left := by
  induction h generalizing n out with
  | nil => exact ⟨_, decodeUtf8_nil he n out, rfl, rfl⟩
  | truncated hfront => exact ⟨_, decodeUtf8_truncated he n out hfront, rfl, rfl⟩
  | char hfront _ ih =>
    rw [decodeUtf8_char he n out hfront, List.map_cons, List.reverse_cons, List.append_assoc]
    exact ih _ _
  | illFormed hfront _ ih =>
    rw [decodeUtf8_illFormed he n out hfront, if_neg Encoding.noConfusion, List.map_cons, List.reverse_cons,
      List.append_assoc]
    exact ih _ _

theorem feed_utf8Lossy (bs : Bytes) :
    ∃ d pieces, feed (start .utf8Lossy false, []) bs = .ok (d, (pieces.map Piece.shown).reverse) ∧
      Utf8.Scans bs pieces d.undecoded := by
  obtain ⟨pieces, left, hscans⟩ := Utf8.exists_scans bs
  obtain ⟨r, hr, htext, rfl⟩ := decodeUtf8_lossy_of_scans hscans Encoding.noConfusion 0 []
  rw [List.append_nil] at htext
  exact ⟨_, pieces, htext ▸ feed_of_decodeText (e := .utf8Lossy) hr, hscans⟩

theorem feed_latin1 (n : Nat) (acc : Text) (bs : Bytes) :
    feed (⟨.latin1, none, [], n, .inl rfl⟩, acc) bs =
      .ok (⟨.latin1, none, [], n + bs.length, .inl rfl⟩, (Encoding.latin1Text bs).reverse ++ acc) := rfl

/-! ## Chunks -/

/-- A byte string up to place `n` is the byte form of a text, and up to no later place. -/
def Decodable (bs : Bytes) (n : Nat) : Prop :=
  n ≤ bs.length ∧ Valid (bs.take n) ∧ ∀ m ≤ bs.length, Valid (bs.take m) → m ≤ n

/-- What is left over when a stream may go on: nothing, or up to three bytes that begin a character. -/
def Unfinished (left : Bytes) : Prop :=
  left = [] ∨ left.length ≤ 3 ∧ ∃ c more, more ≠ [] ∧ left ++ more = Utf8.encodeChar c

theorem unfinished_of_scans {bs left : Bytes} {pieces : List Piece} (h : Utf8.Scans bs pieces left) :
    Unfinished left := by
  rcases h.left_cases with hnil | hfront
  · exact .inl hnil
  · exact .inr (Utf8.exists_encodeChar_of_truncated hfront)

theorem decodable_of_illFormed {s : Text} {bad rest : Bytes} {k : Nat} (h : Utf8.front bad = .illFormed k rest) :
    Decodable (Utf8.encode s ++ bad) (Utf8.encode s).length := by
  refine ⟨by rw [List.length_append]; exact Nat.le_add_right _ _, ⟨s, (List.take_left' rfl).symm⟩, fun m hm hvalid => ?_⟩
  exact Utf8.le_of_valid_take (fun c r hchar => by rw [hchar] at h; cases h) hm hvalid

/-- An outcome of a stream is what its bytes as a whole come to. It is a failure for strict UTF-8 alone, just when some
beginning of the bytes begins no text, and then it tells the length of the longest beginning that is decodable.
Otherwise what is left undecoded is at the end of the bytes and may begin a character. When nothing is left, the text is
that of the bytes as a whole; what is left is malformed as the end of a byte string. -/
structure Agrees (e : Encoding) (bs : Bytes) (outcome : Except Nat (Decoder × Text)) : Prop where
  fails : (∃ n, outcome = .error n) ↔ e = .utf8 ∧ ∃ part, part <+: bs ∧ ¬ Extensible part
  failure : ∀ n, outcome = .error n → Decodable bs n ∧ e.decode bs = .error (.malformed .utf8 n)
  left : ∀ d acc, outcome = .ok (d, acc) → d.undecoded <:+ bs ∧ Unfinished d.undecoded
  whole : ∀ d acc, outcome = .ok (d, acc) → d.undecoded = [] → e.decode bs = .ok acc.reverse
  cut : ∀ d acc, outcome = .ok (d, acc) → d.undecoded ≠ [] →
    e = .utf8 ∧ e.decode bs = .error (.malformed .utf8 (bs.length - d.undecoded.length)) ∨
      e = .utf8Lossy ∧ e.decode bs = .ok (acc.reverse ++ [Utf8.replacement])

theorem agrees_utf8 (bs : Bytes) : Agrees .utf8 bs (feed (start .utf8 false, []) bs) := by
  rcases feed_utf8 bs with ⟨s, d, hfeed, hscans, hwhole⟩ | ⟨s, bad, k, rest, hfeed, hwhole, hfront⟩
  · have hcut : d.undecoded ≠ [] → ∀ c rest, Utf8.front d.undecoded ≠ .char c rest := by
      intro hne c rest hchar
      rcases hscans.left_cases with hnil | htruncated
      · exact hne hnil
      · rw [hchar] at htruncated
        cases htruncated
    have hextensible : Extensible bs := by
      rw [hwhole, Utf8.extensible_encode_append_iff]
      rcases hscans.left_cases with hnil | htruncated
      · rw [hnil]
        exact Valid.extensible ⟨[], rfl⟩
      · exact Utf8.extensible_of_truncated htruncated
    rw [hfeed]
    constructor
    · refine ⟨fun ⟨n, h⟩ => (by cases h), fun ⟨_, part, hpart, hnot⟩ => ?_⟩
      obtain ⟨more, rfl⟩ := hpart
      exact absurd hextensible.of_append hnot
    · rintro n ⟨⟩
    · rintro d' acc ⟨⟩
      exact ⟨hscans.left_suffix, unfinished_of_scans hscans⟩
    · rintro d' acc ⟨⟩ hnil
      rw [hnil, List.append_nil] at hwhole
      rw [hwhole, List.reverse_reverse, Encoding.decode, Utf8.decode_encode]
      rfl
    · rintro d' acc ⟨⟩ hne
      have hlength : bs.length - d.undecoded.length = (Utf8.encode s).length := by
        rw [hwhole, List.length_append, Nat.add_sub_cancel]
      rw [hlength]
      refine .inl ⟨rfl, ?_⟩
      rw [hwhole, Encoding.decode, Utf8.decode_encode_append s hne (hcut hne)]
      rfl
  · have hnot : ¬ Extensible bs := by
      rw [hwhole, Utf8.extensible_encode_append_iff]
      exact Utf8.not_extensible_of_illFormed hfront
    have hchar : ∀ c r, Utf8.front bad ≠ .char c r := fun c r h => by
      rw [hfront] at h
      cases h
    rw [hfeed]
    constructor
    · exact ⟨fun _ => ⟨rfl, bs, List.prefix_rfl, hnot⟩, fun _ => ⟨_, rfl⟩⟩
    · rintro n ⟨⟩
      refine ⟨hwhole ▸ decodable_of_illFormed hfront, ?_⟩
      rw [hwhole, Encoding.decode, Utf8.decode_encode_append s (Utf8.ne_nil_of_front_illFormed hfront) hchar]
      rfl
    · rintro d acc ⟨⟩
    · rintro d acc ⟨⟩
    · rintro d acc ⟨⟩

theorem agrees_utf8Lossy (bs : Bytes) : Agrees .utf8Lossy bs (feed (start .utf8Lossy false, []) bs) := by
  obtain ⟨d, pieces, hfeed, hscans⟩ := feed_utf8Lossy bs
  rw [hfeed]
  constructor
  · exact ⟨fun ⟨n, h⟩ => (by cases h), fun ⟨h, _⟩ => (by cases h)⟩
  · rintro n ⟨⟩
  · rintro d' acc ⟨⟩
    exact ⟨hscans.left_suffix, unfinished_of_scans hscans⟩
  · rintro d' acc ⟨⟩ hnil
    rw [List.reverse_reverse, Encoding.decode, Utf8.decodeLossy_of_scans hscans, if_pos hnil, List.append_nil]
  · rintro d' acc ⟨⟩ hne
    rw [List.reverse_reverse, Encoding.decode, Utf8.decodeLossy_of_scans hscans, if_neg hne]
    exact .inr ⟨rfl, rfl⟩

theorem agrees_latin1 (bs : Bytes) : Agrees .latin1 bs (feed (start .latin1 false, []) bs) := by
  have hfeed := feed_latin1 0 [] bs
  rw [List.append_nil] at hfeed
  change Agrees _ _ (feed (⟨.latin1, none, [], 0, .inl rfl⟩, []) bs)
  rw [hfeed]
  constructor
  · exact ⟨fun ⟨n, h⟩ => (by cases h), fun ⟨h, _⟩ => (by cases h)⟩
  · rintro n ⟨⟩
  · rintro d acc ⟨⟩
    exact ⟨List.nil_suffix, .inl rfl⟩
  · rintro d acc ⟨⟩ hnil
    rw [List.reverse_reverse]
    rfl
  · rintro d acc ⟨⟩ hne
    exact absurd rfl hne

/-- **It makes no difference how a stream is cut into chunks.** Every way of cutting comes to the same outcome, with
or without control sequences; with them it is what the bytes as a whole come to, and to leave them out changes the
text and nothing else. -/
theorem feed_chunks (e : Encoding) (chunks : List Bytes) :
    (∀ strip (others : List Bytes), others.flatten = chunks.flatten →
      others.foldlM feed (start e strip, []) = chunks.foldlM feed (start e strip, [])) ∧
    Agrees e chunks.flatten (chunks.foldlM feed (start e false, [])) ∧
    chunks.foldlM feed (start e true, []) = (chunks.foldlM feed (start e false, [])).map stripped := by
  refine ⟨fun strip others hothers => ?_, ?_, ?_⟩
  · rw [foldlM_feed, foldlM_feed, hothers]
  · rw [foldlM_feed]
    cases e with
    | utf8 => exact agrees_utf8 _
    | utf8Lossy => exact agrees_utf8Lossy _
    | latin1 => exact agrees_latin1 _
  · rw [foldlM_feed, foldlM_feed]
    exact feed_stripped (s := (start e false, [])) rfl _

/-- A character that the end cuts off is left over wherever the chunks end, and so it is malformed or replaced in the
whole. A byte that does not go on with it is an error at its place, with the text before it decodable. -/
theorem feed_chunks_of_cut_character :
    let go := fun (e : Encoding) (chunks : List Bytes) => chunks.foldlM feed (start e false, [])
    go .utf8 [[0x61], [0xE2, 0x82]] = go .utf8 [[0x61, 0xE2], [0x82]] ∧
    Encoding.utf8.decode [0x61, 0xE2, 0x82] = .error (.malformed .utf8 1) ∧
    Encoding.utf8Lossy.decode [0x61, 0xE2, 0x82] = .ok ['a', Utf8.replacement] ∧
    go .utf8 [[0x61, 0xE2], [0x28]] = .error 1 ∧ Decodable [0x61, 0xE2, 0x28] 1 := by
  intro go
  have hstrict : go .utf8 [[0x61, 0xE2], [0x82]] =
      .ok (⟨.utf8, none, [0xE2, 0x82], 1, .inr ⟨Encoding.noConfusion, rfl⟩⟩, ['a']) := by decide +kernel
  have hlossy : go .utf8Lossy [[0x61, 0xE2], [0x82]] =
      .ok (⟨.utf8Lossy, none, [0xE2, 0x82], 1, .inr ⟨Encoding.noConfusion, rfl⟩⟩, ['a']) := by decide +kernel
  have hfails : go .utf8 [[0x61, 0xE2], [0x28]] = .error 1 := by decide +kernel
  obtain ⟨hsame, hcut, -⟩ := feed_chunks .utf8 [[0x61, 0xE2], [0x82]]
  obtain ⟨-, hreplaced, -⟩ := feed_chunks .utf8Lossy [[0x61, 0xE2], [0x82]]
  obtain ⟨-, hbroken, -⟩ := feed_chunks .utf8 [[0x61, 0xE2], [0x28]]
  refine ⟨hsame false [[0x61], [0xE2, 0x82]] rfl, ?_, ?_, hfails, (hbroken.failure 1 hfails).1⟩
  · rcases hcut.cut _ _ hstrict (List.cons_ne_nil _ _) with ⟨-, h⟩ | ⟨h, -⟩
    · exact h
    · exact Encoding.noConfusion h
  · rcases hreplaced.cut _ _ hlossy (List.cons_ne_nil _ _) with ⟨h, -⟩ | ⟨-, h⟩
    · exact Encoding.noConfusion h
    · exact h

end Dialogue.Decoder
