import Dialogue.Encoding.Whole
import Dialogue.Text.Terminal

/-!
# Decoding a stream

A stream is decoded chunk by chunk. The bytes of a character that has not ended yet stay in the input, and a chunk is
read together with what was left there. When control sequences are to be left out, the text of a chunk is shown to a
terminal, which keeps its place in a sequence from one chunk to the next.

* `Encoding.Waits`: what may be left in the input;
* `decodeUtf8`, `decodeText`: the text at the front of the input, and what is left of it;
* `Decoder`, `Decoder.start`: the decoder and its first state;
* `Decoder.decode`: the text of an input;
* `Decoder.feed`: the text of one more chunk.
-/

namespace Dialogue

/-- What stays in the input is nothing, or a character that is cut off by its end. -/
def Encoding.Waits (e : Encoding) (left : Bytes) : Prop := left = [] ∨ e ≠ .latin1 ∧ Utf8.front left = .truncated

/-- What decoding an input comes to: the text, its last character first, what is left of the input, and the number of
bytes done with since the beginning of the stream. -/
structure Decoded (e : Encoding) where
  text : Text
  left : Bytes
  consumed : Nat
  waits : e.Waits left

theorem length_drop_fault_lt {input : Bytes} {fault : Utf8.Fault} {k : Nat}
    (h : Utf8.validate input = .error fault) (hk : fault.invalid = some k) :
    (input.drop (fault.valid + k)).length < input.length := by
  obtain ⟨rest, hfront⟩ := (Utf8.front_of_validate h).2 k hk
  have hpos := (Utf8.rest_of_front_illFormed hfront).1
  have hlength := List.length_pos_iff.mpr (Utf8.ne_nil_of_front_illFormed hfront)
  rw [List.length_drop] at hlength ⊢
  omega

/-- Adds the text of an input in UTF-8 to `out`, whose last character stands first. Strict reading fails at an
ill-formed part with the number of bytes in front of it. -/
def decodeUtf8 (e : Encoding) (he : e ≠ .latin1) (consumed : Nat) (input : Bytes) (out : Text) :
    Except Nat (Decoded e) :=
  match h : Utf8.validate input with
  | .ok text => .ok ⟨text.reverse ++ out, [], consumed + input.length, .inl rfl⟩
  | .error fault =>
    match Utf8.validate (input.take fault.valid) with
    | .error inner => .error (consumed + inner.valid)
    | .ok text =>
      match hk : fault.invalid with
      | none =>
        .ok ⟨text.reverse ++ out, input.drop fault.valid, consumed + fault.valid,
          .inr ⟨he, (Utf8.front_of_validate h).1 hk⟩⟩
      | some k =>
        if e = .utf8 then .error (consumed + fault.valid)
        else
          decodeUtf8 e he (consumed + (fault.valid + k)) (input.drop (fault.valid + k))
            (Utf8.replacement :: (text.reverse ++ out))
termination_by input.length
decreasing_by exact length_drop_fault_lt h hk

/-- Adds the text of an input to `out`, whose last character stands first. -/
def decodeText (e : Encoding) (consumed : Nat) (input : Bytes) (out : Text) : Except Nat (Decoded e) :=
  match e with
  | .latin1 => .ok ⟨(Encoding.latin1Text input).reverse ++ out, [], consumed + input.length, .inl rfl⟩
  | .utf8 => decodeUtf8 .utf8 Encoding.noConfusion consumed input out
  | .utf8Lossy => decodeUtf8 .utf8Lossy Encoding.noConfusion consumed input out

/-- A decoder in the middle of a stream: the terminal that control sequences are shown to when they are to be left
out, what was left in the input, and the number of bytes done with. -/
structure Decoder where
  encoding : Encoding
  terminal : Option Terminal
  undecoded : Bytes
  consumed : Nat
  waits : encoding.Waits undecoded
  deriving DecidableEq, Repr

namespace Decoder

/-- A decoder at the beginning of a stream; `strip` leaves control sequences out of the text. -/
def start (encoding : Encoding) (strip : Bool) : Decoder :=
  ⟨encoding, if strip then some .ground else none, [], 0, .inl rfl⟩

/-- The decoder when an input was decoded. -/
def after (d : Decoder) (r : Decoded d.encoding) : Decoder :=
  { d with undecoded := r.left, consumed := r.consumed, waits := r.waits }

/-- Adds the text of an input to `out`, whose last character stands first. A terminal is shown the text apart from
what is in `out` already. -/
def decode (d : Decoder) (input : Bytes) (out : Text) : Except Nat (Decoder × Text) :=
  match d.terminal with
  | none => (decodeText d.encoding d.consumed input out).map fun r => (d.after r, r.text)
  | some t =>
    (decodeText d.encoding d.consumed input []).map fun r =>
      let shown := t.text r.text.reverse
      ({ d.after r with terminal := some shown.1 }, shown.2.reverse ++ out)

/-- One more chunk of the stream: it is put after what was left in the input, and what can be decoded is added to the
text, whose last character stands first. -/
def feed (s : Decoder × Text) (chunk : Bytes) : Except Nat (Decoder × Text) :=
  s.1.decode (s.1.undecoded ++ chunk) s.2

end Decoder

end Dialogue
