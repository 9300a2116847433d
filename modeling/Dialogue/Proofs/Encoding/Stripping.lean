import Dialogue.Proofs.Encoding.Texts
import Dialogue.Proofs.Text.Terminal

/-!
# A stream without control sequences

A decoder that leaves control sequences out gives the text that a terminal prints, however the stream is cut.

* `foldlM_feed_stripped`, `strip_encode`: its text in terms of the text with control sequences;
* **`strip_interspersed`**: sequences put into a text of plain characters leave no trace;
* **`strip_plain`**: its text has plain characters only, and to leave control sequences out of it changes nothing.
-/

namespace Dialogue.Decoder

open Terminal (Plain Interspersed)

theorem foldlM_feed_stripped (e : Encoding) (chunks : List Bytes) :
    chunks.foldlM feed (start e true, []) = (chunks.foldlM feed (start e false, [])).map stripped := by
  rw [foldlM_feed, foldlM_feed]
  exact feed_stripped (s := (start e false, [])) rfl _

/-- The byte form of a text, cut anywhere, gives what a terminal prints of the text. -/
theorem strip_encode {e : Encoding} {u : Text} {chunks : List Bytes} (h : e.encode u = .ok chunks.flatten) :
    ∃ d, chunks.foldlM feed (start e true, []) = .ok (d, (Terminal.ground.text u).2.reverse) ∧ d.undecoded = [] ∧
      d.terminal = some (Terminal.ground.text u).1 := by
  obtain ⟨m, hread⟩ := read_encode h 0
  have hfeed : chunks.foldlM feed (start e false, []) = .ok (⟨e, none, [], m, .inl rfl⟩, u.reverse) := by
    rw [foldlM_feed, feed_eq_read]
    change (read ⟨e, none, [], 0, .inl rfl⟩ chunks.flatten).map _ = _
    rw [hread]
    exact congrArg (fun t => Except.ok (_, t)) (List.append_nil _)
  rw [foldlM_feed_stripped, hfeed]
  change ∃ d, Except.ok (stripped (⟨e, none, [], m, .inl rfl⟩, u.reverse)) = _ ∧ _
  unfold stripped
  rw [List.reverse_reverse]
  exact ⟨_, rfl, rfl, rfl⟩

/-- **Control sequences leave no trace.** Put complete sequences into a text without control characters but tab, line
feed and carriage return, anywhere, any number of them. From the byte form of the outcome in any encoding, cut in any
places, a decoder that leaves control sequences out gives the text as it was, and nothing is left undecoded. -/
theorem strip_interspersed {e : Encoding} {s u : Text} {bs : Bytes} (hs : ∀ c ∈ s, Plain c) (hu : Interspersed s u)
    (hbs : e.encode u = .ok bs) (chunks : List Bytes) (hchunks : chunks.flatten = bs) :
    ∃ d, chunks.foldlM feed (start e true, []) = .ok (d, s.reverse) ∧ d.undecoded = [] ∧ d.terminal = some .ground := by
  subst hchunks
  have hprinted := strip_encode hbs
  rwa [Terminal.text_of_interspersed hs hu] at hprinted

/-- A colour is set and a title is given; the chunks meet inside a sequence and inside the character of the title. -/
theorem strip_interspersed_of_cut_sequence :
    let s : Text := ['€', '\r', '\n']
    let u : Text := ['\x1B', '[', '3', '2', 'm'] ++ '€' :: (['\x1B', ']', '2', ';', 'é', '\n', '\x1B', '\\'] ++ ['\r', '\n'])
    let chunks : List Bytes := [[0x1B, 0x5B, 0x33], [0x32, 0x6D, 0xE2, 0x82], [0xAC, 0x1B, 0x5D, 0x32, 0x3B, 0xC3],
      [0xA9, 0x0A, 0x1B], [0x5C, 0x0D, 0x0A]]
    Interspersed s u ∧ Encoding.utf8.encode u = .ok chunks.flatten ∧
      ∃ d, chunks.foldlM feed (start .utf8 true, []) = .ok (d, s.reverse) ∧ d.undecoded = [] ∧
        d.terminal = some .ground := by
  intro s u chunks
  have hcolour : Terminal.ControlSequence ['\x1B', '[', '3', '2', 'm'] :=
    @Terminal.ControlSequence.control ['3', '2'] 'm' (by simp) (by decide) (by decide)
  have htitle : Terminal.ControlSequence ['\x1B', ']', '2', ';', 'é', '\n', '\x1B', '\\'] :=
    @Terminal.ControlSequence.command ['2', ';', 'é', '\n'] _ (by simp) (.inr rfl)
  have hu : Interspersed s u := .sequence hcolour (.char _ (.sequence htitle (.char _ (.char _ .nil))))
  have hbs : Encoding.utf8.encode u = .ok chunks.flatten := by decide +kernel
  have hs : ∀ c ∈ s, Plain c := by simp [s, Plain]
  exact ⟨hu, hbs, strip_interspersed hs hu hbs chunks rfl⟩

/-- **What is left has no controls, and nothing more to leave out.** Take any bytes that decode without an error, in any
encoding and in any chunks. Without control sequences they decode, too; the text has no control character but tab, line
feed and carriage return; and its UTF-8 form, in any chunks, gives the same text again without control sequences. -/
theorem strip_plain {e : Encoding} {chunks : List Bytes} {d : Decoder} {acc : Text}
    (h : chunks.foldlM feed (start e false, []) = .ok (d, acc)) :
    ∃ d' text, chunks.foldlM feed (start e true, []) = .ok (d', text.reverse) ∧ (∀ c ∈ text, Plain c) ∧
      ∀ again : List Bytes, again.flatten = Utf8.encode text →
        ∃ d'', again.foldlM feed (start .utf8 true, []) = .ok (d'', text.reverse) := by
  have hplain : ∀ c ∈ (Terminal.ground.text acc.reverse).2, Plain c := fun c hc => Terminal.plain_of_mem_text hc
  have hstrip : chunks.foldlM feed (start e true, []) =
      .ok ((stripped (d, acc)).1, (Terminal.ground.text acc.reverse).2.reverse) := by
    rw [foldlM_feed_stripped, h]
    rfl
  refine ⟨_, _, hstrip, hplain, ?_⟩
  intro again hagain
  have hencode : Encoding.utf8.encode (Terminal.ground.text acc.reverse).2 = .ok again.flatten :=
    congrArg Except.ok hagain.symm
  obtain ⟨d'', hfeed, -⟩ := strip_encode hencode
  rw [Terminal.text_of_plain hplain] at hfeed
  exact ⟨d'', hfeed⟩

/-- A device control string ends in the middle of a character, and the rest of that character stands alone. -/
theorem strip_plain_of_cut_character :
    let chunks : List Bytes := [[0x61, 0x1B, 0x50, 0x71, 0xE2], [0x9C, 0xA2, 0x62, 0x01]]
    chunks.foldlM feed (start .utf8 false, []) =
        .ok (⟨.utf8, none, [], 9, .inl rfl⟩, ['\x01', 'b', '✢', 'q', 'P', '\x1B', 'a']) ∧
      ∃ d', chunks.foldlM feed (start .utf8 true, []) = .ok (d', ['b', '\uFFFD', 'a']) ∧
        ∀ again : List Bytes, again.flatten = Utf8.encode ['a', '\uFFFD', 'b'] →
          ∃ d'', again.foldlM feed (start .utf8 true, []) = .ok (d'', ['b', '\uFFFD', 'a']) := by
  intro chunks
  have hread : chunks.foldlM feed (start .utf8 false, []) =
      .ok (⟨.utf8, none, [], 9, .inl rfl⟩, ['\x01', 'b', '✢', 'q', 'P', '\x1B', 'a']) := by decide +kernel
  have hstrip : chunks.foldlM feed (start .utf8 true, []) =
      .ok (⟨.utf8, some .ground, [], 9, .inl rfl⟩, ['b', '\uFFFD', 'a']) := by decide +kernel
  obtain ⟨d', text, htext, -, hagain⟩ := strip_plain hread
  rw [hstrip] at htext
  obtain ⟨rfl, heq⟩ := Prod.mk.inj (Except.ok.inj htext)
  obtain rfl : ['a', '\uFFFD', 'b'] = text := by rw [← text.reverse_reverse, ← heq]; rfl
  exact ⟨hread, _, hstrip, hagain⟩

end Dialogue.Decoder
