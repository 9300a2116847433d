import Dialogue.Proofs.Delimiter.Endings
import Dialogue.Proofs.Encoding.Texts
import Dialogue.Proofs.Watch.Offers

/-!
# The lines that a worker offers

A worker that takes a stream line by line offers the lines that end in each batch. They are the lines of the whole
text as long as no line end is cut in the middle; there it offers an empty token besides.

* `Decoder.readEach`: what is read off each of several byte strings;
* `Offer.delimited`, `Offer.Waits`: the tokens with a delimiter after them, and the consumers that go on to the end;
* `Consumer.waiting_pass`: the offers of a pass to such a consumer;
* `Worker.delimited_run`: those of a run;
* **`Worker.ended_lines_of_batches`**: the lines of the whole text, and how many empty tokens there are besides.
-/

namespace Dialogue

/-! ## What each batch brings -/

/-- The texts read off byte strings one after another, up to the first one that is no text. -/
def Decoder.readEach (d : Decoder) : List Bytes → List Text
  | [] => []
  | bs :: more =>
    match d.read bs with
    | .error _ => []
    | .ok (d, new) => new :: readEach d more

theorem Decoder.flatten_readEach {d d' : Decoder} {chunks : List Bytes} {text : Text}
    (h : d.read chunks.flatten = .ok (d', text)) : (d.readEach chunks).flatten = text := by
  induction chunks generalizing d text with
  | nil =>
    cases d.read_nil.symm.trans h
    rfl
  | cons bs chunks ih =>
    obtain ⟨d₁, new, more, hnew, hmore, rfl⟩ := Decoder.read_append_eq_ok h
    rw [Decoder.readEach, hnew]
    exact congrArg (new ++ ·) (ih hmore)

namespace Offer

/-- The tokens that a delimiter follows. -/
def delimited (offers : List Offer) : List Text := (offers.filter fun o => o.delimiter.isSome).map Offer.token

theorem delimited_append (offers more : List Offer) : delimited (offers ++ more) = delimited offers ++ delimited more := by
  rw [delimited, List.filter_append, List.map_append, delimited, delimited]

/-- The consumer goes on, and waits for more text when no delimiter follows the token. -/
structure Waits (o : Offer) : Prop where
  goes_on : ∀ why, o.verdict ≠ .stopped why
  declined : o.delimiter = none → o.verdict = .declined

theorem Waits.of_declined {o : Offer} (h : o.verdict = .declined) : o.Waits :=
  ⟨fun why => by rw [h]; exact Verdict.noConfusion, fun _ => h⟩

end Offer

variable {σ : Type}

/-! ## Passes -/

namespace Consumer

variable {consume : Consumer σ}

theorem waiting_delimitedOffers {s : σ} {pieces : List (Text × Text)}
    (h : ∀ o ∈ consume.delimitedOffers s pieces, o.Waits) :
    Offer.delimited (consume.delimitedOffers s pieces) = pieces.map Prod.fst ∧
      (consume.offerAll s (pieces.map Prod.fst)).2 = none := by
  induction pieces generalizing s with
  | nil => exact ⟨rfl, rfl⟩
  | cons piece more ih =>
    obtain ⟨token, text⟩ := piece
    rw [delimitedOffers] at h ⊢
    rw [List.map_cons, offerAll]
    rcases hv : consume s token with ⟨s₁, v⟩
    rw [hv] at h
    cases v with
    | stopped why => exact absurd rfl ((h _ (List.mem_singleton_self _)).goes_on why)
    | accepted =>
      obtain ⟨htokens, hall⟩ := ih fun o ho => h o (List.mem_cons_of_mem _ ho)
      exact ⟨congrArg (token :: ·) htokens, hall⟩
    | declined =>
      obtain ⟨htokens, hall⟩ := ih fun o ho => h o (List.mem_cons_of_mem _ ho)
      exact ⟨congrArg (token :: ·) htokens, hall⟩

/-- A consumer that waits is offered every token, and what follows the last delimiter stays pending. -/
theorem waiting_pass {s : σ} {text : Split} (h : ∀ o ∈ consume.offers s text, o.Waits) :
    Offer.delimited (consume.offers s text) = text.pieces.map Prod.fst ∧
      ∃ s', consume.pass s text = (s', .ok text.rest) := by
  obtain ⟨hpieces, hrest⟩ := List.forall_mem_append.mp h
  obtain ⟨htokens, hall⟩ := waiting_delimitedOffers hpieces
  rw [offers, Offer.delimited_append, htokens]
  unfold trailingOffer at hrest ⊢
  unfold pass
  rcases hoffers : consume.offerAll s (text.pieces.map Prod.fst) with ⟨s₁, stop⟩
  rw [hoffers] at hall hrest
  obtain rfl : stop = none := hall
  simp only at hrest ⊢
  split_ifs at hrest ⊢ with hempty
  · exact ⟨List.append_nil _, s₁, by rw [List.isEmpty_iff.mp hempty]⟩
  · rcases hv : consume s₁ text.rest with ⟨s₂, v⟩
    rw [hv] at hrest
    obtain rfl : v = .declined := (hrest _ (List.mem_singleton_self _)).declined rfl
    exact ⟨List.append_nil _, s₂, rfl⟩

end Consumer

/-! ## Runs -/

namespace Worker

variable {consume : Consumer σ} {s : σ} {w : Worker}

/-- A batch, to a consumer that waits: the lines that end in it are offered, after what was pending, and the line that
has not ended is pending then. -/
theorem delimited_batch {b : Batch} {part new : Text} {d : Decoder} (hline : w.delimiter = .line)
    (hpending : w.pending = opened part) (hending : b.ending = .idle ∨ b.ending = .finished)
    (hread : w.decoder.read b.reads.flatten = .ok (d, new)) (hwaits : ∀ o ∈ w.batchOffers consume s b, o.Waits) :
    Offer.delimited (w.batchOffers consume s b) = endedLines none (opened part) new ∧
      (b.ending = .idle → ∃ s' w', w.takeBatch consume s b = (s', .ok w') ∧ w'.delimiter = .line ∧
        w'.decoder = d ∧ w'.pending = opened (part ++ new)) := by
  have hdecode : w.decode b.reads = .ok ⟨.line, d, opened part ++ new⟩ := by
    rw [decode_eq, hread, hpending, ← hline]
  by_cases hreads : b.reads = []
  · -- no bytes bring no text
    obtain rfl : new = [] := by
      rw [hreads, List.flatten_nil, Decoder.read_nil] at hread
      exact (Prod.mk.inj (Except.ok.inj hread)).2.symm
    rw [batchOffers_of_nothing hreads, List.append_nil]
    rw [List.append_nil] at hdecode
    refine ⟨rfl, fun hidle => ⟨s, ⟨.line, d, opened part⟩, ?_, rfl, rfl, rfl⟩⟩
    rw [takeBatch_idle hdecode hidle, if_pos hreads]
  · rw [batchOffers_of_pass hdecode hreads hending] at hwaits ⊢
    change ∀ o ∈ consume.offers s (Delimiter.line.split (opened part ++ new)), o.Waits at hwaits
    change Offer.delimited (consume.offers s (Delimiter.line.split (opened part ++ new))) = _ ∧ _
    obtain ⟨htokens, s', hpass⟩ := Consumer.waiting_pass hwaits
    have hlines : endedLines none [] (opened part ++ new) = endedLines none ([] ++ opened part) new :=
      endedLines_plain_append not_isLineEnd_of_mem_opened (Option.some_ne_none _).symm [] new
    refine ⟨?_, fun hidle => ⟨s', ⟨.line, d, opened (part ++ new)⟩, ?_, rfl, rfl, rfl⟩⟩
    · rw [htokens, fst_pieces_split_line, hlines, List.nil_append]
    · rw [takeBatch_idle hdecode hidle, if_neg hreads, offer, hpass, rest_split_line, ← opened_append]

theorem delimited_run (between : σ → σ) {front : List Batch} {b : Batch} {part text : Text} {d : Decoder}
    (hline : w.delimiter = .line) (hpending : w.pending = opened part) (hfront : ∀ a ∈ front, a.ending = .idle)
    (hlast : b.ending = .idle ∨ b.ending = .finished)
    (hread : w.decoder.read ((front ++ [b]).map (·.reads.flatten)).flatten = .ok (d, text))
    (hwaits : ∀ o ∈ w.offers consume between s (front ++ [b]), o.Waits) :
    Offer.delimited (w.offers consume between s (front ++ [b])) =
      partLines part (w.decoder.readEach ((front ++ [b]).map (·.reads.flatten))) := by
  induction front generalizing s w part text with
  | nil =>
    obtain ⟨d₁, new, more, hnew, -, -⟩ := Decoder.read_append_eq_ok hread
    have hoffers : w.offers consume between s [b] = w.batchOffers consume s b := by
      rw [offers]
      rcases w.takeBatch consume s b with ⟨s₁, o | w₁⟩ <;> exact List.append_nil _
    rw [List.nil_append] at hwaits ⊢
    rw [hoffers] at hwaits ⊢
    rw [(delimited_batch hline hpending hlast hnew hwaits).1, List.map_singleton, Decoder.readEach, hnew]
    exact (List.append_nil _).symm
  | cons a front ih =>
    obtain ⟨ha, hfront⟩ := List.forall_mem_cons.mp hfront
    rw [List.cons_append, List.map_cons] at hread ⊢
    rw [List.cons_append, offers] at hwaits
    obtain ⟨d₁, new, more, hnew, hmore, -⟩ := Decoder.read_append_eq_ok hread
    obtain ⟨hbatch, hrest⟩ := List.forall_mem_append.mp hwaits
    obtain ⟨htokens, hnext⟩ := delimited_batch hline hpending (.inl ha) hnew hbatch
    obtain ⟨s', w', htake, hline', rfl, hpending'⟩ := hnext ha
    rw [htake] at hrest
    rw [offers, htake, Offer.delimited_append, htokens, Decoder.readEach, hnew]
    exact congrArg (_ ++ ·) (ih hline' hpending' hfront hmore hrest)

/-- **Lines are offered as they are in the whole text, up to line ends that are cut.** Take a stream of any encoding
that comes in any batches, and a consumer that never stops and waits for more text when no delimiter follows a token.
The run makes the offers that a record of it says. Among them, the tokens with a delimiter after them are the lines of
the whole text that have ended, in order and each of them once, and one empty token besides for every line end that a
batch ends in the middle of. So they are the lines of the whole text if and only if there is no such line end, and in
any case without the empty tokens. -/
theorem ended_lines_of_batches (consume : Consumer σ) (between : σ → σ) {config : WatchConfig} {s₀ : σ}
    {w₀ : Worker} {front : List Batch} {b : Batch} {d : Decoder} {text : Text}
    (hstart : start config .line = .ok w₀) (hfront : ∀ a ∈ front, a.ending = .idle)
    (hlast : b.ending = .idle ∨ b.ending = .finished)
    (hread : (Decoder.start config.encoding config.strip).read ((front ++ [b]).map (·.reads.flatten)).flatten =
      .ok (d, text))
    (hwaits : ∀ o ∈ w₀.offers consume between s₀ (front ++ [b]), o.Waits) :
    let offers := w₀.offers consume between s₀ (front ++ [b])
    let ended := (Delimiter.line.split text).pieces.map Prod.fst
    let cuts := cutLineEnds []
      ((Decoder.start config.encoding config.strip).readEach ((front ++ [b]).map (·.reads.flatten)))
    (run consume.recording (Prod.map between id) (s₀, []) w₀ (front ++ [b])).1.2 = offers.map Offer.taken ∧
      ended = endedLines none [] text ∧
      ended.Sublist (Offer.delimited offers) ∧
      (Offer.delimited offers).length = ended.length + cuts ∧
      (Offer.delimited offers = ended ↔ cuts = 0) ∧
      (Offer.delimited offers).filter (· ≠ []) = ended.filter (· ≠ []) := by
  intro offers ended cuts
  have hrecord : (run consume.recording (Prod.map between id) (s₀, []) w₀ (front ++ [b])).1.2 =
      offers.map Offer.taken := by rw [run_recording, List.nil_append]
  obtain rfl := start_eq_ok hstart
  have htokens : Offer.delimited offers = partLines []
      ((Decoder.start config.encoding config.strip).readEach ((front ++ [b]).map (·.reads.flatten))) :=
    delimited_run between rfl rfl hfront hlast hread hwaits
  have hended : ended = endedLines none [] text := fst_pieces_split_line text
  -- the parts make up the text, and nothing stands in front of it
  have hwhole : endedLines (([] : Text).getLast?) (opened [])
      ((Decoder.start config.encoding config.strip).readEach ((front ++ [b]).map (·.reads.flatten))).flatten =
        ended := by
    rw [hended, Decoder.flatten_readEach hread]
    rfl
  have hsublist := endedLines_sublist_partLines []
    ((Decoder.start config.encoding config.strip).readEach ((front ++ [b]).map (·.reads.flatten)))
  have hlength := length_partLines []
    ((Decoder.start config.encoding config.strip).readEach ((front ++ [b]).map (·.reads.flatten)))
  have hfilter := filter_partLines []
    ((Decoder.start config.encoding config.strip).readEach ((front ++ [b]).map (·.reads.flatten)))
  rw [hwhole, ← htokens] at hsublist hlength hfilter
  refine ⟨hrecord, hended, hsublist, hlength, ⟨fun heq => ?_, fun hcuts => ?_⟩, hfilter⟩
  · have hsame := congrArg List.length heq
    exact Nat.add_left_cancel (hlength.symm.trans hsame)
  · change cutLineEnds [] _ = 0 at hcuts
    exact (hsublist.eq_of_length (by rw [hlength, hcuts, Nat.add_zero])).symm

/-- The batches end after CR, but no LF comes next, so the lines are those of the whole text. -/
theorem ended_lines_of_batches_of_whole_line_ends :
    let consume : Consumer Unit := fun s _ => (s, .declined)
    let w : Worker := ⟨.line, .start .utf8 false, []⟩
    let batches : List Batch := [⟨[[0x61, 0x0D]], .idle⟩, ⟨[[0x62], [0x0D, 0x0A, 0x0D]], .idle⟩, ⟨[], .finished⟩]
    Offer.delimited (w.offers consume id () batches) =
      (Delimiter.line.split ['a', '\r', 'b', '\r', '\n', '\r']).pieces.map Prod.fst := by
  intro consume w batches
  have hstart : start .default .line = .ok w := rfl
  have hread : (Decoder.start .utf8 false).read (batches.map (·.reads.flatten)).flatten =
      .ok (⟨.utf8, none, [], 6, .inl rfl⟩, ['a', '\r', 'b', '\r', '\n', '\r']) := by decide +kernel
  have hdeclined : ∀ o ∈ w.offers consume id () batches, o.verdict = .declined := by decide +kernel
  have hcuts : cutLineEnds [] ((Decoder.start .utf8 false).readEach (batches.map (·.reads.flatten))) = 0 := by
    decide +kernel
  have hfront : ∀ a ∈ batches.take 2, a.ending = .idle := by decide
  have hlines := ended_lines_of_batches consume id (b := ⟨[], .finished⟩) hstart hfront (.inr rfl) hread
    (fun o ho => .of_declined (hdeclined o ho))
  exact hlines.2.2.2.2.1.mpr hcuts

/-- A batch ends in the middle of the line end of a text with one line, and an empty token is offered besides. -/
theorem cut_line_end_offers_empty_token :
    let consume : Consumer Unit := fun s _ => (s, .declined)
    let w : Worker := ⟨.line, .start .utf8 false, []⟩
    let batches : List Batch := [⟨[[0x61, 0x0D]], .idle⟩, ⟨[[0x0A]], .finished⟩]
    (Decoder.start .utf8 false).read (batches.map (·.reads.flatten)).flatten =
        .ok (⟨.utf8, none, [], 3, .inl rfl⟩, ['a', '\r', '\n']) ∧
      (∀ o ∈ w.offers consume id () batches, o.verdict = .declined) ∧
      (Delimiter.line.split ['a', '\r', '\n']).pieces.map Prod.fst = [['a']] ∧
      Offer.delimited (w.offers consume id () batches) = [['a'], []] := by
  decide +kernel

end Worker

end Dialogue
