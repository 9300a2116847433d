import Dialogue.Proofs.Encoding.Texts
import Dialogue.Proofs.Watch.Offers
import Mathlib.Data.List.Induction

/-!
# Offering a declined token again

What follows the last delimiter of a text stays pending when the consumer declines it, and the next pass goes over it
with the new text after it. A pass is made for the bytes of a batch, though, and bytes may bring no text: a character
may not have ended with them, or they may be control sequences that are left out. Then the declined token is offered
without new text.

* `Consumer.offers_ne_nil`, `Consumer.head_offers`: the first offer of a pass;
* `Worker.pending_of_declined`: the last token of a run that was declined is all that is pending;
* `Worker.Textless`: a batch that leads to a pass without new text;
* **`Worker.declined_until_text`**: a declined token waits for new text unless such a batch comes.
-/

namespace Dialogue

variable {σ : Type}

/-! ## The first offer of a pass -/

namespace Consumer

variable (consume : Consumer σ) (s : σ) {text : Split}

theorem offers_ne_nil (h : text.text ≠ []) : consume.offers s text ≠ [] := by
  obtain ⟨pieces, rest⟩ := text
  cases pieces with
  | nil =>
    have hrest : ¬ rest.isEmpty := fun hempty => h (List.isEmpty_iff.mp hempty)
    change (if rest.isEmpty then [] else [_]) ≠ []
    rw [if_neg hrest]
    exact List.cons_ne_nil _ _
  | cons piece more =>
    obtain ⟨token, delimiter⟩ := piece
    refine List.append_ne_nil_of_left_ne_nil ?_ _
    rw [delimitedOffers]
    split <;> exact List.cons_ne_nil _ _

theorem head_offers {o : Offer} (h : o ∈ (consume.offers s text).head?) :
    o.token ++ o.delimiter.getD [] <+: text.text := by
  obtain ⟨pieces, rest⟩ := text
  cases pieces with
  | nil =>
    change o ∈ (if rest.isEmpty then [] else [(⟨rest, none, (consume s rest).2⟩ : Offer)]).head? at h
    split_ifs at h with hrest
    · cases h
    · obtain rfl := Option.some.inj h
      exact (List.append_nil rest).symm ▸ List.prefix_rfl
  | cons piece more =>
    obtain ⟨token, delimiter⟩ := piece
    have hfirst : o.token = token ∧ o.delimiter = some delimiter := by
      rw [offers, delimitedOffers] at h
      split at h
      all_goals
        obtain rfl := Option.some.inj h
        exact ⟨rfl, rfl⟩
    rw [hfirst.1, hfirst.2, Split.text, List.flatMap_cons, List.append_assoc]
    exact List.prefix_append _ _

theorem token_ne_nil {o : Offer} (h : o ∈ consume.offers s text) (ho : ¬ o.isFinal) : o.token ≠ [] := by
  rcases List.mem_append.mp h with h | h
  · exact absurd (consume.isFinal_of_mem_delimitedOffers h) ho
  · unfold trailingOffer at h
    split at h
    · cases h
    · split_ifs at h with hrest
      · cases h
      · obtain rfl := List.mem_singleton.mp h
        exact fun hempty => hrest (List.isEmpty_iff.mpr hempty)

end Consumer

/-! ## What is pending -/

namespace Worker

variable {consume : Consumer σ} {between : σ → σ} {s s₀ s' : σ} {w w₀ w' : Worker} {b : Batch}

theorem run_concat_eq_ok {batches : List Batch} (h : run consume between s₀ w₀ (batches ++ [b]) = (s', .ok w')) :
    ∃ s w s₁, run consume between s₀ w₀ batches = (s, .ok w) ∧ w.takeBatch consume s b = (s₁, .ok w') := by
  rw [run_append] at h
  rcases hrun : run consume between s₀ w₀ batches with ⟨s, o | w⟩
  · rw [hrun] at h
    cases h
  · rw [hrun] at h
    simp only [run] at h
    rcases htake : w.takeBatch consume s b with ⟨s₁, o | w₁⟩ <;> rw [htake] at h <;> cases h
    exact ⟨s, w, s₁, rfl, htake⟩

/-- **The last token is all that is pending** when it was declined. -/
theorem pending_of_declined {batches : List Batch} {earlier : List Offer} {o : Offer}
    (hrun : run consume between s₀ w₀ batches = (s, .ok w))
    (hlast : w₀.offers consume between s₀ batches = earlier ++ [o]) (ho : ¬ o.isFinal) :
    w.pending = o.token ∧ o.token ≠ [] := by
  induction batches using List.reverseRecOn generalizing s w with
  | nil => exact absurd hlast (by simp [offers])
  | append_singleton batches b ih =>
    obtain ⟨s₁, w₁, s₂, hbefore, htake⟩ := run_concat_eq_ok hrun
    obtain ⟨read, hdecode, hidle, hcases⟩ := takeBatch_eq_ok htake
    obtain ⟨new, hread, hpending, -⟩ := decode_eq_ok hdecode
    rw [offers_append_singleton between hbefore] at hlast
    rcases hcases with ⟨hreads, rfl⟩ | ⟨hreads, hoffer⟩
    · -- without bytes nothing is offered and no text comes
      rw [batchOffers_of_nothing hreads, List.append_nil] at hlast
      rw [hreads, List.flatten_nil, Decoder.read_nil] at hread
      obtain rfl : [] = new := (Prod.mk.inj (Except.ok.inj hread)).2
      rw [hpending, List.append_nil]
      exact ih hbefore hlast
    · have hpass := (offer_eq_ok hoffer).1
      have hoffers : w₁.batchOffers consume s₁ b = consume.offers s₁ (read.delimiter.split read.pending) :=
        batchOffers_of_pass hdecode hreads (.inl hidle)
      rcases List.eq_nil_or_concat (w₁.batchOffers consume s₁ b) with hnone | ⟨more, o', hmore⟩
      · -- a pass without offers goes over no text, but the declined token would be there
        rw [hnone, List.append_nil] at hlast
        obtain ⟨hsame, hne⟩ := ih hbefore hlast
        have hempty : read.pending = [] := by
          by_contra hsome
          refine consume.offers_ne_nil s₁ ?_ (hoffers.symm.trans hnone)
          rwa [Delimiter.text_split]
        rw [hpending, hsame] at hempty
        exact absurd (List.append_eq_nil_iff.mp hempty).1 hne
      · rw [hmore, List.concat_eq_append, ← List.append_assoc] at hlast
        obtain rfl : o' = o := List.singleton_inj.mp (List.append_inj_right' hlast rfl)
        have hmem : o' ∈ consume.offers s₁ (read.delimiter.split read.pending) := by
          rw [← hoffers, hmore, List.concat_eq_append]
          exact List.mem_concat_self
        exact ⟨consume.pending_of_not_final hpass hmem ho, consume.token_ne_nil s₁ hmem ho⟩

/-! ## The next pass -/

/-- A batch with bytes that bring no text, though a pass is made for them. -/
def Textless (w : Worker) (b : Batch) : Prop :=
  b.reads ≠ [] ∧ (b.ending = .idle ∨ b.ending = .finished) ∧ ∃ d, w.decoder.read b.reads.flatten = .ok (d, [])

theorem batchOffers_ne_nil (h : w.batchOffers consume s b ≠ []) :
    b.reads ≠ [] ∧ (b.ending = .idle ∨ b.ending = .finished) ∧
      ∃ d new, w.decoder.read b.reads.flatten = .ok (d, new) ∧
        w.batchOffers consume s b = consume.offers s (w.delimiter.split (w.pending ++ new)) := by
  have hreads : b.reads ≠ [] := fun hreads => h (batchOffers_of_nothing hreads)
  rcases hdecode : w.decode b.reads with e | read
  · exact absurd (by unfold batchOffers; rw [hdecode]) h
  have hending : b.ending = .idle ∨ b.ending = .finished := by
    unfold batchOffers at h
    rw [hdecode] at h
    rcases hending : b.ending with _ | _ | reason | text
    · exact .inl rfl
    · exact .inr rfl
    · exact absurd (by simp only [hending]) h
    · exact absurd (by simp only [hending]) h
  obtain ⟨new, hread, hpending, hdelimiter⟩ := decode_eq_ok hdecode
  refine ⟨hreads, hending, read.decoder, new, hread, ?_⟩
  rw [batchOffers_of_pass hdecode hreads hending, hpending, hdelimiter]

/-- What a run leaves is read like a stream from its beginning. -/
theorem terminal_of_run {config : WatchConfig} {delimiter : Delimiter} {batches : List Batch}
    (hstart : start config delimiter = .ok w₀) (hrun : run consume between s₀ w₀ batches = (s, .ok w))
    (hstrip : config.strip = false) : w.decoder.terminal = none := by
  obtain rfl := start_eq_ok hstart
  obtain ⟨text, hread, -⟩ := accounts_run between (.nil []) hrun
  refine Decoder.terminal_of_read ?_ hread
  rw [Decoder.start, hstrip]
  rfl

/-- **A declined token waits for new text, unless bytes come that bring none.** Take any run whose last offer was a
token with no delimiter after it that was declined, and one more batch. The token is all that is pending. What is
offered next is offered in a pass over the token with the new text after it, and the first offer is taken from the
beginning of that; without bytes nothing is offered. There is new text whenever something is offered if and only if the
batch is not one with bytes and no text. If control sequences are not left out, bytes without text leave a character in
the middle. -/
theorem declined_until_text (consume : Consumer σ) (between : σ → σ) {config : WatchConfig} {delimiter : Delimiter}
    {s₀ s : σ} {w₀ w : Worker} {batches : List Batch} {earlier : List Offer} {t : Text} (b : Batch)
    (hstart : start config delimiter = .ok w₀) (hrun : run consume between s₀ w₀ batches = (s, .ok w))
    (hdeclined : w₀.offers consume between s₀ batches = earlier ++ [⟨t, none, .declined⟩]) :
    let next := w.batchOffers consume s b
    w₀.offers consume between s₀ (batches ++ [b]) = earlier ++ ⟨t, none, .declined⟩ :: next ∧
      w.pending = t ∧ t ≠ [] ∧
      (b.reads = [] → next = []) ∧
      (next ≠ [] → ∃ d new, w.decoder.read b.reads.flatten = .ok (d, new) ∧
        next = consume.offers s (w.delimiter.split (t ++ new)) ∧
        ∀ o ∈ next.head?, o.token ++ o.delimiter.getD [] <+: t ++ new) ∧
      ((next ≠ [] → ∃ d c new, w.decoder.read b.reads.flatten = .ok (d, c :: new)) ↔ ¬ w.Textless b) ∧
      (config.strip = false → b.reads.flatten ≠ [] →
        ∀ d, w.decoder.read b.reads.flatten = .ok (d, []) → d.undecoded ≠ []) := by
  intro next
  obtain ⟨hpending, hne⟩ := pending_of_declined hrun hdeclined Bool.false_ne_true
  have hoffers : w₀.offers consume between s₀ (batches ++ [b]) = earlier ++ ⟨t, none, .declined⟩ :: next := by
    rw [offers_append_singleton between hrun, hdeclined, List.append_assoc, List.singleton_append]
  refine ⟨hoffers, hpending, hne, batchOffers_of_nothing, fun hnext => ?_, ⟨fun hkept htextless => ?_, ?_⟩, ?_⟩
  · obtain ⟨-, -, d, new, hread, hpass⟩ := batchOffers_ne_nil hnext
    rw [hpending] at hpass
    refine ⟨d, new, hread, hpass, fun o ho => ?_⟩
    rw [← w.delimiter.text_split (t ++ new)]
    exact consume.head_offers s (hpass ▸ ho)
  · -- a pass over the token alone makes an offer
    obtain ⟨hreads, hending, d, hread⟩ := htextless
    have hdecode : w.decode b.reads = .ok ⟨w.delimiter, d, t ++ []⟩ := by rw [decode_eq, hread, hpending]
    have hnext : next ≠ [] := by
      change w.batchOffers consume s b ≠ []
      rw [batchOffers_of_pass hdecode hreads hending]
      refine consume.offers_ne_nil s ?_
      rw [Delimiter.text_split]
      exact List.append_ne_nil_of_left_ne_nil hne []
    obtain ⟨d', c, new, hmore⟩ := hkept hnext
    rw [hread] at hmore
    cases hmore
  · intro htextless hnext
    obtain ⟨hreads, hending, d, new, hread, -⟩ := batchOffers_ne_nil hnext
    cases new with
    | nil => exact absurd ⟨hreads, hending, d, hread⟩ htextless
    | cons c new => exact ⟨d, c, new, hread⟩
  · intro hstrip hbytes d hread hpartly
    exact Decoder.ne_nil_of_read (terminal_of_run hstart hrun hstrip) hbytes hread hpartly rfl

/-- One more character comes, and the token is offered with it. -/
theorem declined_until_text_of_next_character :
    let consume : Consumer Unit := fun s _ => (s, .declined)
    let w : Worker := ⟨.line, ⟨.utf8, none, [], 1, .inl rfl⟩, ['a']⟩
    let b : Batch := ⟨[[0x62]], .finished⟩
    ∃ d new, w.decoder.read [0x62] = .ok (d, new) ∧
      w.batchOffers consume () b = consume.offers () (Delimiter.line.split ('a' :: new)) := by
  intro consume w b
  have hstart : start .default .line = .ok ⟨.line, .start .utf8 false, []⟩ := rfl
  have hrun : run consume id () ⟨.line, .start .utf8 false, []⟩ [⟨[[0x61]], .idle⟩] = ((), .ok w) := by
    with_unfolding_all rfl
  have hdeclined : offers consume id () ⟨.line, .start .utf8 false, []⟩ [⟨[[0x61]], .idle⟩] =
      [] ++ [⟨['a'], none, .declined⟩] := by decide +kernel
  have hnext : w.batchOffers consume () b ≠ [] := by decide +kernel
  obtain ⟨-, -, -, -, hpass, -⟩ := declined_until_text consume id b hstart hrun hdeclined
  obtain ⟨d, new, hread, hoffers, -⟩ := hpass hnext
  exact ⟨d, new, hread, hoffers⟩

/-- The stream ends in the middle of a character, and the declined token is offered again as it was. -/
theorem textless_batch_offers_again :
    let consume : Consumer Unit := fun s _ => (s, .declined)
    let w : Worker := ⟨.line, .start .utf8 false, []⟩
    let batches : List Batch := [⟨[[0x61]], .idle⟩, ⟨[[0xC3]], .finished⟩]
    ((Decoder.start .utf8 false).read (batches.flatMap Batch.reads).flatten).map Prod.snd = .ok ['a'] ∧
      w.offers consume id () batches = [⟨['a'], none, .declined⟩, ⟨['a'], none, .declined⟩] := by
  decide +kernel

end Worker

end Dialogue
