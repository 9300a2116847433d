import Dialogue.Proofs.Delimiter.Split
import Dialogue.Proofs.Watch.Batch
import Mathlib.Tactic.Common

/-!
# What becomes of the text of a stream

Every character that a worker decodes is put into one token that is done with, or into one delimiter text, or is
still pending. A token is done with when a delimiter follows it, whatever the consumer says to it, and a token at the
end of the text when the consumer accepts it.

* `Offer`, `Offer.settled`: a token with the consumer's verdict, and the text that is done with by it;
* `Consumer.offers`, `Worker.offers`: the offers of one pass, and of all passes of a run;
* `Worker.run_recording`: they are the ones that a consumer with a record takes down in a run;
* `Accounts`: offers and a pending text that account for a text;
* **`Worker.offers_account`**: so they do after every pass, for all that was decoded.
-/

namespace Dialogue

variable {σ : Type}

/-! ## Offers -/

/-- A token that was offered, the delimiter text after it, of which there is none after the last part of a text, and
what the consumer said. -/
structure Offer where
  token : Text
  delimiter : Option Text
  verdict : Verdict
  deriving DecidableEq, Repr

namespace Offer

/-- A token is not offered again when a delimiter follows it or the consumer accepted it. -/
def isFinal (o : Offer) : Bool := o.delimiter.isSome || o.verdict = .accepted

/-- The token of a final offer, and the delimiter text. -/
def parts (o : Offer) : List Text := if o.isFinal then [o.token, o.delimiter.getD []] else []

/-- The text that is done with by an offer. -/
def settled (o : Offer) : Text := o.parts.flatten

/-- Offers with the places where their tokens begin, when the first one begins at place `n`. -/
def sited : Nat → List Offer → List (Nat × Offer)
  | _, [] => []
  | n, o :: more => (n, o) :: sited (n + o.settled.length) more

end Offer

namespace Consumer

/-- The offers of tokens with a delimiter after them. -/
def delimitedOffers (consume : Consumer σ) : σ → List (Text × Text) → List Offer
  | _, [] => []
  | s, (token, text) :: more =>
    match consume s token with
    | (_, .stopped why) => [⟨token, some text, .stopped why⟩]
    | (s, v) => ⟨token, some text, v⟩ :: delimitedOffers consume s more

/-- The offer of what follows the last delimiter, unless that is empty or the consumer has stopped. -/
def trailingOffer (consume : Consumer σ) (s : σ) (text : Split) : List Offer :=
  match consume.offerAll s (text.pieces.map Prod.fst) with
  | (_, some _) => []
  | (s, none) => if text.rest.isEmpty then [] else [⟨text.rest, none, (consume s text.rest).2⟩]

/-- The offers of a pass. -/
def offers (consume : Consumer σ) (s : σ) (text : Split) : List Offer :=
  consume.delimitedOffers s text.pieces ++ consume.trailingOffer s text

/-- A consumer that takes down what it is offered and what it says. -/
def recording (consume : Consumer σ) : Consumer (σ × List (Text × Verdict)) := fun (s, record) token =>
  (((consume s token).1, record ++ [(token, (consume s token).2)]), (consume s token).2)

end Consumer

namespace Worker

/-- The offers that a batch leads to. -/
def batchOffers (consume : Consumer σ) (s : σ) (w : Worker) (b : Batch) : List Offer :=
  match w.decode b.reads with
  | .error _ => []
  | .ok w =>
    match b.ending with
    | .failed _ | .panicked _ => []
    | .idle | .finished => if b.reads.isEmpty then [] else consume.offers s (w.delimiter.split w.pending)

/-- The offers of a run. -/
def offers (consume : Consumer σ) (between : σ → σ) : σ → Worker → List Batch → List Offer
  | _, _, [] => []
  | s, w, b :: more =>
    w.batchOffers consume s b ++
      match w.takeBatch consume s b with
      | (s, .ok w) => offers consume between (between s) w more
      | (_, .error _) => []

end Worker

/-! ## The offers are the ones that are made -/

/-- What a record says of an offer. -/
def Offer.taken (o : Offer) : Text × Verdict := (o.token, o.verdict)

namespace Consumer

variable (consume : Consumer σ)

theorem offerAll_recording (s : σ) (record : List (Text × Verdict)) (pieces : List (Text × Text)) :
    consume.recording.offerAll (s, record) (pieces.map Prod.fst) =
      (((consume.offerAll s (pieces.map Prod.fst)).1, record ++ (consume.delimitedOffers s pieces).map Offer.taken),
        (consume.offerAll s (pieces.map Prod.fst)).2) := by
  induction pieces generalizing s record with
  | nil => simp [offerAll, delimitedOffers]
  | cons piece more ih =>
    obtain ⟨token, text⟩ := piece
    simp only [List.map_cons, offerAll, delimitedOffers, recording]
    rcases hv : consume s token with ⟨s', v⟩
    cases v with
    | stopped why => rfl
    | accepted => simp [ih, Offer.taken]
    | declined => simp [ih, Offer.taken]

theorem pass_recording (s : σ) (record : List (Text × Verdict)) (text : Split) :
    consume.recording.pass (s, record) text =
      (((consume.pass s text).1, record ++ (consume.offers s text).map Offer.taken), (consume.pass s text).2) := by
  unfold pass offers trailingOffer
  rw [offerAll_recording]
  rcases consume.offerAll s (text.pieces.map Prod.fst) with ⟨s', _ | why⟩
  · simp only
    split_ifs with hrest
    · simp
    · simp only [recording]
      rcases hv : consume s' text.rest with ⟨s'', v⟩
      cases v with
      | stopped why => simp [Offer.taken]
      | accepted => simp [Offer.taken]
      | declined => simp [Offer.taken]
  · simp

end Consumer

namespace Worker

variable (consume : Consumer σ)

theorem batchOffers_eq_prepare (s : σ) (w : Worker) (b : Batch) :
    w.batchOffers consume s b = match w.prepare b with
      | .done _ => []
      | .pass read _ => consume.offers s (read.delimiter.split read.pending) := by
  unfold batchOffers prepare
  rcases w.decode b.reads with e | read
  · rfl
  rcases b.ending with _ | _ | reason | text
  · simp only
    split_ifs <;> rfl
  · simp only
    split_ifs <;> rfl
  · rfl
  · rfl

theorem takeBatch_recording (s : σ) (record : List (Text × Verdict)) (w : Worker) (b : Batch) :
    w.takeBatch consume.recording (s, record) b =
      (((w.takeBatch consume s b).1, record ++ (w.batchOffers consume s b).map Offer.taken),
        (w.takeBatch consume s b).2) := by
  rw [takeBatch_eq_prepare, takeBatch_eq_prepare, batchOffers_eq_prepare]
  rcases w.prepare b with r | ⟨read, last⟩
  · simp
  · simp only
    rw [Consumer.pass_recording]
    rcases consume.pass s (read.delimiter.split read.pending) with ⟨s', why | pending⟩ <;> rfl

/-- **The offers of a run are what a record of it says.** -/
theorem run_recording (between : σ → σ) (s : σ) (record : List (Text × Verdict)) (w : Worker)
    (batches : List Batch) :
    run consume.recording (Prod.map between id) (s, record) w batches =
      (((run consume between s w batches).1, record ++ (w.offers consume between s batches).map Offer.taken),
        (run consume between s w batches).2) := by
  induction batches generalizing s record w with
  | nil => simp [run, offers]
  | cons b more ih =>
    simp only [run, offers, takeBatch_recording]
    rcases w.takeBatch consume s b with ⟨s', o | w'⟩
    · simp
    · simp [ih]

end Worker

/-! ## Accounts -/

/-- Offers and a pending text account for a text: what is done with and what is pending make it up, and every token
stands at its place. -/
structure Accounts (offers : List Offer) (pending text : Text) : Prop where
  whole : offers.flatMap Offer.settled ++ pending = text
  placed : ∀ p ∈ Offer.sited 0 offers, p.2.token <+: text.drop p.1

namespace Offer

theorem settled_of_final {o : Offer} (h : o.isFinal) : o.settled = o.token ++ o.delimiter.getD [] := by
  rw [settled, parts, if_pos h, List.flatten_cons, List.flatten_singleton]

theorem settled_of_not_final {o : Offer} (h : ¬ o.isFinal) : o.settled = [] := by
  rw [settled, parts, if_neg h, List.flatten_nil]

theorem flatten_parts (offers : List Offer) : (offers.flatMap parts).flatten = offers.flatMap settled := by
  induction offers with
  | nil => rfl
  | cons o more ih => rw [List.flatMap_cons, List.flatten_append, ih, List.flatMap_cons, settled]

theorem sited_append (n : Nat) (offers more : List Offer) :
    sited n (offers ++ more) = sited n offers ++ sited (n + (offers.flatMap settled).length) more := by
  induction offers generalizing n with
  | nil => rfl
  | cons o offers ih =>
    rw [List.cons_append, sited, ih, sited, List.cons_append, List.flatMap_cons, List.length_append, Nat.add_assoc]

theorem sited_add (m n : Nat) (offers : List Offer) :
    sited (m + n) offers = (sited n offers).map fun p => (m + p.1, p.2) := by
  induction offers generalizing n with
  | nil => rfl
  | cons o offers ih => rw [sited, sited, List.map_cons, Nat.add_assoc, ih]

theorem le_of_mem_sited {n : Nat} {offers : List Offer} {p : Nat × Offer} (h : p ∈ sited n offers) : n ≤ p.1 := by
  induction offers generalizing n with
  | nil => cases h
  | cons o offers ih =>
    rcases List.mem_cons.mp h with rfl | h
    · exact Nat.le_refl n
    · exact Nat.le_of_add_right_le (ih h)

/-- **Tokens are offered in the order of the text**, and no token begins within a final one that was offered before. -/
theorem pairwise_sited (n : Nat) (offers : List Offer) :
    (sited n offers).Pairwise fun p q => p.1 ≤ q.1 ∧ (p.2.isFinal → p.1 + p.2.token.length ≤ q.1) := by
  induction offers generalizing n with
  | nil => exact .nil
  | cons o offers ih =>
    refine .cons (fun q hq => ?_) (ih _)
    have hle := le_of_mem_sited hq
    refine ⟨Nat.le_of_add_right_le hle, fun hfinal => ?_⟩
    rw [settled_of_final hfinal, List.length_append] at hle
    exact Nat.le_trans (Nat.add_le_add_left (Nat.le_add_right _ _) n) hle

end Offer

namespace Accounts

variable {offers more : List Offer} {pending pending' text : Text}

theorem nil (text : Text) : Accounts [] text text := ⟨rfl, List.forall_mem_nil _⟩

theorem of_final {o : Offer} (h : o.isFinal) (rest : Text) :
    Accounts [o] rest (o.token ++ (o.delimiter.getD [] ++ rest)) where
  whole := by rw [List.flatMap_singleton, Offer.settled_of_final h, List.append_assoc]
  placed := by
    rintro p hp
    obtain rfl := List.mem_singleton.mp hp
    exact List.prefix_append _ _

theorem of_not_final {o : Offer} (h : ¬ o.isFinal) : Accounts [o] o.token o.token where
  whole := by rw [List.flatMap_singleton, Offer.settled_of_not_final h, List.nil_append]
  placed := by
    rintro p hp
    obtain rfl := List.mem_singleton.mp hp
    exact List.prefix_rfl

theorem extend (h : Accounts offers pending text) (new : Text) : Accounts offers (pending ++ new) (text ++ new) where
  whole := by rw [← List.append_assoc, h.whole]
  placed := fun p hp => (h.placed p hp).trans (by rw [List.drop_append]; exact List.prefix_append _ _)

theorem append (h : Accounts offers pending text) (h' : Accounts more pending' pending) :
    Accounts (offers ++ more) pending' text where
  whole := by rw [List.flatMap_append, List.append_assoc, h'.whole, h.whole]
  placed := by
    intro p hp
    rw [Offer.sited_append, Nat.zero_add, ← Nat.add_zero (List.length _), Offer.sited_add] at hp
    rcases List.mem_append.mp hp with hp | hp
    · exact h.placed p hp
    · obtain ⟨q, hq, rfl⟩ := List.mem_map.mp hp
      rw [← h.whole, ← List.drop_drop, List.drop_left]
      exact h'.placed q hq

end Accounts

/-! ## Passes and runs -/

namespace Consumer

variable (consume : Consumer σ)

theorem accounts_delimitedOffers {s s' : σ} {pieces : List (Text × Text)}
    (h : consume.offerAll s (pieces.map Prod.fst) = (s', none)) (rest : Text) :
    Accounts (consume.delimitedOffers s pieces) rest ((pieces.flatMap fun p => p.1 ++ p.2) ++ rest) := by
  induction pieces generalizing s with
  | nil => exact .nil rest
  | cons piece more ih =>
    obtain ⟨token, text⟩ := piece
    rw [List.map_cons, offerAll] at h
    rw [delimitedOffers, List.flatMap_cons, List.append_assoc, List.append_assoc]
    rcases hv : consume s token with ⟨s₁, v⟩
    rw [hv] at h
    cases v with
    | stopped why => cases h
    | accepted => exact Accounts.append (.of_final rfl _) (ih h)
    | declined => exact Accounts.append (.of_final rfl _) (ih h)

/-- **The offers of a pass account for the text that it went over.** -/
theorem accounts_pass {s s' : σ} {text : Split} {pending : Text} (h : consume.pass s text = (s', .ok pending)) :
    Accounts (consume.offers s text) pending text.text := by
  unfold pass at h
  unfold offers trailingOffer
  rcases hall : consume.offerAll s (text.pieces.map Prod.fst) with ⟨s₁, _ | why⟩
  · rw [hall] at h
    refine Accounts.append (consume.accounts_delimitedOffers hall text.rest) ?_
    simp only at h ⊢
    split_ifs with hrest
    · rw [if_pos hrest] at h
      obtain ⟨-, rfl⟩ := h
      rw [List.isEmpty_iff.mp hrest]
      exact .nil []
    · rw [if_neg hrest] at h
      rcases hv : consume s₁ text.rest with ⟨s₂, v⟩
      rw [hv] at h
      cases v with
      | stopped why => cases h
      | accepted =>
        obtain ⟨-, rfl⟩ := h
        have haccepted := Accounts.of_final (o := ⟨text.rest, none, .accepted⟩) rfl []
        rwa [List.append_nil, Option.getD_none, List.append_nil] at haccepted
      | declined =>
        obtain ⟨-, rfl⟩ := h
        exact Accounts.of_not_final (o := ⟨text.rest, none, .declined⟩) Bool.false_ne_true
  · rw [hall] at h
    cases h

theorem isFinal_of_mem_delimitedOffers {s : σ} {pieces : List (Text × Text)} {o : Offer}
    (h : o ∈ consume.delimitedOffers s pieces) : o.isFinal := by
  induction pieces generalizing s with
  | nil => cases h
  | cons piece more ih =>
    obtain ⟨token, text⟩ := piece
    rw [delimitedOffers] at h
    rcases hv : consume s token with ⟨s₁, v⟩
    rw [hv] at h
    cases v with
    | stopped why =>
      obtain rfl := List.mem_singleton.mp h
      rfl
    | accepted =>
      rcases List.mem_cons.mp h with rfl | h
      · rfl
      · exact ih h
    | declined =>
      rcases List.mem_cons.mp h with rfl | h
      · rfl
      · exact ih h

/-- A token that is not done with in a pass is all that stays pending. -/
theorem pending_of_not_final {s s' : σ} {text : Split} {pending : Text} (h : consume.pass s text = (s', .ok pending))
    {o : Offer} (ho : o ∈ consume.offers s text) (hfinal : ¬ o.isFinal) : pending = o.token := by
  rcases List.mem_append.mp ho with ho | ho
  · exact absurd (consume.isFinal_of_mem_delimitedOffers ho) hfinal
  unfold trailingOffer at ho
  unfold pass at h
  rcases hall : consume.offerAll s (text.pieces.map Prod.fst) with ⟨s₁, _ | why⟩
  · rw [hall] at h ho
    simp only at h ho
    split_ifs at h ho
    · cases ho
    · obtain rfl := List.mem_singleton.mp ho
      rcases hv : consume s₁ text.rest with ⟨s₂, v⟩
      rw [hv] at h hfinal
      cases v with
      | stopped why => cases h
      | accepted => exact absurd rfl hfinal
      | declined =>
        obtain ⟨-, rfl⟩ := h
        rfl
  · rw [hall] at ho
    cases ho

end Consumer

namespace Worker

variable {consume : Consumer σ} {s s' : σ} {w w' : Worker} {b : Batch}

theorem batchOffers_of_pass {read : Worker} (hdecode : w.decode b.reads = .ok read) (hreads : b.reads ≠ [])
    (hending : b.ending = .idle ∨ b.ending = .finished) :
    w.batchOffers consume s b = consume.offers s (read.delimiter.split read.pending) := by
  unfold batchOffers
  rw [hdecode]
  rcases hending with h | h <;> simp only [h, List.isEmpty_iff, if_neg hreads]

theorem batchOffers_of_nothing (hreads : b.reads = []) : w.batchOffers consume s b = [] := by
  unfold batchOffers
  rcases w.decode b.reads with e | read
  · rfl
  · rcases b.ending with _ | _ | reason | text <;> simp [hreads]

theorem accounts_offer {read : Worker} {offers : List Offer} {text new : Text}
    (h : Accounts offers w.pending text) (hpending : read.pending = w.pending ++ new)
    (hoffer : read.offer consume s = (s', .ok w')) :
    Accounts (offers ++ consume.offers s (read.delimiter.split read.pending)) w'.pending (text ++ new) := by
  have hpass := consume.accounts_pass (offer_eq_ok hoffer).1
  rw [Delimiter.text_split, hpending] at hpass
  rw [hpending]
  exact (h.extend new).append hpass

/-- What a run decodes is accounted for, when what was decoded before is. -/
theorem accounts_run (between : σ → σ) {batches : List Batch} {offers : List Offer} {text : Text}
    (h : Accounts offers w.pending text) (hrun : run consume between s w batches = (s', .ok w')) :
    ∃ new, w.decoder.read (batches.flatMap Batch.reads).flatten = .ok (w'.decoder, new) ∧
      Accounts (offers ++ w.offers consume between s batches) w'.pending (text ++ new) := by
  induction batches generalizing s w offers text with
  | nil =>
    cases hrun
    exact ⟨[], Decoder.read_nil _, by rwa [Worker.offers, List.append_nil, List.append_nil]⟩
  | cons b more ih =>
    rw [run] at hrun
    rcases htake : w.takeBatch consume s b with ⟨s₁, o | w₁⟩
    · rw [htake] at hrun
      cases hrun
    rw [htake] at hrun
    obtain ⟨read, hdecode, hending, hcases⟩ := takeBatch_eq_ok htake
    obtain ⟨new, hread, hpending, -⟩ := decode_eq_ok hdecode
    -- the account after the batch, whether it led to a pass or not
    have hbatch : read.decoder = w₁.decoder ∧
        Accounts (offers ++ w.batchOffers consume s b) w₁.pending (text ++ new) := by
      rcases hcases with ⟨hreads, rfl⟩ | ⟨hreads, hoffer⟩
      · rw [batchOffers_of_nothing hreads, List.append_nil, hpending]
        exact ⟨rfl, h.extend new⟩
      · rw [batchOffers_of_pass hdecode hreads (.inl hending)]
        exact ⟨(offer_eq_ok hoffer).2.1.symm, accounts_offer h hpending hoffer⟩
    obtain ⟨newer, hmore, haccounts⟩ := ih hbatch.2 hrun
    refine ⟨new ++ newer, ?_, ?_⟩
    · rw [List.flatMap_cons, List.flatten_append, Decoder.read_append, hread]
      change (read.decoder.read _).map _ = _
      rw [hbatch.1, hmore]
      rfl
    · rw [Worker.offers, htake, ← List.append_assoc, ← List.append_assoc]
      exact haccounts

theorem offers_append_singleton (between : σ → σ) {batches : List Batch}
    (hrun : run consume between s w batches = (s', .ok w')) :
    w.offers consume between s (batches ++ [b]) = w.offers consume between s batches ++ w'.batchOffers consume s' b := by
  induction batches generalizing s w with
  | nil =>
    cases hrun
    rw [List.nil_append, offers, offers]
    rcases w'.takeBatch consume s' b with ⟨s₁, o | w₁⟩ <;> simp [offers]
  | cons a more ih =>
    rw [run] at hrun
    rw [List.cons_append, offers, offers]
    rcases htake : w.takeBatch consume s a with ⟨s₁, o | w₁⟩
    · rw [htake] at hrun
      cases hrun
    · rw [htake] at hrun
      rw [List.append_assoc]
      exact congrArg _ (ih hrun)

end Worker

/-- A place in a text that was put together lies in exactly one of its parts. -/
theorem existsUnique_part {parts : List Text} {k : Nat} (h : k < parts.flatten.length) :
    ∃! i, (parts.take i).flatten.length ≤ k ∧ k < (parts.take (i + 1)).flatten.length := by
  induction parts generalizing k with
  | nil => cases h
  | cons part more ih =>
    rw [List.flatten_cons, List.length_append] at h
    by_cases hk : k < part.length
    · refine ⟨0, ⟨Nat.zero_le k, ?_⟩, fun i hi => ?_⟩
      · rwa [List.take_succ_cons, List.take_zero, List.flatten_singleton]
      · cases i with
        | zero => rfl
        | succ i =>
          have hle := hi.1
          rw [List.take_succ_cons, List.flatten_cons, List.length_append] at hle
          omega
    · obtain ⟨i, ⟨hlo, hhi⟩, hunique⟩ := ih (k := k - part.length) (by omega)
      refine ⟨i + 1, ?_, fun j hj => ?_⟩
      · simp only [List.take_succ_cons, List.flatten_cons, List.length_append]
        omega
      · obtain ⟨hlo', hhi'⟩ := hj
        cases j with
        | zero =>
          rw [List.take_succ_cons, List.take_zero, List.flatten_singleton] at hhi'
          exact absurd hhi' hk
        | succ j =>
          rw [List.take_succ_cons, List.flatten_cons, List.length_append] at hlo' hhi'
          rw [hunique j ⟨by omega, by omega⟩]

namespace Worker

/-- **No text is lost and none comes twice.** Take any run over some batches and one more batch with a completed pass.
Its offers are what a record of the run says, and with `text` for all that was decoded so far
* the final tokens, each followed by its delimiter text, and then the pending text make up `text`, so that a place in
  it lies in exactly one of these parts;
* every token, final or not, is found in `text` at its place; the places do not decrease, and no token begins within
  a final one before it;
* a token of the pass that is not final is all that stays pending. -/
theorem offers_account (consume : Consumer σ) (between : σ → σ) {config : WatchConfig} {delimiter : Delimiter}
    {s₀ s s' : σ} {w₀ w read w' : Worker} {batches : List Batch} {b : Batch}
    (hstart : start config delimiter = .ok w₀) (hrun : run consume between s₀ w₀ batches = (s, .ok w))
    (hreads : b.reads ≠ []) (hending : b.ending = .idle ∨ b.ending = .finished)
    (hdecode : w.decode b.reads = .ok read) (hpass : read.offer consume s = (s', .ok w')) :
    let offers := w₀.offers consume between s₀ (batches ++ [b])
    let parts := offers.flatMap Offer.parts ++ [w'.pending]
    (run consume.recording (Prod.map between id) (s₀, []) w₀ (batches ++ [b])).1.2 = offers.map Offer.taken ∧
      ∃ text, (Decoder.start config.encoding config.strip).read ((batches ++ [b]).flatMap Batch.reads).flatten =
          .ok (w'.decoder, text) ∧
        offers.flatMap Offer.settled ++ w'.pending = text ∧
        (∀ k < text.length, ∃! i, (parts.take i).flatten.length ≤ k ∧ k < (parts.take (i + 1)).flatten.length) ∧
        (∀ p ∈ Offer.sited 0 offers, p.2.token <+: text.drop p.1) ∧
        ((Offer.sited 0 offers).Pairwise fun p q => p.1 ≤ q.1 ∧ (p.2.isFinal → p.1 + p.2.token.length ≤ q.1)) ∧
        ∀ o ∈ consume.offers s (read.delimiter.split read.pending), ¬ o.isFinal → w'.pending = o.token := by
  intro offers parts
  have hrecord : (run consume.recording (Prod.map between id) (s₀, []) w₀ (batches ++ [b])).1.2 =
      offers.map Offer.taken := by rw [run_recording, List.nil_append]
  refine ⟨hrecord, ?_⟩
  -- a worker that begins has no text, and no offers to account for
  have hw₀ : w₀ = ⟨delimiter, .start config.encoding config.strip, []⟩ := by
    unfold start at hstart
    split_ifs at hstart
    exact (Except.ok.inj hstart).symm
  have hstarted : Accounts [] w₀.pending [] := by rw [hw₀]; exact .nil []
  obtain ⟨text, hread, hbefore⟩ := accounts_run between hstarted hrun
  obtain ⟨new, hnew, hpending, -⟩ := decode_eq_ok hdecode
  have hoffers : offers = w₀.offers consume between s₀ batches ++
      consume.offers s (read.delimiter.split read.pending) := by
    rw [← batchOffers_of_pass hdecode hreads hending]
    exact offers_append_singleton between hrun
  have haccounts : Accounts offers w'.pending (text ++ new) := by
    rw [hoffers]
    exact accounts_offer hbefore hpending hpass
  have hparts : parts.flatten = text ++ new := by
    rw [List.flatten_append, Offer.flatten_parts, List.flatten_singleton, haccounts.whole]
  refine ⟨text ++ new, ?_, haccounts.whole, fun k hk => existsUnique_part (by rwa [hparts]), haccounts.placed,
    Offer.pairwise_sited 0 offers, fun o ho hfinal => consume.pending_of_not_final (offer_eq_ok hpass).1 ho hfinal⟩
  rw [List.flatMap_append, List.flatten_append, List.flatMap_singleton, Decoder.read_append,
    show Decoder.start config.encoding config.strip = w₀.decoder by rw [hw₀], hread]
  change (w.decoder.read _).map _ = _
  rw [hnew, (offer_eq_ok hpass).2.1]
  rfl

/-- A cut falls into a line end: the two characters of it are two delimiters with an empty token between them, and
what follows is declined and pending. -/
theorem offers_account_of_cut_line_end :
    let consume : Consumer Nat := fun n _ => (n + 1, .declined)
    let batches : List Batch := [⟨[[0x61, 0x0D]], .idle⟩, ⟨[[0x0A], [0x62]], .finished⟩]
    ∃ text, (Decoder.start .utf8 false).read [0x61, 0x0D, 0x0A, 0x62] = .ok (⟨.utf8, none, [], 4, .inl rfl⟩, text) ∧
      (offers consume id 0 ⟨.line, .start .utf8 false, []⟩ batches).flatMap Offer.settled ++ ['b'] = text := by
  intro consume batches
  have hrun : run consume id 0 ⟨.line, .start .utf8 false, []⟩ [⟨[[0x61, 0x0D]], .idle⟩] =
      (1, .ok ⟨.line, ⟨.utf8, none, [], 2, .inl rfl⟩, []⟩) := by with_unfolding_all rfl
  have hdecode : decode ⟨.line, ⟨.utf8, none, [], 2, .inl rfl⟩, []⟩ [[0x0A], [0x62]] =
      .ok ⟨.line, ⟨.utf8, none, [], 4, .inl rfl⟩, ['\n', 'b']⟩ := by with_unfolding_all rfl
  have hpass : offer consume 1 ⟨.line, ⟨.utf8, none, [], 4, .inl rfl⟩, ['\n', 'b']⟩ =
      (3, .ok ⟨.line, ⟨.utf8, none, [], 4, .inl rfl⟩, ['b']⟩) := rfl
  have hstart : start .default .line = .ok ⟨.line, .start .utf8 false, []⟩ := rfl
  obtain ⟨-, text, hread, hwhole, -⟩ := offers_account consume id (b := ⟨[[0x0A], [0x62]], .finished⟩) hstart hrun
    (List.cons_ne_nil _ _) (.inr rfl) hdecode hpass
  exact ⟨text, hread, hwhole⟩

end Worker

end Dialogue
