import Dialogue.Proofs.Delimiter.Lines
import Dialogue.Proofs.Watch.Batch
import Dialogue.Proofs.Watch.Keeps

/-!
# Batches do not matter to a patient consumer

A consumer is patient when it changes nothing by declining a token, and declines every token that may not be a whole
line. Whatever the batches in which a stream of lines comes, such a consumer is left as if it were offered each line
once.

* `Premature`: tokens that are not whole lines of a text;
* `Patient`: consumers that wait for whole lines;
* `Reached`: where a worker is when part of a text was taken;
* `reached_of_accepted`, `reached_of_declined`, `offerAll_of_stopped`: what the answer to the last token leads to;
* `pass_reached`: a pass goes from one such place to the next;
* **`run_lines`**: a whole run.
-/

namespace Dialogue

/-- Tokens that are no whole line of a text: the empty one, and beginnings of its lines. -/
def Premature (text token : Text) : Prop := token = [] ∨ ∃ l ∈ lines text, token <+: l ∧ token ≠ l

/-- How a worker ends whose consumer stopped, or did not. -/
def Outcome.Tells : Option Stop → Outcome → Prop
  | none, o => ∃ chars bytes, o = .finished chars bytes
  | some why, o => o = .ofStop why

variable {σ : Type}

/-- Consumers that wait for whole lines, in the states with the property `kept`: declining changes nothing, and what may
not be a whole line is declined. -/
structure Patient (consume : Consumer σ) (kept : σ → Prop) (premature : Text → Prop) : Prop where
  keeps : ∀ {s} token, kept s → kept (consume s token).1
  declined : ∀ {s s' token}, consume s token = (s', .declined) → s' = s
  waits : ∀ {s token}, kept s → premature token → consume s token = (s, .declined)

namespace Patient

variable {consume : Consumer σ} {kept : σ → Prop} {text : Text} (h : Patient consume kept (Premature text))

include h

theorem kept_offerAll {s : σ} (hs : kept s) (tokens : List Text) : kept (consume.offerAll s tokens).1 :=
  Consumer.offerAll_keeps (fun _ token => h.keeps token) hs tokens

theorem offerAll_filter {s : σ} (hs : kept s) (tokens : List Text) :
    consume.offerAll s (tokens.filter (· ≠ [])) = consume.offerAll s tokens := by
  induction tokens generalizing s with
  | nil => rfl
  | cons token more ih =>
    by_cases hempty : token = []
    · rw [List.filter_cons_of_neg (by simpa using hempty), Consumer.offerAll, hempty, h.waits hs (.inl rfl)]
      exact ih hs
    · have hnext := h.keeps token hs
      rw [List.filter_cons_of_pos (by simpa using hempty), Consumer.offerAll, Consumer.offerAll]
      rcases hv : consume s token with ⟨s', v⟩
      rw [hv] at hnext
      cases v with
      | stopped why => rfl
      | accepted => exact ih hnext
      | declined => exact ih hnext

end Patient

/-! ## Places in a text -/

theorem lines_of_not_premature {part more : Text} (hnot : ¬ Premature (part ++ more) (opened part)) :
    more = [] ∨ ∃ c rest, more = c :: rest ∧ isLineEnd c := by
  cases more with
  | nil => exact .inl rfl
  | cons c rest =>
    refine .inr ⟨c, rest, rfl, ?_⟩
    by_contra hc
    obtain ⟨l, hl, hprefix⟩ := exists_line_of_not_isLineEnd part hc rest
    refine hnot (.inr ⟨l, hl, (List.prefix_append _ _).trans hprefix, fun heq => ?_⟩)
    have hle := hprefix.length_le
    rw [← heq, List.length_append, List.length_singleton] at hle
    exact Nat.not_succ_le_self _ hle

/-- Where a worker is that has taken a part of a text, when it began in state `s₀`. Either the line that has not ended
was declined and is pending, or it was accepted as a whole line and nothing is pending. -/
inductive Reached (consume : Consumer σ) (text : Text) (s₀ : σ) (part : Text) (s : σ) (pending : Text) : Prop where
  | waiting : consume.offerAll s₀ (closed part) = (s, none) → consume.offerAll s₀ (lines part) = (s, none) →
    pending = opened part → Reached consume text s₀ part s pending
  | answered : consume.offerAll s₀ (lines part) = (s, none) → opened part ≠ [] → ¬ Premature text (opened part) →
    pending = [] → Reached consume text s₀ part s pending

namespace Reached

variable {consume : Consumer σ} {text part new more pending : Text} {s₀ s : σ}

theorem offerAll_lines (h : Reached consume text s₀ part s pending) : consume.offerAll s₀ (lines part) = (s, none) := by
  cases h with
  | waiting _ hlines _ => exact hlines
  | answered hlines _ _ _ => exact hlines

theorem start (s₀ : σ) : Reached consume text s₀ [] s₀ [] := .waiting rfl rfl rfl

/-- New text is cut in the same way after what is pending as after all that came before. -/
theorem offerAll_closed (h : Reached consume text s₀ part s pending) (htext : text = part ++ (new ++ more))
    (hnew : new ≠ [] ∨ pending = opened part) :
    consume.offerAll s (closed (pending ++ new)) = consume.offerAll s₀ (closed (part ++ new)) ∧
      opened (pending ++ new) = opened (part ++ new) := by
  cases h with
  | waiting hclosed _ hpending =>
    rw [hpending, closed_append part, opened_append part, Consumer.offerAll_append, hclosed]
    exact ⟨rfl, rfl⟩
  | answered hlines hne hnot hpending =>
    cases new with
    | nil => exact absurd (hpending.symm.trans (hnew.resolve_left (· rfl))) (Ne.symm hne)
    | cons c rest =>
      rw [htext] at hnot
      rcases lines_of_not_premature hnot with hnil | ⟨c', rest', heq, hc⟩
      · cases hnil
      obtain ⟨rfl, -⟩ := List.cons.inj heq
      -- the line was whole, and the first character after it ends it
      rw [hpending, closed_append_lineEnd hc, opened_append_lineEnd hc, closed_append_lineEnd hc,
        opened_append_lineEnd hc, Consumer.offerAll_append consume s₀, hlines]
      exact ⟨rfl, rfl⟩

end Reached

/-! ## Passes -/

section Patience

variable {consume : Consumer σ} {kept : σ → Prop} {text : Text} (hp : Patient consume kept (Premature text))
  {part new more pending : Text} {s₀ s : σ}

include hp

theorem Patient.not_premature (hs : kept s) {token : Text} {s' : σ} {v : Verdict} (hv : consume s token = (s', v))
    (hne : v ≠ .declined) : ¬ Premature text token := by
  intro hpremature
  rw [hp.waits hs hpremature] at hv
  exact hne (Prod.mk.inj hv).2.symm

omit hp in
/-- The line that has not ended is the last one that is offered. -/
theorem offerAll_lines_of_closed (hall : consume.offerAll s₀ (closed part) = (s, none)) (hopened : opened part ≠ []) :
    consume.offerAll s₀ (lines part) = consume.offerAll s [opened part] := by
  rw [lines_of_opened_ne_nil hopened, Consumer.offerAll_append, hall]

theorem reached_of_accepted (hs : kept s) (hall : consume.offerAll s₀ (closed part) = (s, none))
    (hopened : opened part ≠ []) {s' : σ} (hv : consume s (opened part) = (s', .accepted)) :
    Reached consume text s₀ part s' [] := by
  have hlines := offerAll_lines_of_closed hall hopened
  rw [Consumer.offerAll, hv] at hlines
  exact .answered hlines hopened (hp.not_premature hs hv Verdict.noConfusion) rfl

theorem reached_of_declined (hall : consume.offerAll s₀ (closed part) = (s, none)) (hopened : opened part ≠ [])
    {s' : σ} (hv : consume s (opened part) = (s', .declined)) : Reached consume text s₀ part s' (opened part) := by
  have hlines := offerAll_lines_of_closed hall hopened
  rw [Consumer.offerAll, hv] at hlines
  obtain rfl := hp.declined hv
  exact .waiting hall hlines rfl

/-- A consumer that stops at a line that has not ended stops at a whole line of the text. -/
theorem offerAll_of_stopped (hs : kept s) (hall : consume.offerAll s₀ (closed part) = (s, none))
    (hopened : opened part ≠ []) {s' : σ} {why : Stop} (hv : consume s (opened part) = (s', .stopped why))
    (htext : text = part ++ more) : consume.offerAll s₀ (lines text) = (s', some why) := by
  have hlines := offerAll_lines_of_closed hall hopened
  rw [Consumer.offerAll, hv] at hlines
  have hnot := hp.not_premature hs hv Verdict.noConfusion
  rw [htext] at hnot ⊢
  have hpart : ∃ rest, lines (part ++ more) = lines part ++ rest := by
    rcases lines_of_not_premature hnot with rfl | ⟨c, rest, rfl, hc⟩
    · exact ⟨[], by rw [List.append_nil, List.append_nil]⟩
    · exact ⟨lines rest, lines_append_lineEnd hc _ rest⟩
  obtain ⟨rest, hrest⟩ := hpart
  rw [hrest, Consumer.offerAll_append, hlines]

theorem offerAll_pieces (hs : kept s) (cs : Text) :
    consume.offerAll s ((Delimiter.line.split cs).pieces.map Prod.fst) = consume.offerAll s (closed cs) ∧
      kept (consume.offerAll s (closed cs)).1 := by
  have htokens := hp.offerAll_filter hs ((Delimiter.line.split cs).pieces.map Prod.fst)
  have hsplit := tokens_split_line cs
  rw [Split.tokens] at hsplit
  rw [hsplit] at htokens
  exact ⟨htokens.symm, hp.kept_offerAll hs _⟩

/-- **A pass goes from one place in a text to the next**, unless the consumer stops at a line. -/
theorem pass_reached (hs : kept s) (h : Reached consume text s₀ part s pending)
    (htext : text = part ++ (new ++ more)) :
    (∃ s' pending', consume.pass s (Delimiter.line.split (pending ++ new)) = (s', .ok pending') ∧ kept s' ∧
        Reached consume text s₀ (part ++ new) s' pending') ∨
      ∃ s' why, consume.pass s (Delimiter.line.split (pending ++ new)) = (s', .error why) ∧
        consume.offerAll s₀ (lines text) = (s', some why) := by
  obtain ⟨hpieces, hkept⟩ := offerAll_pieces hp hs (pending ++ new)
  unfold Consumer.pass
  rw [hpieces, rest_split_line]
  by_cases hnew : new ≠ [] ∨ pending = opened part
  · obtain ⟨hclosed, hopened⟩ := h.offerAll_closed htext hnew
    rw [hclosed] at hkept
    rw [hclosed, hopened]
    rw [← List.append_assoc] at htext
    rcases hall : consume.offerAll s₀ (closed (part ++ new)) with ⟨s₁, _ | why⟩
    · rw [hall] at hkept
      by_cases hempty : opened (part ++ new) = []
      · rw [hempty]
        have hlines := hall
        rw [← lines_of_opened_eq_nil hempty] at hlines
        exact .inl ⟨s₁, [], rfl, hkept, .waiting hall hlines hempty.symm⟩
      have hnext := hp.keeps (opened (part ++ new)) hkept
      simp only [List.isEmpty_iff, if_neg hempty]
      rcases hv : consume s₁ (opened (part ++ new)) with ⟨s₂, v⟩
      rw [hv] at hnext
      cases v with
      | accepted => exact .inl ⟨s₂, [], rfl, hnext, reached_of_accepted hp hkept hall hempty hv⟩
      | declined => exact .inl ⟨s₂, _, rfl, hnext, reached_of_declined hp hall hempty hv⟩
      | stopped why => exact .inr ⟨s₂, why, rfl, offerAll_of_stopped hp hkept hall hempty hv htext⟩
    · refine .inr ⟨s₁, why, rfl, ?_⟩
      rw [htext, lines_append, Consumer.offerAll_append, hall]
  · -- an accepted line, and no more text
    obtain ⟨hnew, hpending⟩ := not_or.mp hnew
    obtain rfl := not_not.mp hnew
    cases h with
    | waiting _ _ h => exact absurd h hpending
    | answered hlines hne hnot h =>
      subst h
      rw [List.append_nil part]
      exact .inl ⟨s, [], rfl, hs, .answered hlines hne hnot rfl⟩

/-! ## Batches -/

theorem offer_reached {w : Worker} (hdelimiter : w.delimiter = .line) (hs : kept s)
    (h : Reached consume text s₀ part s pending) (hpending : w.pending = pending ++ new)
    (htext : text = part ++ (new ++ more)) :
    (∃ s' w', w.offer consume s = (s', .ok w') ∧ w'.delimiter = .line ∧ w'.decoder = w.decoder ∧ kept s' ∧
        Reached consume text s₀ (part ++ new) s' w'.pending) ∨
      ∃ s' why, w.offer consume s = (s', .error (.ofStop why)) ∧
        consume.offerAll s₀ (lines text) = (s', some why) := by
  unfold Worker.offer
  rw [hdelimiter, hpending]
  rcases pass_reached hp hs h htext with ⟨s', pending', hpass, hkept, hreached⟩ | ⟨s', why, hpass, hstop⟩
  · rw [hpass]
    exact .inl ⟨s', _, rfl, rfl, rfl, hkept, hreached⟩
  · rw [hpass]
    exact .inr ⟨s', why, rfl, hstop⟩

theorem takeBatch_finished_lines {w : Worker} {b : Batch} {d : Decoder} (hdelimiter : w.delimiter = .line)
    (hs : kept s) (hending : b.ending = .finished) (hread : w.decoder.read b.reads.flatten = .ok (d, new))
    (h : Reached consume text s₀ part s w.pending) (htext : text = part ++ new) :
    ∃ outcome, w.takeBatch consume s b = ((consume.offerAll s₀ (lines text)).1, .error outcome) ∧
      Outcome.Tells (consume.offerAll s₀ (lines text)).2 outcome := by
  have hdecode : w.decode b.reads = .ok { w with decoder := d, pending := w.pending ++ new } := by
    rw [Worker.decode_eq, hread]
  rw [Worker.takeBatch_finished hdecode hending]
  split_ifs with hreads
  · -- nothing was read after the last pass
    rw [hreads, List.flatten_nil, Decoder.read_nil] at hread
    obtain ⟨rfl, rfl⟩ := Prod.mk.inj (Except.ok.inj hread)
    rw [List.append_nil] at htext
    rw [htext, h.offerAll_lines]
    exact ⟨_, rfl, _, _, rfl⟩
  · rw [← List.append_nil new] at htext
    rcases offer_reached hp (w := { w with decoder := d, pending := w.pending ++ new }) hdelimiter hs h rfl htext with
      ⟨s', w', hoffer, -, -, -, hreached⟩ | ⟨s', why, hoffer, hstop⟩
    · rw [List.append_nil] at htext
      rw [← htext] at hreached
      rw [hoffer, hreached.offerAll_lines]
      exact ⟨_, rfl, _, _, rfl⟩
    · rw [hoffer, hstop]
      exact ⟨_, rfl, rfl⟩

/-- **Batches do not matter**: a run over any batches of a stream that ends leaves the consumer as if it were offered
the lines of the text one after another. -/
theorem run_lines {w : Worker} {batches : List Batch} {last : Batch} {d : Decoder} (hdelimiter : w.delimiter = .line)
    (hs : kept s) (hidle : ∀ b ∈ batches, b.ending = .idle) (hlast : last.ending = .finished)
    (hread : w.decoder.read ((batches ++ [last]).flatMap Batch.reads).flatten = .ok (d, new))
    (h : Reached consume text s₀ part s w.pending) (htext : text = part ++ new) :
    ∃ outcome, Worker.run consume id s w (batches ++ [last]) =
        ((consume.offerAll s₀ (lines text)).1, .error outcome) ∧
      Outcome.Tells (consume.offerAll s₀ (lines text)).2 outcome := by
  induction batches generalizing s w part new with
  | nil =>
    rw [List.nil_append, List.flatMap_singleton] at hread
    obtain ⟨outcome, htake, htells⟩ := takeBatch_finished_lines hp hdelimiter hs hlast hread h htext
    refine ⟨outcome, ?_, htells⟩
    rw [List.nil_append, Worker.run, htake]
    rfl
  | cons b batches ih =>
    obtain ⟨hb, hbatches⟩ := List.forall_mem_cons.mp hidle
    rw [List.cons_append, List.flatMap_cons, List.flatten_append, Decoder.read_append] at hread
    rcases hfirst : w.decoder.read b.reads.flatten with e | ⟨d₁, new₁⟩
    · rw [hfirst] at hread
      cases hread
    rw [hfirst] at hread
    change (d₁.read _).map _ = _ at hread
    rcases hmore : d₁.read ((batches ++ [last]).flatMap Batch.reads).flatten with e | ⟨d₂, new₂⟩
    · rw [hmore] at hread
      cases hread
    rw [hmore] at hread
    cases hread
    have hdecode : w.decode b.reads = .ok { w with decoder := d₁, pending := w.pending ++ new₁ } := by
      rw [Worker.decode_eq, hfirst]
    rw [List.cons_append, Worker.run, Worker.takeBatch_idle hdecode hb]
    split_ifs with hreads
    · rw [hreads, List.flatten_nil, Decoder.read_nil] at hfirst
      obtain ⟨rfl, rfl⟩ := Prod.mk.inj (Except.ok.inj hfirst)
      exact ih hdelimiter hs hbatches hmore (by rw [List.append_nil]; exact h) htext
    · rcases offer_reached hp (w := { w with decoder := d₁, pending := w.pending ++ new₁ }) hdelimiter hs h rfl htext
        with ⟨s', w', hoffer, hdelimiter', hdecoder, hkept, hreached⟩ | ⟨s', why, hoffer, hstop⟩
      · rw [hoffer]
        rw [← List.append_assoc] at htext
        exact ih hdelimiter' hkept hbatches (by rw [hdecoder]; exact hmore) hreached htext
      · rw [hoffer, hstop]
        exact ⟨_, rfl, rfl⟩

end Patience

end Dialogue
