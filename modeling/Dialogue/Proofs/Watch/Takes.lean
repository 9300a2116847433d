import Dialogue.Proofs.Watch.Offers

/-!
# One offer after another

The offers of a run can be followed without its batches. Each of them finds the consumer in the state in which the one
before left it, and one that stops the consumer is the last one and ends the run.

* `Consumer.Takes`: a consumer takes offers one after another;
* `Consumer.Takes.split`, `Consumer.Takes.offerAll_eq`: the states in between;
* `Consumer.takes_pass`, **`Worker.takes_run`**: passes and runs are such offers.
-/

namespace Dialogue

variable {σ : Type} {consume : Consumer σ} {s s₁ s' : σ}

namespace Consumer

/-- Offers that a consumer takes one after another, from its first to its last state, and why it stopped, if it
did. -/
inductive Takes (consume : Consumer σ) : σ → List Offer → σ → Option Stop → Prop where
  | nil (s : σ) : Takes consume s [] s none
  | stopped {s s' : σ} {token : Text} {delimiter : Option Text} {why : Stop}
      (hstop : consume s token = (s', .stopped why)) :
      Takes consume s [⟨token, delimiter, .stopped why⟩] s' (some why)
  | next {s s₁ s' : σ} {token : Text} {delimiter : Option Text} {v : Verdict} {more : List Offer} {stop : Option Stop}
      (hnext : consume s token = (s₁, v)) (hv : ∀ why, v ≠ .stopped why) (hmore : Takes consume s₁ more s' stop) :
      Takes consume s (⟨token, delimiter, v⟩ :: more) s' stop

namespace Takes

variable {o : Offer} {offers more before after : List Offer} {stop : Option Stop}

theorem append (h : Takes consume s offers s₁ none) (hmore : Takes consume s₁ more s' stop) :
    Takes consume s (offers ++ more) s' stop := by
  generalize hnone : (none : Option Stop) = stop' at h
  induction h with
  | nil s => exact hmore
  | stopped hstop => cases hnone
  | next hnext hv hoffers ih => exact .next hnext hv (ih hmore hnone)

theorem offerAll_eq (h : Takes consume s offers s' stop) :
    consume.offerAll s (offers.map Offer.token) = (s', stop) := by
  induction h with
  | nil s => rfl
  | stopped hstop => rw [List.map_cons, offerAll, hstop]
  | @next s s₁ s' token delimiter v more stop hnext hv hmore ih =>
    rw [List.map_cons, offerAll, hnext]
    cases v with
    | stopped why => exact absurd rfl (hv why)
    | accepted => exact ih
    | declined => exact ih

theorem split (h : Takes consume s (before ++ o :: after) s' stop) :
    ∃ s₁, Takes consume s before s₁ none ∧ Takes consume s₁ (o :: after) s' stop := by
  generalize hall : before ++ o :: after = offers at h
  induction h generalizing before with
  | nil s => exact absurd hall (by simp)
  | stopped hstop =>
    rcases before with _ | ⟨o', before⟩
    · exact ⟨_, .nil _, by rw [← List.nil_append (o :: after), hall]; exact .stopped hstop⟩
    · exact absurd hall (by simp)
  | next hnext hv hmore ih =>
    rcases before with _ | ⟨o', before⟩
    · exact ⟨_, .nil _, by rw [← List.nil_append (o :: after), hall]; exact .next hnext hv hmore⟩
    · obtain ⟨rfl, hrest⟩ := List.cons.inj hall
      obtain ⟨s₁, hbefore, hafter⟩ := ih hrest
      exact ⟨s₁, .next hnext hv hbefore, hafter⟩

theorem verdict_eq (h : Takes consume s (o :: after) s' stop) : o.verdict = (consume s o.token).2 := by
  cases h with
  | stopped hstop => rw [hstop]
  | next hnext hv hmore => rw [hnext]

theorem eq_nil_of_stopped (h : Takes consume s (o :: after) s' stop) {why : Stop} (ho : o.verdict = .stopped why) :
    after = [] ∧ stop = some why := by
  cases h with
  | stopped hstop =>
    cases ho
    exact ⟨rfl, rfl⟩
  | next hnext hv hmore => exact absurd ho (hv why)

end Takes

theorem takes_delimitedOffers (consume : Consumer σ) (s : σ) (pieces : List (Text × Text)) :
    Takes consume s (consume.delimitedOffers s pieces) (consume.offerAll s (pieces.map Prod.fst)).1
      (consume.offerAll s (pieces.map Prod.fst)).2 := by
  induction pieces generalizing s with
  | nil => exact .nil s
  | cons piece more ih =>
    obtain ⟨token, text⟩ := piece
    rw [List.map_cons, offerAll, delimitedOffers]
    rcases hv : consume s token with ⟨s₁, v⟩
    cases v with
    | stopped why => exact .stopped hv
    | accepted => exact .next hv (fun _ => Verdict.noConfusion) (ih s₁)
    | declined => exact .next hv (fun _ => Verdict.noConfusion) (ih s₁)

theorem takes_pass (consume : Consumer σ) (s : σ) (text : Split) :
    ∃ stop, Takes consume s (consume.offers s text) (consume.pass s text).1 stop ∧
      ∀ why, stop = some why → (consume.pass s text).2 = .error why := by
  have hpieces := consume.takes_delimitedOffers s text.pieces
  unfold pass offers trailingOffer
  rcases hall : consume.offerAll s (text.pieces.map Prod.fst) with ⟨s₁, _ | why⟩
  · rw [hall] at hpieces
    simp only
    split_ifs with hrest
    · exact ⟨none, by rwa [List.append_nil], nofun⟩
    · rcases hv : consume s₁ text.rest with ⟨s₂, v⟩
      cases v with
      | stopped why => exact ⟨some why, hpieces.append (.stopped hv), fun _ h => by rw [Option.some.inj h]⟩
      | accepted =>
        exact ⟨none, hpieces.append (.next hv (fun _ => Verdict.noConfusion) (.nil _)), nofun⟩
      | declined =>
        exact ⟨none, hpieces.append (.next hv (fun _ => Verdict.noConfusion) (.nil _)), nofun⟩
  · rw [hall] at hpieces
    exact ⟨some why, by rwa [List.append_nil], fun _ h => by rw [Option.some.inj h]⟩

end Consumer

namespace Worker

theorem takes_takeBatch (consume : Consumer σ) (s : σ) (w : Worker) (b : Batch) :
    ∃ stop, consume.Takes s (w.batchOffers consume s b) (w.takeBatch consume s b).1 stop ∧
      ∀ why, stop = some why → (w.takeBatch consume s b).2 = .error (.ofStop why) := by
  rw [takeBatch_eq_prepare, batchOffers_eq_prepare]
  rcases w.prepare b with r | ⟨read, last⟩
  · exact ⟨none, .nil s, nofun⟩
  · obtain ⟨stop, htakes, hstop⟩ := consume.takes_pass s (read.delimiter.split read.pending)
    refine ⟨stop, by rwa [ofPass_fst], fun why h => ?_⟩
    simp only
    rcases hpass : consume.pass s (read.delimiter.split read.pending) with ⟨s₁, r⟩
    obtain rfl : r = .error why := by rw [← hstop why h, hpass]
    rfl

/-- **The offers of a run are taken one after another**, and one that stops the consumer ends the run. -/
theorem takes_run (consume : Consumer σ) (s : σ) (w : Worker) (batches : List Batch) :
    ∃ stop, consume.Takes s (w.offers consume id s batches) (run consume id s w batches).1 stop ∧
      ∀ why, stop = some why → (run consume id s w batches).2 = .error (.ofStop why) := by
  induction batches generalizing s w with
  | nil => exact ⟨none, .nil s, nofun⟩
  | cons b more ih =>
    obtain ⟨stop, htakes, hstop⟩ := takes_takeBatch consume s w b
    rw [run, offers]
    rcases htake : w.takeBatch consume s b with ⟨s₁, o | w₁⟩
    · rw [htake] at htakes hstop
      exact ⟨stop, by rwa [List.append_nil], hstop⟩
    · rw [htake] at htakes hstop
      obtain rfl : stop = none := Option.eq_none_iff_forall_not_mem.mpr fun why h => by cases hstop why h
      obtain ⟨stop', hmore, hstop'⟩ := ih s₁ w₁
      exact ⟨stop', htakes.append hmore, hstop'⟩

end Worker

end Dialogue
