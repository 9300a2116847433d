import Dialogue.Proofs.Watch.Keeps

/-!
# Consumers that go together until one stops

One consumer follows another when both say the same to every token and their states stay related, until the first one
stops where the other goes on. Runs of a worker with either of them come to the same, or the first one is cut short,
and what held of the two states then still holds however far the second one gets.

* `Together`: two results that are the same, or one of which is cut short; `Follows`: the relation of two consumers;
* `Follows.offerAll`, `Follows.pass`, `Follows.takeBatch`: tokens, passes and batches;
* **`Follows.run`**: runs, whether they end or not.
-/

namespace Dialogue

variable {σ ρ τ : Type}

/-- Two results are the same and their states are related, or the first one is cut short by `halt why`, and its state
and the other one's are such that `why` cut it short. -/
def Together (R : σ → ρ → Prop) (P : Stop → σ → ρ → Prop) (halt : Stop → τ) (x : σ × τ) (y : ρ × τ) : Prop :=
  (x.2 = y.2 ∧ R x.1 y.1) ∨ ∃ why, x.2 = halt why ∧ P why x.1 y.1

/-- A consumer says the same as another one as long as their states are related by `R`, which they stay unless it stops;
then they are related by `P`, and stay so whatever the other one does. What was put off is done by `f` and `g`. -/
structure Follows (consume : Consumer σ) (f : σ → σ) (other : Consumer ρ) (g : ρ → ρ) (R : σ → ρ → Prop)
    (P : Stop → σ → ρ → Prop) : Prop where
  step : ∀ {s r} token, R s r → Together R P .stopped (consume s token) (other r token)
  settle : ∀ {s r}, R s r → R (f s) (g r)
  later : ∀ {why s r} token, P why s r → P why s (other r token).1
  settled : ∀ {why s r}, P why s r → P why (f s) r ∧ P why s (g r)

namespace Follows

variable {consume : Consumer σ} {f : σ → σ} {other : Consumer ρ} {g : ρ → ρ} {R : σ → ρ → Prop}
  {P : Stop → σ → ρ → Prop} (h : Follows consume f other g R P) {s : σ} {r : ρ}

include h

theorem offerAll (hR : R s r) (tokens : List Text) :
    Together R P some (consume.offerAll s tokens) (other.offerAll r tokens) := by
  induction tokens generalizing s r with
  | nil => exact .inl ⟨rfl, hR⟩
  | cons token more ih =>
    rw [Consumer.offerAll, Consumer.offerAll]
    have hstep := h.step token hR
    rcases hs : consume s token with ⟨s', v⟩
    rcases hr : other r token with ⟨r', v'⟩
    rw [hs, hr] at hstep
    rcases hstep with ⟨rfl, hnext⟩ | ⟨why, rfl, hP⟩
    · cases v with
      | stopped why => exact .inl ⟨rfl, hnext⟩
      | accepted => exact ih hnext
      | declined => exact ih hnext
    · refine .inr ⟨why, rfl, ?_⟩
      cases v' with
      | stopped why' => exact hP
      | accepted => exact Consumer.offerAll_keeps (J := P why s') (fun _ token => h.later token) hP more
      | declined => exact Consumer.offerAll_keeps (J := P why s') (fun _ token => h.later token) hP more

theorem pass (hR : R s r) (text : Split) :
    Together R P .error (consume.pass s text) (other.pass r text) := by
  have hall := h.offerAll hR (text.pieces.map Prod.fst)
  unfold Consumer.pass
  rcases hs : consume.offerAll s (text.pieces.map Prod.fst) with ⟨s₁, stop⟩
  rcases hr : other.offerAll r (text.pieces.map Prod.fst) with ⟨r₁, stop'⟩
  rw [hs, hr] at hall
  rcases hall with ⟨rfl, hnext⟩ | ⟨why, rfl, hP⟩
  · cases stop with
    | some why => exact .inl ⟨rfl, hnext⟩
    | none =>
      simp only
      split_ifs
      · exact .inl ⟨rfl, hnext⟩
      · have hstep := h.step text.rest hnext
        rcases hs' : consume s₁ text.rest with ⟨s₂, v⟩
        rcases hr' : other r₁ text.rest with ⟨r₂, v'⟩
        rw [hs', hr'] at hstep
        rcases hstep with ⟨rfl, hlast⟩ | ⟨why, rfl, hP⟩
        · cases v <;> exact .inl ⟨rfl, hlast⟩
        · refine .inr ⟨why, rfl, ?_⟩
          cases v' <;> exact hP
  · refine .inr ⟨why, rfl, ?_⟩
    cases stop' with
    | some why' => exact hP
    | none =>
      simp only
      split_ifs
      · exact hP
      · have hlast := h.later text.rest hP
        rcases hr' : other r₁ text.rest with ⟨r₂, v'⟩
        rw [hr'] at hlast
        cases v' <;> exact hlast

theorem takeBatch (hR : R s r) (w : Worker) (b : Batch) :
    Together R P (fun why => .error (.ofStop why)) (w.takeBatch consume s b) (w.takeBatch other r b) := by
  rw [Worker.takeBatch_eq_prepare, Worker.takeBatch_eq_prepare]
  rcases w.prepare b with result | ⟨read, last⟩
  · exact .inl ⟨rfl, hR⟩
  have hpass := h.pass hR (read.delimiter.split read.pending)
  simp only
  rcases hs : consume.pass s (read.delimiter.split read.pending) with ⟨s', result⟩
  rcases hr : other.pass r (read.delimiter.split read.pending) with ⟨r', result'⟩
  rw [hs, hr] at hpass
  rcases hpass with ⟨rfl, hnext⟩ | ⟨why, rfl, hP⟩
  · cases result <;> exact .inl ⟨rfl, hnext⟩
  · refine .inr ⟨why, rfl, ?_⟩
    simpa only [Worker.ofPass_fst] using hP

/-- **A run with one consumer comes to the same as with the other one, or is cut short.** -/
theorem run (hR : R s r) (w : Worker) (batches : List Batch) :
    Together R P (fun why => .error (.ofStop why)) (Worker.run consume f s w batches)
      (Worker.run other g r w batches) := by
  induction batches generalizing s r w with
  | nil => exact .inl ⟨rfl, hR⟩
  | cons b more ih =>
    have htake := h.takeBatch hR w b
    rw [Worker.run, Worker.run]
    rcases hs : w.takeBatch consume s b with ⟨s₁, result⟩
    rcases hr : w.takeBatch other r b with ⟨r₁, result'⟩
    rw [hs, hr] at htake
    rcases htake with ⟨rfl, hnext⟩ | ⟨why, rfl, hP⟩
    · cases result with
      | error o => exact .inl ⟨rfl, h.settle hnext⟩
      | ok w' => exact ih (h.settle hnext) w'
    · refine .inr ⟨why, rfl, ?_⟩
      have hsettled : P why (f s₁) (g r₁) := (h.settled (h.settled hP).1).2
      cases result' with
      | error o => exact hsettled
      | ok w' =>
        change P why (f s₁) (Worker.run other g (g r₁) w' more).1
        exact Worker.run_keeps (J := P why (f s₁)) (fun _ token => h.later token) (fun _ hP => (h.settled hP).2)
          hsettled w' more

end Follows

end Dialogue
