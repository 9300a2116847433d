import Dialogue.Proofs.Watch.Follows

/-!
# Consumers that mirror each other

A consumer mirrors another one when both say the same to every token and their states stay related. A worker then
goes through the same batches in the same way with either of them.

* `Mirrors`: the relation of two consumers; `Mirrors.follows`: the first one follows the other and never stops early;
* **`Mirrors.run`**: runs up to their end.
-/

namespace Dialogue

variable {σ ρ : Type}

/-- Two consumers say the same as long as their states are related, and their states stay so; with the first one
something is put off until a batch is done with. -/
structure Mirrors (consume : Consumer σ) (between : σ → σ) (other : Consumer ρ) (R : σ → ρ → Prop) : Prop where
  step : ∀ {s r} token, R s r → (consume s token).2 = (other r token).2 ∧ R (consume s token).1 (other r token).1
  settle : ∀ {s r}, R s r → R (between s) r

namespace Mirrors

variable {consume : Consumer σ} {between : σ → σ} {other : Consumer ρ} {R : σ → ρ → Prop}
  (h : Mirrors consume between other R) {s : σ} {r : ρ}

include h

theorem follows : Follows consume between other id R fun _ _ _ => False where
  step token hR := .inl (h.step token hR)
  settle := h.settle
  later _ := False.elim
  settled := False.elim

theorem takeBatch (hR : R s r) (w : Worker) (b : Batch) :
    (w.takeBatch consume s b).2 = (w.takeBatch other r b).2 ∧
      R (w.takeBatch consume s b).1 (w.takeBatch other r b).1 :=
  (h.follows.takeBatch hR w b).resolve_right fun ⟨_, _, hnever⟩ => hnever

/-- **A run with one consumer ends as with the other one**, and the last that is done is what was put off. -/
theorem run (hR : R s r) {w : Worker} {batches : List Batch} {r' : ρ} {outcome : Outcome}
    (hrun : Worker.run other id r w batches = (r', .error outcome)) :
    ∃ s', R s' r' ∧ Worker.run consume between s w batches = (between s', .error outcome) := by
  induction batches generalizing s r w with
  | nil => cases hrun
  | cons b more ih =>
    obtain ⟨hresult, hnext⟩ := h.takeBatch hR w b
    rw [Worker.run] at hrun ⊢
    rcases hs : w.takeBatch consume s b with ⟨s₁, result⟩
    rcases hr : w.takeBatch other r b with ⟨r₁, result'⟩
    rw [hs, hr] at hresult hnext
    obtain rfl : result = result' := hresult
    rw [hr] at hrun
    cases result with
    | error o =>
      cases hrun
      exact ⟨s₁, hnext, rfl⟩
    | ok w' => exact ih (h.settle hnext) hrun

end Mirrors

end Dialogue
