import Dialogue.Proofs.Watch.Batch

/-!
# What runs keep up

What a consumer keeps up with every token holds after passes, batches and runs.

* `Consumer.offerAll_keeps`, `Consumer.pass_keeps`, `Worker.takeBatch_keeps`: tokens, passes and batches;
* **`Worker.run_keeps`**: runs;
* `Worker.run_between`: what holds after the work put off in each batch.
-/

namespace Dialogue

variable {σ : Type} {consume : Consumer σ} {J : σ → Prop} (hJ : ∀ s token, J s → J (consume s token).1) {s : σ}

namespace Consumer

include hJ

theorem offerAll_keeps (hs : J s) (tokens : List Text) : J (consume.offerAll s tokens).1 := by
  induction tokens generalizing s with
  | nil => exact hs
  | cons token more ih =>
    have hnext := hJ s token hs
    rw [offerAll]
    rcases hv : consume s token with ⟨s', v⟩
    rw [hv] at hnext
    cases v with
    | stopped why => exact hnext
    | accepted => exact ih hnext
    | declined => exact ih hnext

theorem pass_keeps (hs : J s) (text : Split) : J (consume.pass s text).1 := by
  have hall := offerAll_keeps hJ hs (text.pieces.map Prod.fst)
  unfold pass
  rcases hoffers : consume.offerAll s (text.pieces.map Prod.fst) with ⟨s₁, _ | why⟩ <;> rw [hoffers] at hall
  · simp only
    split_ifs
    · exact hall
    · have hlast := hJ s₁ text.rest hall
      rcases hv : consume s₁ text.rest with ⟨s₂, v⟩
      rw [hv] at hlast
      cases v <;> exact hlast
  · exact hall

end Consumer

namespace Worker

include hJ

theorem takeBatch_keeps (hs : J s) (w : Worker) (b : Batch) : J (w.takeBatch consume s b).1 := by
  rw [takeBatch_eq_prepare]
  rcases w.prepare b with r | ⟨read, last⟩
  · exact hs
  · simp only [ofPass_fst]
    exact Consumer.pass_keeps hJ hs _

variable {between : σ → σ}

/-- **What every token and the work put off keep up holds in the end of a run.** -/
theorem run_keeps (hbetween : ∀ s, J s → J (between s)) (hs : J s) (w : Worker) (batches : List Batch) :
    J (run consume between s w batches).1 := by
  induction batches generalizing s w with
  | nil => exact hs
  | cons b more ih =>
    have hbatch := takeBatch_keeps hJ hs w b
    rw [run]
    rcases ht : w.takeBatch consume s b with ⟨s₁, o | w₁⟩ <;> rw [ht] at hbatch
    · exact hbetween _ hbatch
    · exact ih (hbetween _ hbatch) w₁

omit hJ in
theorem run_between (hbetween : ∀ s, J (between s)) (hs : J s) (w : Worker) (batches : List Batch) :
    J (run consume between s w batches).1 := by
  induction batches generalizing s w with
  | nil => exact hs
  | cons b more ih =>
    rw [run]
    rcases w.takeBatch consume s b with ⟨s₁, o | w₁⟩
    · exact hbetween _
    · exact ih (hbetween _) w₁

end Worker

end Dialogue
