import Dialogue.Trigger
import Mathlib.Tactic.Common

/-!
# What a trigger does with an action

* `runLater_book`, `runDeferred_book`, `execute_book`: running actions does not depend on the playbook;
* `runDeferred_of_nil`, `deferred_runDeferred`, `executor_runDeferred`: what is left when the actions put off are done;
* `execute_frame`, `execute_of_defers`: an action is handed to the executor;
* `Trigger.perform`, `runDeferred_execute`: actions are run one after another, at once or later.
-/

namespace Dialogue.Trigger

/-- Hands an action to the executor, and runs it when it is put off. -/
def perform (t : Trigger) (a : Action) : Trigger := (t.execute a).1.runDeferred

theorem runLater_book (t : Trigger) (a : Action) (book : Playbook Action) :
    { t with book }.runLater a = { t.runLater a with book } := by
  unfold runLater
  rcases a.result with (e | text) | u <;> rfl

theorem foldl_runLater_book (t : Trigger) (as : List Action) (book : Playbook Action) :
    as.foldl runLater { t with book } = { as.foldl runLater t with book } := by
  induction as generalizing t with
  | nil => rfl
  | cons a as ih => rw [List.foldl_cons, runLater_book, ih, List.foldl_cons]

theorem runDeferred_book (t : Trigger) (book : Playbook Action) :
    { t with book }.runDeferred = { t.runDeferred with book } :=
  foldl_runLater_book { t with deferred := [] } t.deferred.reverse book

theorem book_runDeferred (t : Trigger) : t.runDeferred.book = t.book := by
  have hbook := congrArg Trigger.book (t.runDeferred_book t.book)
  exact hbook

theorem runDeferred_of_nil {t : Trigger} (h : t.deferred = []) : t.runDeferred = t := by
  obtain ⟨book, executor, deferred, kept, events, logs⟩ := t
  obtain rfl : deferred = [] := h
  rfl

theorem deferred_foldl_runLater (t : Trigger) (as : List Action) :
    (as.foldl runLater t).deferred = t.deferred ∧ (as.foldl runLater t).executor = t.executor := by
  induction as generalizing t with
  | nil => exact ⟨rfl, rfl⟩
  | cons a as ih =>
    have hlater : (t.runLater a).deferred = t.deferred ∧ (t.runLater a).executor = t.executor := by
      unfold runLater
      rcases a.result with (e | text) | u <;> exact ⟨rfl, rfl⟩
    rw [List.foldl_cons]
    exact ⟨(ih _).1.trans hlater.1, (ih _).2.trans hlater.2⟩

theorem deferred_runDeferred (t : Trigger) : t.runDeferred.deferred = [] :=
  (deferred_foldl_runLater { t with deferred := [] } t.deferred.reverse).1

theorem executor_runDeferred (t : Trigger) : t.runDeferred.executor = t.executor :=
  (deferred_foldl_runLater { t with deferred := [] } t.deferred.reverse).2

theorem execute_frame (t : Trigger) (a : Action) :
    (t.execute a).1.book = t.book ∧ (t.execute a).1.executor = t.executor ∧
      (t.executor.defers = false → (t.execute a).1.deferred = t.deferred) := by
  obtain ⟨book, executor, deferred, kept, events, logs⟩ := t
  unfold execute
  cases executor with
  | inline => rcases a.result with e | u <;> exact ⟨rfl, rfl, fun _ => rfl⟩
  | spawned => exact ⟨rfl, rfl, fun h => by cases h⟩
  | blocking => exact ⟨rfl, rfl, fun h => by cases h⟩
  | keeping => exact ⟨rfl, rfl, fun _ => rfl⟩
  | refusing reason => exact ⟨rfl, rfl, fun _ => rfl⟩

theorem execute_book (t : Trigger) (a : Action) (book : Playbook Action) :
    { t with book }.execute a = ({ (t.execute a).1 with book }, (t.execute a).2) := by
  obtain ⟨book', executor, deferred, kept, events, logs⟩ := t
  unfold execute
  cases executor with
  | inline => rcases a.result with e | u <;> rfl
  | spawned => rfl
  | blocking => rfl
  | keeping => rfl
  | refusing reason => rfl

theorem perform_book (t : Trigger) (a : Action) (book : Playbook Action) :
    { t with book }.perform a = { t.perform a with book } := by
  rw [perform, execute_book, runDeferred_book, perform]

theorem execute_of_defers {t : Trigger} (h : t.executor.defers = true) (a : Action) :
    t.execute a = ({ t with deferred := a :: t.deferred }, .accepted) := by
  unfold execute
  cases hexecutor : t.executor <;> rw [hexecutor] at h <;> first | rfl | cases h

theorem runDeferred_execute_of_defers {t : Trigger} (h : t.executor.defers = true) (a : Action) :
    (t.execute a).1.runDeferred = t.runDeferred.runLater a := by
  rw [execute_of_defers h]
  simp only [runDeferred, List.reverse_cons, List.foldl_append, List.foldl_cons, List.foldl_nil]

/-- Actions that were put off before are run first. -/
theorem runDeferred_execute {t : Trigger} (h : t.executor.defers = false → t.deferred = []) (a : Action) :
    (t.execute a).1.runDeferred = t.runDeferred.perform a := by
  cases hdefers : t.executor.defers with
  | false => rw [runDeferred_of_nil (h hdefers), perform]
  | true =>
    have hdefers' : t.runDeferred.executor.defers = true := by rw [executor_runDeferred, hdefers]
    rw [perform, runDeferred_execute_of_defers hdefers, runDeferred_execute_of_defers hdefers',
      runDeferred_of_nil t.deferred_runDeferred]

end Dialogue.Trigger
