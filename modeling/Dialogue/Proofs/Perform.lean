import Mathlib.Tactic.Common

/-!
# Acts one after another

Whoever acts on a system finds it as the act before left it, and is answered each time. The acts with their answers
make up a log.

* `perform`, `perform_append`, `map_fst_perform`: acts one after another, with a log of the answers;
* `perform_eq_append`, `answer_of_perform`, `state_of_perform`: what a log says of the acts in it;
* **`perform_keeps`**: what each act keeps up holds in the end;
* `logOf`, `perform_keeps_part`, `perform_part`: acts on one part of a state;
* `snoc_eq_append_cons`: the entries of a log that has grown.
-/

namespace Dialogue

variable {σ α β : Type} (act : σ → α → β × σ)

/-- Does acts one after another: each of them with its answer, the earliest first, and the state in the end. -/
def perform : σ → List α → List (α × β) × σ
  | s, [] => ([], s)
  | s, a :: more => ((a, (act s a).1) :: (perform (act s a).2 more).1, (perform (act s a).2 more).2)

theorem perform_append (s : σ) (as bs : List α) : perform act s (as ++ bs) =
    ((perform act s as).1 ++ (perform act (perform act s as).2 bs).1, (perform act (perform act s as).2 bs).2) := by
  induction as generalizing s with
  | nil => rfl
  | cons a as ih => rw [List.cons_append, perform, perform, ih, List.cons_append]

theorem map_fst_perform (s : σ) (as : List α) : (perform act s as).1.map Prod.fst = as := by
  induction as generalizing s with
  | nil => rfl
  | cons a as ih => rw [perform, List.map_cons, ih]

variable {act} {s : σ} {as : List α} {before after : List (α × β)}

theorem perform_eq_append (h : (perform act s as).1 = before ++ after) :
    (perform act s (before.map Prod.fst)).1 = before ∧
      (perform act (perform act s (before.map Prod.fst)).2 (after.map Prod.fst)).1 = after := by
  have hacts : as = before.map Prod.fst ++ after.map Prod.fst := by
    rw [← List.map_append, ← h, map_fst_perform]
  rw [hacts, perform_append] at h
  have hlength := congrArg List.length (map_fst_perform act s (before.map Prod.fst))
  rw [List.length_map, List.length_map] at hlength
  exact List.append_inj h hlength

theorem answer_of_perform {a : α} {answer : β} (h : (perform act s as).1 = before ++ (a, answer) :: after) :
    (act (perform act s (before.map Prod.fst)).2 a).1 = answer ∧
      (perform act (act (perform act s (before.map Prod.fst)).2 a).2 (after.map Prod.fst)).1 = after := by
  have hafter := (perform_eq_append h).2
  rw [List.map_cons, perform] at hafter
  obtain ⟨hentry, hmore⟩ := List.cons.inj hafter
  exact ⟨(Prod.mk.inj hentry).2, hmore⟩

theorem state_of_perform {a : α} {answer : β} (h : (perform act s as).1 = before ++ (a, answer) :: after) :
    (perform act s as).2 =
      (perform act (act (perform act s (before.map Prod.fst)).2 a).2 (after.map Prod.fst)).2 := by
  have hacts : as = before.map Prod.fst ++ a :: after.map Prod.fst := by
    rw [← map_fst_perform act s as, h, List.map_append, List.map_cons]
  rw [hacts, perform_append, perform]

/-- **What each act keeps up holds in the end**, of the state and the log up to there. -/
theorem perform_keeps {I : List (α × β) → σ → Prop}
    (hact : ∀ log s a, I log s → I (log ++ [(a, (act s a).1)]) (act s a).2) {log : List (α × β)} {s : σ}
    (h : I log s) (acts : List α) : I (log ++ (perform act s acts).1) (perform act s acts).2 := by
  induction acts generalizing log s with
  | nil => rwa [perform, List.append_nil]
  | cons a acts ih =>
    have hmore := ih (hact log s a h)
    rwa [List.append_assoc] at hmore

section Part

variable {σ' α' : Type} (part : α → Option α')

/-- What a log says of the acts on one part of the state. -/
def logOf (log : List (α × β)) : List (α' × β) := log.filterMap fun (a, answer) => (part a).map (·, answer)

theorem logOf_append (log more : List (α × β)) : logOf part (log ++ more) = logOf part log ++ logOf part more :=
  List.filterMap_append

theorem logOf_singleton (a : α) (answer : β) :
    logOf part [(a, answer)] = ((part a).map (·, answer)).toList := by
  rcases hpart : part a with _ | a' <;> simp [logOf, hpart]

variable {part}

/-- What the acts on one part keep up is kept up, when the others leave that part alone. -/
theorem perform_keeps_part {act' : σ' → α' → β × σ'} {get : σ → σ'}
    (hsome : ∀ s a a', part a = some a' → (act s a).map id get = act' (get s) a')
    (hnone : ∀ s a, part a = none → get (act s a).2 = get s) {I : List (α' × β) → σ' → Prop}
    (hact : ∀ log s a, I log s → I (log ++ [(a, (act' s a).1)]) (act' s a).2) {log : List (α × β)} {s : σ}
    (h : I (logOf part log) (get s)) (acts : List α) :
    I (logOf part (log ++ (perform act s acts).1)) (get (perform act s acts).2) := by
  let J := fun (log : List (α × β)) (s : σ) => I (logOf part log) (get s)
  refine perform_keeps (I := J) (fun log s a h => ?_) h acts
  change I (logOf part (log ++ _)) _
  rw [logOf_append, logOf_singleton]
  rcases hpart : part a with _ | a'
  · rw [hnone s a hpart, Option.map_none, Option.toList_none, List.append_nil]
    exact h
  · have hstep := hact _ _ a' h
    rwa [← hsome s a a' hpart] at hstep

/-- A part of the state ends up as it does when nothing else is acted on. -/
theorem perform_part {β' : Type} {act' : σ' → α' → β' × σ'} (get : σ → σ')
    (hsome : ∀ s a a', part a = some a' → get (act s a).2 = (act' (get s) a').2)
    (hnone : ∀ s a, part a = none → get (act s a).2 = get s) (s : σ) (acts : List α) :
    get (perform act s acts).2 = (perform act' (get s) (acts.filterMap part)).2 := by
  induction acts generalizing s with
  | nil => rfl
  | cons a acts ih =>
    rw [perform, List.filterMap_cons, ih]
    rcases hpart : part a with _ | a'
    · rw [hnone s a hpart]
    · rw [hsome s a a' hpart, perform]

end Part

/-- An entry of a log that has grown is the newest one, or was there before. -/
theorem snoc_eq_append_cons {γ : Type} {log before after : List γ} {e x : γ}
    (h : log ++ [e] = before ++ x :: after) :
    (log = before ∧ e = x ∧ after = []) ∨ ∃ after', log = before ++ x :: after' := by
  rcases List.eq_nil_or_concat after with rfl | ⟨after', y, rfl⟩
  · obtain ⟨hlog, hlast⟩ := List.append_inj' h rfl
    exact .inl ⟨hlog, List.singleton_inj.mp hlast, rfl⟩
  · rw [List.concat_eq_append, ← List.cons_append, ← List.append_assoc] at h
    exact .inr ⟨after', List.append_inj_left' h rfl⟩

end Dialogue
