import Dialogue.Playbook
import Mathlib.Tactic.Common

/-!
# Looking tokens up

What a look-up leaves of a playbook, and where its replies come from.

* `filterM_of_pure`, `exists_of_filterM_error`: a filter whose test may do more than answer;
* `Rule.accepts`, `accepting_of_answers`, `accepting_of_panic`: the rules that accept a token;
* `accepting_eq_nil`, `mem_of_accepting`: when there are none, and that they are among all rules;
* `rules_lookup`, `lookup_of_quiet`, `lookup_eq_self`, `exists_rule_of_lookup`: what a look-up does, by its result;
* `answers`: looking tokens up one after another; `answers_prefix`: what a script comes to.
-/

namespace Dialogue

/-- Whether a rule accepts a token; one whose prompt panics does not. -/
def Rule.accepts {α : Type} (rule : Rule α) (token : Text) : Bool := rule.prompt.accepts token matches .ok true

namespace Playbook

/-! ## Filters -/

section Filter

variable {β : Type} {xs : List β}

theorem filterAuxM_of_pure {m : Type → Type} [Monad m] [LawfulMonad m] {f : β → m Bool} {p : β → Bool}
    (h : ∀ x ∈ xs, f x = pure (p x)) (acc : List β) :
    xs.filterAuxM f acc = pure ((xs.filter p).reverse ++ acc) := by
  induction xs generalizing acc with
  | nil => rfl
  | cons x xs ih =>
    obtain ⟨hx, hxs⟩ := List.forall_mem_cons.mp h
    rw [List.filterAuxM, hx, pure_bind, ih hxs]
    rcases hp : p x with _ | _
    · rw [List.filter_cons_of_neg (by rw [hp]; decide), cond_false]
    · rw [List.filter_cons_of_pos hp, List.reverse_cons, List.append_assoc, List.singleton_append, cond_true]

theorem filterM_of_pure {m : Type → Type} [Monad m] [LawfulMonad m] {f : β → m Bool} {p : β → Bool}
    (h : ∀ x ∈ xs, f x = pure (p x)) : xs.filterM f = pure (xs.filter p) := by
  rw [List.filterM, filterAuxM_of_pure h, pure_bind, List.append_nil, List.reverse_reverse]

variable {ε : Type} {f : β → Except ε Bool}

theorem exists_of_filterAuxM_error {x : β} {e : ε} (hx : x ∈ xs) (he : f x = .error e) (acc : List β) :
    ∃ y ∈ xs, ∃ e, f y = .error e ∧ xs.filterAuxM f acc = .error e := by
  induction xs generalizing acc with
  | nil => cases hx
  | cons first xs ih =>
    rw [List.filterAuxM]
    rcases hfirst : f first with e' | yes
    · exact ⟨first, List.mem_cons_self, e', hfirst, rfl⟩
    · rcases List.mem_cons.mp hx with rfl | hmem
      · rw [he] at hfirst
        cases hfirst
      · obtain ⟨y, hy, e', hfails, hfilter⟩ := ih hmem (cond yes (first :: acc) acc)
        exact ⟨y, List.mem_cons_of_mem _ hy, e', hfails, hfilter⟩

theorem exists_of_filterM_error {x : β} {e : ε} (hx : x ∈ xs) (he : f x = .error e) :
    ∃ y ∈ xs, ∃ e, f y = .error e ∧ xs.filterM f = .error e := by
  obtain ⟨y, hy, e', hfails, hfilter⟩ := exists_of_filterAuxM_error hx he []
  exact ⟨y, hy, e', hfails, by rw [List.filterM, hfilter]; rfl⟩

end Filter

/-! ## Rules that accept a token -/

variable {α : Type} {rules : List (Rule α)} {token : Text}

theorem accepts_eq {rule : Rule α} {yes : Bool} (h : rule.prompt.accepts token = .ok yes) :
    rule.accepts token = yes := by
  rw [Rule.accepts, h]
  cases yes <;> rfl

theorem accepting_of_answers (h : ∀ rule ∈ rules, ∃ yes, rule.prompt.accepts token = .ok yes) :
    accepting rules token = .ok (rules.filter (·.accepts token)) := by
  refine filterM_of_pure fun rule hrule => ?_
  obtain ⟨yes, hyes⟩ := h rule hrule
  rw [hyes, accepts_eq hyes]
  rfl

theorem accepting_of_panic {rule : Rule α} {why : Stop} (hrule : rule ∈ rules)
    (h : rule.prompt.accepts token = .error why) :
    ∃ rule ∈ rules, ∃ why, rule.prompt.accepts token = .error why ∧ accepting rules token = .error why :=
  exists_of_filterM_error (f := fun rule : Rule α => rule.prompt.accepts token) hrule h

theorem accepting_eq_nil (h : ∀ rule ∈ rules, rule.prompt.accepts token = .ok false) :
    accepting rules token = .ok [] := by
  rw [accepting_of_answers fun rule hrule => ⟨false, h rule hrule⟩, List.filter_eq_nil_iff.mpr fun rule hrule => ?_]
  rw [accepts_eq (h rule hrule)]
  decide

theorem mem_of_accepting {found : List (Rule α)} (h : accepting rules token = .ok found) :
    ∀ rule ∈ found, rule ∈ rules := by
  have hanswers : ∀ rule ∈ rules, ∃ yes, rule.prompt.accepts token = .ok yes := by
    intro rule hrule
    rcases hfails : rule.prompt.accepts token with e | yes
    · obtain ⟨-, -, e', -, hpanic⟩ := accepting_of_panic hrule hfails
      rw [hpanic] at h
      cases h
    · exact ⟨yes, rfl⟩
  rw [accepting_of_answers hanswers] at h
  obtain rfl := Except.ok.inj h
  exact fun rule hrule => (List.mem_filter.mp hrule).1

/-! ## One look-up -/

variable {b b' : Playbook α}

theorem lookupOrdered_cases (b : Playbook α) (token : Text) :
    (∃ why, b.lookupOrdered token = (.error why, b)) ∨ b.lookupOrdered token = (.ok none, b) ∨
      ∃ rule a, rule ∈ b.rules ∧ rule.prompt.accepts token = .ok true ∧ rule.reply.produce token = .ok a ∧
        b.lookupOrdered token = (.ok (some a), { b with cursor := b.cursor + 1 }) := by
  unfold lookupOrdered
  rcases hrule : b.rules[b.cursor]? with _ | rule
  · exact .inr (.inl rfl)
  simp only
  rcases haccepts : rule.prompt.accepts token with e | accepted
  · exact .inl ⟨e, rfl⟩
  cases accepted with
  | false => exact .inr (.inl rfl)
  | true =>
    simp only
    rcases hreply : rule.reply.produce token with e | a
    · exact .inl ⟨e, rfl⟩
    · exact .inr (.inr ⟨rule, a, List.mem_of_getElem? hrule, haccepts, hreply, rfl⟩)

theorem rules_lookup (b : Playbook α) (token : Text) : (b.lookup token).2.rules = b.rules := by
  unfold lookup
  cases b.discipline with
  | unordered => rfl
  | ordered =>
    rcases b.lookupOrdered_cases token with ⟨why, h⟩ | h | ⟨rule, a, -, -, -, h⟩ <;> simp only [h]

theorem lookup_of_quiet (h : ∀ rule ∈ b.rules, rule.prompt.accepts token = .ok false) :
    b.lookup token = (.ok none, b) := by
  unfold lookup
  cases b.discipline with
  | unordered =>
    simp only [lookupUnordered, accepting_eq_nil h]
    rfl
  | ordered =>
    simp only [lookupOrdered]
    rcases hrule : b.rules[b.cursor]? with _ | rule
    · rfl
    · simp only [h rule (List.mem_of_getElem? hrule)]

/-- The reply of a look-up, if it gave one. -/
def reply? : Except Stop (Option α) → Option α
  | .ok a => a
  | .error _ => none

/-- Without a reply the playbook is kept as it is, also when the look-up fails. -/
theorem lookup_eq_self (h : reply? (b.lookup token).1 = none) : (b.lookup token).2 = b := by
  unfold lookup at h ⊢
  cases hdiscipline : b.discipline with
  | unordered => rfl
  | ordered =>
    rw [hdiscipline] at h
    simp only at h ⊢
    rcases b.lookupOrdered_cases token with ⟨why, hlookup⟩ | hlookup | ⟨rule, a, -, -, -, hlookup⟩
    · rw [hlookup]
    · rw [hlookup]
    · rw [hlookup] at h
      cases h

theorem eq_of_lookup_none (h : b.lookup token = (.ok none, b')) : b' = b := by
  have hsame : (b.lookup token).2 = b := lookup_eq_self (by rw [h]; rfl)
  rwa [h] at hsame

theorem exists_rule_of_lookup {a : α} (h : b.lookup token = (.ok (some a), b')) :
    ∃ rule ∈ b.rules, rule.reply.produce token = .ok a := by
  unfold lookup at h
  cases hdiscipline : b.discipline with
  | ordered =>
    rw [hdiscipline] at h
    rcases b.lookupOrdered_cases token with ⟨why, hlookup⟩ | hlookup | ⟨rule, a', hmem, -, hproduce, hlookup⟩
    · simp only [hlookup] at h
      cases h
    · simp only [hlookup] at h
      cases h
    · simp only [hlookup] at h
      cases h
      exact ⟨rule, hmem, hproduce⟩
  | unordered =>
    rw [hdiscipline] at h
    have hreply : b.lookupUnordered token = .ok (some a) := (Prod.mk.inj h).1
    unfold lookupUnordered at hreply
    rcases hfound : accepting b.rules token with e | found
    · rw [hfound] at hreply
      cases hreply
    rw [hfound] at hreply
    rcases found with _ | ⟨rule, _ | ⟨rule', more⟩⟩
    · cases hreply
    · refine ⟨rule, mem_of_accepting hfound rule (List.mem_singleton_self _), ?_⟩
      rcases hproduce : rule.reply.produce token with e | x
      · simp only [hproduce, bind, Except.bind] at hreply
        cases hreply
      · simp only [hproduce, bind, Except.bind] at hreply
        cases hreply
        rfl
    · cases hreply

/-! ## Several look-ups -/

/-- Looks tokens up one after another until a look-up fails: the replies, the failure, and the playbook at last. -/
def answers : Playbook α → List Text → List α × Option Stop × Playbook α
  | b, [] => ([], none, b)
  | b, token :: more =>
    match b.lookup token with
    | (.error why, b) => ([], some why, b)
    | (.ok none, b) => answers b more
    | (.ok (some a), b) => (a :: (answers b more).1, (answers b more).2)

/-! ## Scripts -/

/-- The reply of a script is the one of the rule that it waits for, and then it waits for the next one. -/
theorem rule_of_lookup_ordered {a : α} (hordered : b.discipline = .ordered)
    (h : b.lookup token = (.ok (some a), b')) :
    ∃ rule, b.rules[b.cursor]? = some rule ∧ rule.prompt.accepts token = .ok true ∧
      rule.reply.produce token = .ok a ∧ b' = { b with cursor := b.cursor + 1 } := by
  simp only [lookup, hordered, lookupOrdered] at h
  rcases hrule : b.rules[b.cursor]? with _ | rule <;> simp only [hrule] at h
  · cases h
  rcases haccepts : rule.prompt.accepts token with e | _ | _ <;> simp only [haccepts] at h
  · cases h
  · cases h
  rcases hproduce : rule.reply.produce token with e | a' <;> simp only [hproduce] at h <;> cases h
  exact ⟨rule, rfl, haccepts, hproduce, by rw [hordered]⟩

/-- **A script of fixed replies gives them in order**, beginning with the one that it waits for. -/
theorem answers_prefix {replies : List α} (hordered : b.discipline = .ordered)
    (hfixed : b.rules.map Rule.reply = replies.map .fixed) (tokens : List Text) :
    (b.answers tokens).1 <+: replies.drop b.cursor := by
  induction tokens generalizing b with
  | nil => exact List.nil_prefix
  | cons token more ih =>
    rw [answers]
    rcases hlookup : b.lookup token with ⟨why | _ | a, b'⟩
    · exact List.nil_prefix
    · obtain rfl := eq_of_lookup_none hlookup
      exact ih hordered hfixed
    · obtain ⟨rule, hrule, -, hproduce, rfl⟩ := rule_of_lookup_ordered hordered hlookup
      have hreply := congrArg (·[b.cursor]?) hfixed
      simp only [List.getElem?_map, hrule, Option.map_some] at hreply
      obtain ⟨reply, hget, hsame⟩ := Option.map_eq_some_iff.mp hreply.symm
      rw [← hsame] at hproduce
      obtain rfl := Except.ok.inj hproduce
      obtain ⟨hlt, rfl⟩ := List.getElem?_eq_some_iff.mp hget
      rw [List.drop_eq_getElem_cons hlt, List.cons_prefix_cons]
      exact ⟨rfl, ih hordered hfixed⟩

end Playbook

end Dialogue
