import Dialogue.Proofs.Perform
import Dialogue.Proofs.Playbook

/-!
# Looking up among all rules

An unordered playbook tries all of its rules on every token. What it answers depends on how many of them accept the
token, and neither on their order nor on what was looked up before.

* `lookupM`, `lookup_unordered`: a look-up whose tests and replies may do more than answer;
* `Settles`: what the number of accepting rules makes of a look-up;
* `settles_lookupM`, `Settles.perm`, `Settles.unique`: look-ups are settled that way, in every order of the rules;
* `perform_unordered`, `lookup_of_panic`: what earlier look-ups and panicking prompts do;
* **`lookup_any_order`**: order and history do not matter.
-/

namespace Dialogue.Playbook

variable {α : Type} {b : Playbook α} {rules : List (Rule α)} {token : Text}

/-! ## Look-ups that do more than answer -/

/-- A look-up among all rules. Testing a prompt and asking for a reply may also change a state, or note that they were
done, as `m` says. -/
def lookupM {m : Type → Type} [Monad m] [MonadExcept Stop m] (accepts : Rule α → m Bool) (produce : Rule α → m α)
    (token : Text) (rules : List (Rule α)) : m (Option α) := do
  match ← rules.filterM accepts with
  | [] => return none
  | [rule] => return some (← produce rule)
  | several => throw (.error (.matching (.ambiguous token several.length)))

theorem lookup_unordered (hunordered : b.discipline = .unordered) (token : Text) :
    b.lookup token =
      (lookupM (fun rule => rule.prompt.accepts token) (fun rule => rule.reply.produce token) token b.rules, b) := by
  rw [lookup, hunordered]
  rfl

section Settles

variable {m : Type → Type} [Monad m] [MonadExcept Stop m] {p : Rule α → Bool} {produce : Rule α → m α}
  {x y : m (Option α)}

/-- What a look-up does when `p` says which rules accept the token. Asking for a reply is the only thing that it can do
besides answering, and it asks for none unless a single rule accepts the token. -/
structure Settles (p : Rule α → Bool) (produce : Rule α → m α) (token : Text) (rules : List (Rule α))
    (x : m (Option α)) : Prop where
  none : rules.countP p = 0 → x = pure none
  single : rules.countP p = 1 → ∀ rule ∈ rules, p rule → x = some <$> produce rule
  several : 2 ≤ rules.countP p → x = throw (.error (.matching (.ambiguous token (rules.countP p))))

theorem Settles.perm {rules' : List (Rule α)} (h : Settles p produce token rules x) (hperm : rules.Perm rules') :
    Settles p produce token rules' x := by
  obtain ⟨hnone, hsingle, hseveral⟩ := h
  rw [hperm.countP_eq p] at hnone hsingle hseveral
  exact ⟨hnone, fun hcount rule hrule => hsingle hcount rule (hperm.mem_iff.mpr hrule), hseveral⟩

/-- There is only one thing that a look-up can do. -/
theorem Settles.unique (hx : Settles p produce token rules x) (hy : Settles p produce token rules y) : x = y := by
  rcases hcount : rules.countP p with _ | _ | n
  · rw [hx.none hcount, hy.none hcount]
  · obtain ⟨rule, hrule, hp⟩ := List.countP_pos_iff.mp (by omega : 0 < rules.countP p)
    rw [hx.single hcount rule hrule hp, hy.single hcount rule hrule hp]
  · rw [hx.several (by omega), hy.several (by omega)]

variable [LawfulMonad m]

/-- When testing does nothing but answer, the number of accepting rules settles the look-up. -/
theorem settles_lookupM {accepts : Rule α → m Bool} (h : ∀ rule ∈ rules, accepts rule = pure (p rule)) :
    Settles p produce token rules (lookupM accepts produce token rules) := by
  have hcount : rules.countP p = (rules.filter p).length := List.countP_eq_length_filter
  simp only [lookupM, filterM_of_pure h, pure_bind]
  refine ⟨fun hnone => ?_, fun hsingle rule hrule hp => ?_, fun hseveral => ?_⟩
  · have hfound : rules.filter p = [] := List.length_eq_zero_iff.mp (hcount.symm.trans hnone)
    rw [hfound]
  · obtain ⟨found, hfound⟩ := List.length_eq_one_iff.mp (hcount.symm.trans hsingle)
    have hmem : rule ∈ rules.filter p := List.mem_filter.mpr ⟨hrule, hp⟩
    rw [hfound] at hmem ⊢
    obtain rfl := List.mem_singleton.mp hmem
    exact bind_pure_comp some (produce rule)
  · rw [hcount] at hseveral ⊢
    rcases hfound : rules.filter p with _ | ⟨rule, _ | ⟨rule', more⟩⟩
    · rw [hfound] at hseveral
      cases hseveral
    · rw [hfound] at hseveral
      exact absurd hseveral (Nat.not_succ_le_self 1)
    · rfl

end Settles

/-! ## Look-ups of an unordered playbook -/

/-- An unordered playbook is left as it was, whatever is looked up and whether the look-ups fail or not. -/
theorem perform_unordered (hunordered : b.discipline = .unordered) (tokens : List Text) :
    (perform lookup b tokens).2 = b := by
  induction tokens with
  | nil => rfl
  | cons token more ih => rw [perform, lookup_unordered hunordered, ih]

theorem lookup_of_panic (hunordered : b.discipline = .unordered) {rule : Rule α} {why : Stop} (hrule : rule ∈ b.rules)
    (h : rule.prompt.accepts token = .error why) :
    ∃ rule ∈ b.rules, ∃ why, rule.prompt.accepts token = .error why ∧ (b.lookup token).1 = .error why := by
  obtain ⟨rule', hrule', why', hpanic, haccepting⟩ := accepting_of_panic hrule h
  refine ⟨rule', hrule', why', hpanic, ?_⟩
  rw [lookup, hunordered]
  simp only [lookupUnordered, haccepting]
  rfl

theorem settles_lookup (hunordered : b.discipline = .unordered)
    (hanswers : ∀ rule ∈ b.rules, ∃ yes, rule.prompt.accepts token = .ok yes) :
    Settles (·.accepts token) (·.reply.produce token) token b.rules (b.lookup token).1 := by
  rw [lookup_unordered hunordered]
  refine settles_lookupM fun rule hrule => ?_
  obtain ⟨yes, hyes⟩ := hanswers rule hrule
  rw [hyes, accepts_eq hyes]
  rfl

/-- **The result of a look-up among all rules depends neither on their order nor on the look-ups before.** Take an
unordered playbook, put its rules in any order, look any tokens up, with or without success, and then one more.
* The playbook is left as it was by all of these look-ups.
* When no prompt panics on the token, the result is the same as without all this: no reply when no rule accepts the
  token, the reply of the only rule that does, or the failure of that reply, and the error with the token and the number
  of accepting rules when there are several. The reply of that only rule is the only one asked for, since the same
  look-up does nothing else when asking for a reply may have any effect.
* When some prompt panics on the token, the look-up panics like one of the prompts. -/
theorem lookup_any_order (hunordered : b.discipline = .unordered) (hperm : rules.Perm b.rules)
    (earlier : List Text) (token : Text) :
    let after := (perform lookup { b with rules := rules } earlier).2
    (after = { b with rules := rules } ∧ (after.lookup token).2 = after) ∧
    ((∀ rule ∈ b.rules, ∃ yes, rule.prompt.accepts token = .ok yes) →
      (after.lookup token).1 = (b.lookup token).1 ∧
      Settles (·.accepts token) (·.reply.produce token) token b.rules (after.lookup token).1 ∧
      (after.lookup token).1 = lookupM (·.prompt.accepts token) (·.reply.produce token) token rules ∧
      ∀ (m : Type → Type) [Monad m] [LawfulMonad m] [MonadExcept Stop m] (produce : Rule α → m α),
        Settles (·.accepts token) produce token b.rules
          (lookupM (fun rule => pure (rule.accepts token)) produce token rules)) ∧
    ((∃ rule ∈ b.rules, ∃ why, rule.prompt.accepts token = .error why) →
      ∃ rule ∈ b.rules, ∃ why, rule.prompt.accepts token = .error why ∧ (after.lookup token).1 = .error why) := by
  intro after
  have hafter : after = { b with rules := rules } :=
    perform_unordered (b := { b with rules := rules }) hunordered earlier
  have hafter_unordered : after.discipline = .unordered := by rw [hafter]; exact hunordered
  have hsame : after.rules.Perm b.rules := by rw [hafter]; exact hperm
  refine ⟨⟨hafter, by rw [lookup_unordered hafter_unordered]⟩, fun hanswers => ?_, ?_⟩
  · have hsettles : Settles (·.accepts token) (·.reply.produce token) token b.rules (after.lookup token).1 :=
      (settles_lookup hafter_unordered fun rule hrule => hanswers rule (hsame.mem_iff.mp hrule)).perm hsame
    refine ⟨hsettles.unique (settles_lookup hunordered hanswers), hsettles, ?_, fun m _ _ _ produce => ?_⟩
    · rw [lookup_unordered hafter_unordered, hafter]
    · exact (settles_lookupM fun rule _ => rfl).perm hperm
  · rintro ⟨rule, hrule, why, hpanic⟩
    obtain ⟨rule', hrule', hresult⟩ := lookup_of_panic hafter_unordered (hsame.mem_iff.mpr hrule) hpanic
    exact ⟨rule', hsame.mem_iff.mp hrule', hresult⟩

/-- Both rules accept a token, and the reply of the one tried first would panic; it does for a token that only this
rule accepts. Replies that count how often they are asked for are asked for once, and only for the latter token. -/
theorem lookup_any_order_of_panicking_reply :
    let boom : Text := ['b', 'o', 'o', 'm']
    let bang : Text := ['b', 'a', 'n', 'g']
    let four : Rule Nat := ⟨.custom fun token => if token = [] then .error ['e'] else .ok (token.length == 4),
      .computed fun _ => .panicked ['p']⟩
    let rules : List (Rule Nat) := [four, ⟨.exact boom, .fixed 7⟩]
    let after := (perform lookup (ofRules .unordered rules) [[], bang, boom]).2
    let counting (token : Text) : ExceptT Stop (StateM Nat) (Option Nat) :=
      lookupM (fun rule => pure (rule.accepts token)) (fun _ => do modify (· + 1); return 0) token rules
    ((after.lookup boom).1 = .error (.error (.matching (.ambiguous boom 2))) ∧
      (counting boom).run.run 0 = (.error (.error (.matching (.ambiguous boom 2))), 0)) ∧
    ((after.lookup bang).1 = .error (.panic ['p']) ∧ (counting bang).run.run 0 = (.ok (some 0), 1)) ∧
    (after.lookup []).1 = .error (.panic ['e']) := by
  intro boom bang four rules after counting
  have hany := lookup_any_order (b := ofRules .unordered rules.reverse) rfl (List.reverse_perm rules).symm
    [[], bang, boom]
  have hfour : four ∈ rules.reverse := List.mem_reverse.mpr List.mem_cons_self
  have hanswers : ∀ token ≠ [], ∀ rule ∈ rules.reverse, ∃ yes, rule.prompt.accepts token = .ok yes := by
    intro token htoken rule hrule
    rcases List.mem_cons.mp (List.mem_reverse.mp hrule) with rfl | hexact
    · exact ⟨token.length == 4, by simp only [four, Prompt.accepts, if_neg htoken]; rfl⟩
    · obtain rfl := List.mem_singleton.mp hexact
      exact ⟨_, rfl⟩
  refine ⟨?_, ?_, ?_⟩
  · obtain ⟨-, hsettles, -, hcounting⟩ := (hany boom).2.1 (hanswers boom (List.cons_ne_nil _ _))
    have hcount := (hcounting (ExceptT Stop (StateM Nat)) fun _ => do modify (· + 1); return 0).several (by decide)
    exact ⟨hsettles.several (by decide), congrArg (fun x => x.run.run 0) hcount⟩
  · obtain ⟨-, hsettles, -, hcounting⟩ := (hany bang).2.1 (hanswers bang (List.cons_ne_nil _ _))
    have hcount := (hcounting (ExceptT Stop (StateM Nat)) fun _ => do modify (· + 1); return 0).single rfl four
      hfour rfl
    exact ⟨hsettles.single rfl four hfour rfl, congrArg (fun x => x.run.run 0) hcount⟩
  · obtain ⟨rule, hrule, why, hpanic, hresult⟩ := (hany []).2.2 ⟨four, hfour, .panic ['e'], rfl⟩
    rcases List.mem_cons.mp (List.mem_reverse.mp hrule) with rfl | hexact
    · cases hpanic
      exact hresult
    · obtain rfl := List.mem_singleton.mp hexact
      cases hpanic

end Dialogue.Playbook
