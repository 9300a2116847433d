import Dialogue.Proofs.Perform
import Dialogue.Proofs.Playbook

/-!
# Scripts answer in order

A script waits for the prompt of one rule at a time. Looked at over any tokens, it gives the reply of each rule to the
first token after the reply before on which that rule fires, and no other way to go through the tokens gives more
replies.

* `Rule.Fires`, `reply_lookup_iff`, `lookup_ordered`: what one look-up of a script comes to;
* `Log.replies`, `perform_script`, `lookup_of_log`: where a script is after some look-ups;
* `lt_length_repliesTo_place`: it is never behind any other choice of tokens;
* **`script_in_order`**: what a history of look-ups looks like.
-/

namespace Dialogue

/-- A rule fires on a token when its prompt accepts it and its reply does not fail. -/
def Rule.Fires {α : Type} (rule : Rule α) (token : Text) (a : α) : Prop :=
  rule.prompt.accepts token = .ok true ∧ rule.reply.produce token = .ok a

namespace Playbook

variable {α : Type} {b : Playbook α} {token : Text}

/-! ## One look-up of a script -/

theorem reply_lookup_iff (hordered : b.discipline = .ordered) {a : α} :
    reply? (b.lookup token).1 = some a ↔ ∃ rule, b.rules[b.cursor]? = some rule ∧ rule.Fires token a := by
  constructor
  · intro h
    rcases hlookup : b.lookup token with ⟨why | _ | a', b'⟩ <;> rw [hlookup] at h <;> cases h
    obtain ⟨rule, hrule, haccepts, hproduce, -⟩ := rule_of_lookup_ordered hordered hlookup
    exact ⟨rule, hrule, haccepts, hproduce⟩
  · rintro ⟨rule, hrule, haccepts, hproduce⟩
    simp only [lookup, hordered, lookupOrdered, hrule, haccepts, hproduce, reply?]

/-- A look-up of a script changes nothing but the cursor, which counts the replies. -/
theorem lookup_ordered (hordered : b.discipline = .ordered) :
    (b.lookup token).2 = { b with cursor := b.cursor + (reply? (b.lookup token).1).toList.length } := by
  rcases hreply : reply? (b.lookup token).1 with _ | a
  · exact lookup_eq_self hreply
  · rcases hlookup : b.lookup token with ⟨why | _ | a', b'⟩ <;> rw [hlookup] at hreply <;> cases hreply
    obtain ⟨rule, -, -, -, rfl⟩ := rule_of_lookup_ordered hordered hlookup
    rfl

/-! ## Several look-ups -/

/-- Tokens that were looked up, each with its result, the earliest first. -/
abbrev Log (α : Type) := List (Text × Except Stop (Option α))

/-- The replies in a log. -/
def Log.replies (log : Log α) : List α := log.filterMap fun e => reply? e.2

theorem Log.replies_append (log more : Log α) : replies (log ++ more) = log.replies ++ replies more :=
  List.filterMap_append

theorem Log.replies_singleton (token : Text) (result : Except Stop (Option α)) :
    replies [(token, result)] = (reply? result).toList := by
  rcases hreply : reply? result with _ | a <;> simp [replies, hreply]

/-- The script of some rules that has used `n` of them. -/
abbrev script (rules : List (Rule α)) (n : Nat) : Playbook α := ⟨rules, .ordered, n⟩

section Script

variable {rules : List (Rule α)} {tokens : List Text}

theorem perform_script (rules : List (Rule α)) (tokens : List Text) :
    let log : Log α := (perform lookup (script rules 0) tokens).1
    (perform lookup (script rules 0) tokens).2 = script rules log.replies.length ∧
      log.replies.length ≤ rules.length := by
  let I := fun (log : Log α) b => b = script rules log.replies.length ∧ log.replies.length ≤ rules.length
  have hstep : ∀ (log : Log α) b token, I log b → I (log ++ [(token, (b.lookup token).1)]) (b.lookup token).2 := by
    rintro log b token ⟨rfl, hle⟩
    dsimp only [I]
    rw [lookup_ordered rfl, Log.replies_append, Log.replies_singleton, List.length_append]
    refine ⟨rfl, ?_⟩
    rcases hreply : reply? ((script rules log.replies.length).lookup token).1 with _ | a
    · exact hle
    · obtain ⟨rule, hrule, -⟩ := (reply_lookup_iff rfl).mp hreply
      exact (List.getElem?_eq_some_iff.mp hrule).1
  have hstart : I [] (script rules 0) := ⟨rfl, Nat.zero_le _⟩
  exact perform_keeps hstep hstart tokens

theorem lookup_of_log {before after : Log α} {result : Except Stop (Option α)}
    (h : (perform lookup (script rules 0) tokens).1 = before ++ (token, result) :: after) :
    ((script rules before.replies.length).lookup token).1 = result := by
  have hstate := (perform_script rules (before.map Prod.fst)).1
  rw [(perform_eq_append h).1] at hstate
  rw [← hstate]
  exact (answer_of_perform h).1

/-! ## Any choice of tokens -/

/-- The replies that a script gives to the first `n` tokens. -/
def repliesTo (rules : List (Rule α)) (tokens : List Text) (n : Nat) : List α :=
  Log.replies (perform lookup (script rules 0) (tokens.take n)).1

theorem repliesTo_succ {n : Nat} (h : tokens[n]? = some token) :
    repliesTo rules tokens (n + 1) = repliesTo rules tokens n ++
      (reply? ((script rules (repliesTo rules tokens n).length).lookup token).1).toList := by
  have hstate := (perform_script rules (tokens.take n)).1
  rw [repliesTo, List.take_add_one, h, Option.toList_some, perform_append, Log.replies_append, perform, perform,
    Log.replies_singleton, hstate]
  rfl

theorem length_repliesTo_mono {m n : Nat} (h : m ≤ n) :
    (repliesTo rules tokens m).length ≤ (repliesTo rules tokens n).length := by
  have htake : tokens.take n = tokens.take m ++ (tokens.take n).drop m := by
    conv_lhs => rw [← List.take_append_drop m (tokens.take n), List.take_take, Nat.min_eq_left h]
  rw [repliesTo, repliesTo, htake, perform_append, Log.replies_append, List.length_append]
  exact Nat.le_add_right _ _

/-- A script that has got as far as a rule is beyond it after a token on which that rule fires. -/
theorem lt_length_repliesTo {i n : Nat} {rule : Rule α} {a : α} (hi : i ≤ (repliesTo rules tokens n).length)
    (hrule : rules[i]? = some rule) (htoken : tokens[n]? = some token) (hfires : rule.Fires token a) :
    i < (repliesTo rules tokens (n + 1)).length := by
  rcases Nat.lt_or_eq_of_le hi with hlt | rfl
  · exact Nat.lt_of_lt_of_le hlt (length_repliesTo_mono (Nat.le_succ n))
  · have hreply : reply? ((script rules (repliesTo rules tokens n).length).lookup token).1 = some a :=
      (reply_lookup_iff rfl).mpr ⟨rule, hrule, hfires⟩
    rw [repliesTo_succ htoken, hreply, List.length_append]
    exact Nat.lt_succ_self _

/-- **A script stays ahead**: when each of the first rules fires at its own place, one place after another, the script
is beyond a rule when the place of that rule is over. -/
theorem lt_length_repliesTo_place {k : Nat} {place : Nat → Nat} (hplace : ∀ i, i + 1 < k → place i < place (i + 1))
    (hfires : ∀ i < k, ∃ rule token a, rules[i]? = some rule ∧ tokens[place i]? = some token ∧ rule.Fires token a)
    {i : Nat} (hi : i < k) : i < (repliesTo rules tokens (place i + 1)).length := by
  induction i with
  | zero =>
    obtain ⟨rule, token, a, hrule, htoken, ha⟩ := hfires 0 hi
    exact lt_length_repliesTo (Nat.zero_le _) hrule htoken ha
  | succ i ih =>
    obtain ⟨rule, token, a, hrule, htoken, ha⟩ := hfires (i + 1) hi
    have hbefore := ih (Nat.lt_of_succ_lt hi)
    exact lt_length_repliesTo (Nat.lt_of_lt_of_le hbefore (length_repliesTo_mono (hplace i hi))) hrule htoken ha

end Script

/-- **A script answers in order and loses no opportunity.** Look any tokens up in a script, one after another, whether
the look-ups fail or not.
* The cursor is the number of replies, and the script is used up exactly when there were as many as it has rules.
* The reply number `i` is the one of rule number `i` to the first token, after that of the reply before, on which the
  rule fires.
* A look-up without a reply, failed or not, leaves the script as it was.
* When the first `k` rules fire at some places, one after another, there were at least `k` replies. -/
theorem script_in_order (rules : List (Rule α)) (tokens : List Text) :
    let log : Log α := (perform lookup (ofRules .ordered rules) tokens).1
    let b := (perform lookup (ofRules .ordered rules) tokens).2
    (b.cursor = log.replies.length ∧ b.cursor ≤ rules.length ∧
      (b.isExhausted ↔ log.replies.length = rules.length)) ∧
    (∀ (before skipped : Log α) (token : Text) (a : α) (after : Log α),
      log = before ++ skipped ++ (token, .ok (some a)) :: after → skipped.replies = [] →
      ∃ rule, rules[before.replies.length]? = some rule ∧ rule.Fires token a ∧
        ∀ e ∈ skipped, ∀ a', ¬ rule.Fires e.1 a') ∧
    (∀ (before : Log α) (token : Text) (result : Except Stop (Option α)) (after : Log α),
      log = before ++ (token, result) :: after → (∀ a, result ≠ .ok (some a)) →
      (perform lookup (ofRules .ordered rules) (before.map Prod.fst ++ [token])).2 =
        (perform lookup (ofRules .ordered rules) (before.map Prod.fst)).2) ∧
    ∀ (k : Nat) (place : Nat → Nat), (∀ i, i + 1 < k → place i < place (i + 1)) →
      (∀ i < k, ∃ rule token a, rules[i]? = some rule ∧ tokens[place i]? = some token ∧ rule.Fires token a) →
      k ≤ log.replies.length := by
  intro log b
  obtain ⟨hb, hle⟩ : b = script rules log.replies.length ∧ log.replies.length ≤ rules.length :=
    perform_script rules tokens
  refine ⟨⟨by rw [hb], by rwa [hb], ?_⟩, fun before skipped token a after hlog hskipped => ?_,
    fun before token result after hlog hnone => ?_, fun k place hplace hfires => ?_⟩
  · rw [hb, isExhausted, decide_eq_true_iff]
    exact ⟨fun h => Nat.le_antisymm hle h, fun h => Nat.le_of_eq h.symm⟩
  · have hcount : ∀ part : Log α, part.replies = [] → (before ++ part).replies.length = before.replies.length :=
      fun part hpart => by rw [Log.replies_append, hpart, List.append_nil]
    have hreply := lookup_of_log hlog
    rw [hcount skipped hskipped] at hreply
    obtain ⟨rule, hrule, hfires⟩ := (reply_lookup_iff rfl).mp (congrArg reply? hreply)
    refine ⟨rule, hrule, hfires, fun e he a' hfires' => ?_⟩
    -- the script waited for the same rule when it skipped the token
    obtain ⟨earlier, later, rfl⟩ := List.append_of_mem he
    rw [Log.replies_append, List.append_eq_nil_iff] at hskipped
    obtain ⟨hearlier, hlater⟩ := hskipped
    rw [← List.append_assoc, List.append_assoc, List.cons_append] at hlog
    have hresult := lookup_of_log hlog
    rw [hcount earlier hearlier] at hresult
    have hmissed := (reply_lookup_iff rfl).mpr ⟨rule, hrule, hfires'⟩
    rw [hresult] at hmissed
    rw [← List.singleton_append, Log.replies_append, Log.replies_singleton, hmissed] at hlater
    cases hlater
  · have hanswer := (answer_of_perform hlog).1
    rw [perform_append, perform, perform]
    refine lookup_eq_self ?_
    rw [hanswer]
    rcases result with why | _ | a
    · rfl
    · rfl
    · exact absurd rfl (hnone a)
  · rcases k with _ | k
    · exact Nat.zero_le _
    · have hlast := lt_length_repliesTo_place hplace hfires (Nat.lt_succ_self k)
      have hall : repliesTo rules tokens tokens.length = log.replies := by rw [repliesTo, List.take_length]; rfl
      obtain ⟨rule, token, a, -, htoken, -⟩ := hfires k (Nat.lt_succ_self k)
      have hplaces : place k + 1 ≤ tokens.length := (List.getElem?_eq_some_iff.mp htoken).1
      rw [← hall]
      exact Nat.lt_of_lt_of_le hlast (length_repliesTo_mono hplaces)

/-- The prompt of the second rule comes too early, the first rule fails once and is waited for again, and then each of
them fires at the first place left. -/
theorem script_in_order_of_early_token :
    let first : Rule Nat := ⟨.custom fun token => .ok (token.length == 1),
      .computed fun token => if token = ['0'] then .failed [] else .value token.length⟩
    let log : Log Nat := (perform lookup (ofRules .ordered [first, ⟨.exact ['b', 'b'], .fixed 7⟩])
      [['b', 'b'], ['0'], ['a'], ['a'], ['b', 'b']]).1
    log.replies = [1, 7] ∧ 2 ≤ log.replies.length := by
  intro first log
  obtain ⟨-, -, -, hplaces⟩ := script_in_order [first, ⟨.exact ['b', 'b'], .fixed 7⟩]
    [['b', 'b'], ['0'], ['a'], ['a'], ['b', 'b']]
  refine ⟨rfl, hplaces 2 (fun i => 2 * i + 2) (fun i _ => by omega) fun i hi => ?_⟩
  match i, hi with
  | 0, _ => exact ⟨first, ['a'], 1, rfl, rfl, rfl, rfl⟩
  | 1, _ => exact ⟨⟨.exact ['b', 'b'], .fixed 7⟩, ['b', 'b'], 7, rfl, rfl, rfl, rfl⟩

end Playbook

end Dialogue
