import Dialogue.Prompt

/-!
# Playbooks

A playbook holds rules and looks a token up among them. An ordered one is a script: it waits for one prompt at a
time and uses each rule once, in order. An unordered one tries every rule on every token, and a token that several
rules accept is an error.

* `Discipline`, `Playbook`, `Playbook.ofRules`;
* `Playbook.lookup`: the reply to a token, and the playbook after it;
* `Playbook.isExhausted`, `Playbook.shown`.
-/

namespace Dialogue

/-- How a playbook goes through its rules: one rule after another, or all rules every time. -/
inductive Discipline where
  | ordered
  | unordered
  deriving DecidableEq, Repr

/-- Rules, and how many of them an ordered playbook has used. -/
structure Playbook (α : Type) where
  rules : List (Rule α)
  discipline : Discipline
  cursor : Nat

namespace Playbook

variable {α : Type}

def ofRules (discipline : Discipline) (rules : List (Rule α)) : Playbook α := ⟨rules, discipline, 0⟩

def size (b : Playbook α) : Nat := b.rules.length

def isEmpty (b : Playbook α) : Bool := b.rules.isEmpty

/-- Whether an ordered playbook has used every rule; an unordered one is never used up unless it is empty. -/
def isExhausted (b : Playbook α) : Bool :=
  match b.discipline with
  | .ordered => b.rules.length ≤ b.cursor
  | .unordered => b.rules.isEmpty

/-- Looks a token up in script order. -/
def lookupOrdered (b : Playbook α) (token : Text) : Except Stop (Option α) × Playbook α :=
  match b.rules[b.cursor]? with
  | none => (.ok none, b)
  | some rule =>
    match rule.prompt.accepts token with
    | .error e => (.error e, b)
    | .ok false => (.ok none, b)
    | .ok true =>
      match rule.reply.produce token with
      | .error e => (.error e, b)
      | .ok a => (.ok (some a), { b with cursor := b.cursor + 1 })

/-- The rules that accept a token, in order. -/
def accepting (rules : List (Rule α)) (token : Text) : Except Stop (List (Rule α)) :=
  rules.filterM fun rule => rule.prompt.accepts token

/-- Looks a token up among all rules. -/
def lookupUnordered (b : Playbook α) (token : Text) : Except Stop (Option α) := do
  match ← accepting b.rules token with
  | [] => return none
  | [rule] => return some (← rule.reply.produce token)
  | several => throw (.error (.matching (.ambiguous token several.length)))

/-- The reply to a token, if a rule accepts it, and the playbook after the look-up. -/
def lookup (b : Playbook α) (token : Text) : Except Stop (Option α) × Playbook α :=
  match b.discipline with
  | .ordered => b.lookupOrdered token
  | .unordered => (b.lookupUnordered token, b)

/-- A playbook as messages show it. -/
def shown (display : α → Text) (b : Playbook α) : Text :=
  let name := match b.discipline with
    | .ordered => Text.lit "Ordered"
    | .unordered => Text.lit "Unordered"
  Text.lit "MatcherSet \x7b matchers: [" ++ (Text.lit ", ").intercalate (b.rules.map (Rule.shown display)) ++
    Text.lit "], discipline: " ++ name ++ Text.lit ", cursor: " ++ Text.decimal b.cursor ++ Text.lit " \x7d"

end Playbook

end Dialogue
