import Dialogue.Playbook
import Dialogue.Scenario.Answer

/-!
# Looking tokens up

A scenario about copies of one playbook, of which one is in use at a time.

* `LookupStep`, `Lookups`, `Lookups.run`.
-/

namespace Dialogue.Scenario

/-- A step with a playbook and its copies, or with a single one of its prompts and rules. -/
inductive LookupStep where
  | lookup (token : Text)
  | state
  | copy
  | use (i : Nat)
  | accepts (i : Nat) (token : Text)
  | produce (i : Nat) (token : Text)
  | showRule (i : Nat)
  | showBook

/-- Copies of a playbook, and the number of the one in use. -/
structure Lookups where
  books : List (Playbook Text)
  current : Nat

namespace Lookups

def noRule : Result := .missing (Text.lit "no_matcher")

def stepWith (s : Lookups) (b : Playbook Text) : LookupStep → Result × Lookups
  | .lookup token =>
    let (r, b) := b.lookup token
    let s := { s with books := s.books.set s.current b }
    match r with
    | .ok none => (.nothing, s)
    | .ok (some reply) => (.text reply, s)
    | .error why => (.ofStop why, s)
  | .state => (.state b.size b.isEmpty b.isExhausted (b.discipline == .ordered), s)
  | .copy => (.count s.books.length, { s with books := s.books ++ [b] })
  | .use i => (.count i, { s with current := i })
  | .accepts i token =>
    match b.rules[i]? with
    | none => (noRule, s)
    | some rule =>
      match rule.prompt.accepts token with
      | .ok yes => (.bool yes, s)
      | .error why => (.ofStop why, s)
  | .produce i token =>
    match b.rules[i]? with
    | none => (noRule, s)
    | some rule =>
      match rule.reply.produce token with
      | .ok reply => (.text reply, s)
      | .error why => (.ofStop why, s)
  | .showRule i =>
    match b.rules[i]? with
    | none => (noRule, s)
    | some rule => (.text (rule.shown Quoted.string), s)
  | .showBook => (.text (b.shown Quoted.string), s)

def step (s : Lookups) (a : LookupStep) : Result × Lookups :=
  match s.books[s.current]? with
  | none => (noRule, s)
  | some b => s.stepWith b a

def run (s : Lookups) : List LookupStep → List Result
  | [] => []
  | a :: more => (s.step a).1 :: (s.step a).2.run more

end Lookups

end Dialogue.Scenario
