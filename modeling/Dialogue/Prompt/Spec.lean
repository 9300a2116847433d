import Dialogue.Playbook
import Dialogue.Prompt.Standard

/-!
# Rules as they are written down

* `PromptSpec`, `RuleSpec`;
* `Playbook.build`: the playbook of some rules, or the error of the first pattern that cannot be read.
-/

namespace Dialogue

variable [Regex.Library]

/-- A prompt as it is written down: an exact text, a pattern for whole tokens, or a question that is to be answered with
yes. -/
inductive PromptSpec where
  | exact (text : Text)
  | pattern (source : Text)
  | predicate (p : Predicate)
  deriving DecidableEq, Repr

def PromptSpec.prompt : PromptSpec → Except Error Prompt
  | .exact text => .ok (.exact text)
  | .pattern source => Prompt.ofPattern source
  | .predicate p => .ok (.custom p.test)

/-- A rule as it is written down. -/
structure RuleSpec (α : Type) where
  prompt : PromptSpec
  reply : Reply α

def RuleSpec.rule {α : Type} (s : RuleSpec α) : Except Error (Rule α) := do
  return ⟨← s.prompt.prompt, s.reply⟩

def Playbook.build {α : Type} (discipline : Discipline) (specs : List (RuleSpec α)) : Except Error (Playbook α) := do
  return .ofRules discipline (← specs.mapM RuleSpec.rule)

end Dialogue
