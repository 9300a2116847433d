import Dialogue.Error
import Dialogue.Regex.Pattern
import Dialogue.Regex.Search

/-!
# Prompts and replies

A prompt says which tokens it waits for, and a reply what is answered. What the user supplies may panic, and a
computed reply may fail.

* `Prompt`, `Prompt.ofPattern`, `Prompt.accepts`, `Prompt.shown`;
* `Produced`, `Reply`, `Reply.produce`, `Reply.shown`;
* `Rule`: a prompt with its reply.
-/

namespace Dialogue

/-- Which tokens are waited for: the one equal to a text, those with a part that matches a pattern, or those that a
predicate accepts, which may panic with a text instead. -/
inductive Prompt where
  | exact (text : Text)
  | pattern (source : Text) (program : Regex.Program)
  | custom (predicate : Text → Except Text Bool)

namespace Prompt

/-- A pattern with the beginning and the end of the token pasted around it. -/
def anchored (pattern : Text) : Text := Text.lit "^(?:" ++ pattern ++ Text.lit ")$"

/-- The prompt for the tokens that a pattern matches as a whole. -/
def ofPattern [Regex.Library] (pattern : Text) : Except Error Prompt :=
  match Regex.parse? (anchored pattern) with
  | some r => .ok (.pattern (anchored pattern) (.ofRegex r))
  | none => .error (.matching .invalidPattern)

def accepts (p : Prompt) (token : Text) : Except Stop Bool :=
  match p with
  | .exact text => .ok (text == token)
  | .pattern _ program => .ok (program.isMatch token)
  | .custom predicate => (predicate token).mapError .panic

def shown : Prompt → Text
  | .exact text => Text.lit "Exact(" ++ Quoted.string text ++ Text.lit ")"
  | .pattern source _ => Text.lit "Pattern(" ++ Quoted.string source ++ Text.lit ")"
  | .custom _ => Text.lit "Custom(..)"

end Prompt

/-- What a computed reply comes to: a reply, a failure for some reason, or a panic with a text. -/
inductive Produced (α : Type) where
  | value (a : α)
  | failed (reason : Text)
  | panicked (text : Text)
  deriving DecidableEq, Repr

/-- What is answered: the same every time, or something computed from the token. -/
inductive Reply (α : Type) where
  | fixed (a : α)
  | computed (compute : Text → Produced α)

namespace Reply

variable {α : Type}

def produce (r : Reply α) (token : Text) : Except Stop α :=
  match r with
  | .fixed a => .ok a
  | .computed compute =>
    match compute token with
    | .value a => .ok a
    | .failed reason => .error (.error (.callback (.reply reason)))
    | .panicked text => .error (.panic text)

def shown (display : α → Text) : Reply α → Text
  | .fixed a => Text.lit "Fixed(" ++ display a ++ Text.lit ")"
  | .computed _ => Text.lit "Dynamic(..)"

end Reply

/-- A prompt with its reply. -/
structure Rule (α : Type) where
  prompt : Prompt
  reply : Reply α

def Rule.shown {α : Type} (display : α → Text) (r : Rule α) : Text :=
  Text.lit "Matcher \x7b prompt: " ++ r.prompt.shown ++ Text.lit ", reply: " ++ r.reply.shown display ++
    Text.lit " \x7d"

end Dialogue
