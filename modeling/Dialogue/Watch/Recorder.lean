import Dialogue.Event
import Dialogue.Prompt.Standard
import Dialogue.Watch.Pass

/-!
# A consumer that keeps a record

* `Answering`: how a token is answered; `Recorder`: rules for it, with the record of all offers;
* `Recorder.consume`.
-/

namespace Dialogue

/-- How a recorder answers a token. It may let others go first and then accept. -/
inductive Answering where
  | accept
  | decline
  | yield
  | fail (reason : Text)
  | panic (text : Text)
  deriving DecidableEq, Repr

def Answering.name : Answering → Text
  | .accept => Text.lit "accept"
  | .decline => Text.lit "decline"
  | .yield => Text.lit "yield"
  | .fail _ => Text.lit "fail"
  | .panic _ => Text.lit "panic"

def Answering.verdict : Answering → Verdict
  | .accept | .yield => .accepted
  | .decline => .declined
  | .fail reason => .stopped (.error (.callback (.reply reason)))
  | .panic text => .stopped (.panic text)

/-- Answers for tokens, of which the first that fits decides, the answer to every other token, and the record of what
was offered, the last offer first. -/
structure Recorder where
  rules : List (Predicate × Answering)
  otherwise : Answering
  events : List Event

namespace Recorder

/-- The answer to a token, or the text of a panic. -/
def answerFrom (otherwise : Answering) (token : Text) : List (Predicate × Answering) → Except Text Answering
  | [] => .ok otherwise
  | (p, a) :: more =>
    match p.test token with
    | .error text => .error text
    | .ok true => .ok a
    | .ok false => answerFrom otherwise token more

def consume : Consumer Recorder := fun r token =>
  match answerFrom r.otherwise token r.rules with
  | .error text => (r, .stopped (.panic text))
  | .ok a => ({ r with events := .token token a.name :: r.events }, a.verdict)

end Recorder

end Dialogue
