import Dialogue.Delimiter

/-!
# One pass over the pending text

In a pass a consumer is offered the tokens of a text one after another, and at last the text after the last
delimiter, unless it is empty. A consumer that declines that last part gets it back in a later pass, with more text
after it.

* `Verdict`, `Consumer`;
* `Consumer.offerAll`, `Consumer.pass`: the offers of a pass, and the text that stays pending.
-/

namespace Dialogue

/-- What a consumer says to a token: it is done with, more text is needed, or the work is over. -/
inductive Verdict where
  | accepted
  | declined
  | stopped (why : Stop)
  deriving DecidableEq, Repr

/-- Takes a token and gives its new state and its verdict. -/
abbrev Consumer (σ : Type) := σ → Text → σ × Verdict

namespace Consumer

variable {σ : Type}

/-- Offers tokens in order until the consumer stops. -/
def offerAll (consume : Consumer σ) : σ → List Text → σ × Option Stop
  | s, [] => (s, none)
  | s, token :: more =>
    match consume s token with
    | (s, .stopped why) => (s, some why)
    | (s, _) => offerAll consume s more

theorem offerAll_append (consume : Consumer σ) (s : σ) (as bs : List Text) :
    consume.offerAll s (as ++ bs) =
      match consume.offerAll s as with
      | (s, none) => consume.offerAll s bs
      | r => r := by
  induction as generalizing s with
  | nil => rfl
  | cons a as ih =>
    simp only [List.cons_append, offerAll]
    rcases consume s a with ⟨s, v⟩
    cases v <;> simp [ih]

/-- Offers the tokens of a split text and then what follows them; gives the text that stays pending. -/
def pass (consume : Consumer σ) (s : σ) (text : Split) : σ × Except Stop Text :=
  match consume.offerAll s (text.pieces.map Prod.fst) with
  | (s, some why) => (s, .error why)
  | (s, none) =>
    if text.rest.isEmpty then (s, .ok [])
    else match consume s text.rest with
      | (s, .stopped why) => (s, .error why)
      | (s, .accepted) => (s, .ok [])
      | (s, .declined) => (s, .ok text.rest)

end Consumer

end Dialogue
