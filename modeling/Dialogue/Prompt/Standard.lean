import Dialogue.Prompt
import Dialogue.Text.Utf8

/-!
# Ready-made predicates and replies

* `Predicate`, `Predicate.test`: simple questions about a token;
* `Computation`, `Computation.compute`: simple replies computed from a token;
* `readWord32`: a decimal number of 32 bits, or why a text is none.
-/

namespace Dialogue

/-- A question about a token. Sizes are bytes in UTF-8; some questions are always answered with yes or with no, or
panic. -/
inductive Predicate where
  | equals (text : Text)
  | contains (text : Text)
  | startsWith (text : Text)
  | endsWith (text : Text)
  | hasSize (n : Nat)
  | hasAtLeast (n : Nat)
  | always
  | never
  | panics (text : Text)
  deriving DecidableEq, Repr

def hasPart (part : Text) : Text → Bool
  | [] => part.isEmpty
  | c :: rest => part.isPrefixOf (c :: rest) || hasPart part rest

/-- The answer to the question about a token, or the text of a panic. -/
def Predicate.test : Predicate → Text → Except Text Bool
  | .equals text, token => .ok (token == text)
  | .contains text, token => .ok (hasPart text token)
  | .startsWith text, token => .ok (text.isPrefixOf token)
  | .endsWith text, token => .ok (text.isSuffixOf token)
  | .hasSize n, token => .ok (Utf8.size token == n)
  | .hasAtLeast n, token => .ok (n ≤ Utf8.size token)
  | .always, _ => .ok true
  | .never, _ => .ok false
  | .panics text, _ => .error text

/-- Why a text is no number. -/
inductive NumberFault where
  | empty
  | invalidDigit
  | tooLarge
  deriving DecidableEq, Repr

def NumberFault.message : NumberFault → Text
  | .empty => Text.lit "cannot parse integer from empty string"
  | .invalidDigit => Text.lit "invalid digit found in string"
  | .tooLarge => Text.lit "number too large to fit in target type"

/-- Reads on after digits that make `n`. -/
def readDigits (n : Nat) : Text → Except NumberFault Nat
  | [] => .ok n
  | c :: rest =>
    if !c.isDigit then .error .invalidDigit
    else
      let m := n * 10 + (c.toNat - '0'.toNat)
      if m < 0x100000000 then readDigits m rest else .error .tooLarge

/-- A decimal number of 32 bits, with or without a plus sign. The first character that is at fault decides. -/
def readWord32 : Text → Except NumberFault Nat
  | [] => .error .empty
  | ['+'] => .error .invalidDigit
  | '+' :: rest => readDigits 0 rest
  | cs => readDigits 0 cs

/-- A reply computed from a token: the token itself, or between angle brackets, the number of its bytes in UTF-8, the
number of 32 bits that it writes, no reply, or a panic. -/
inductive Computation where
  | echo
  | wrap
  | size
  | number
  | fails (reason : Text)
  | panics (text : Text)
  deriving DecidableEq, Repr

def Computation.compute : Computation → Text → Produced Text
  | .echo, token => .value token
  | .wrap, token => .value ('<' :: token ++ ['>'])
  | .size, token => .value (Text.decimal (Utf8.size token))
  | .number, token =>
    match readWord32 token with
    | .ok n => .value (Text.decimal n)
    | .error e => .failed e.message
  | .fails reason, _ => .failed reason
  | .panics text, _ => .panicked text

end Dialogue
