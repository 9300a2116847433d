/-!
# Bytes and text

What travels between a command and whoever watches it. A text is the list of its characters, so that
splitting, joining and searching are statements about lists.

* `Bytes`, `Text`;
* `Text.lit`: a string constant as a text;
* `Text.decimal`, `Text.hex`, `Text.hexValue?`: numbers in digits, and the value of a digit in base sixteen;
* `Text.precedes`: the order of texts.
-/

namespace Dialogue

/-- A byte string. -/
abbrev Bytes := List UInt8

/-- A text: its characters in order. -/
abbrev Text := List Char

namespace Text

def lit (s : String) : Text := s.toList

def decimal (n : Nat) : Text := Nat.toDigits 10 n

def hex (n : Nat) : Text := Nat.toDigits 16 n

def hexValue? (c : Char) : Option Nat :=
  if '0' ≤ c && c ≤ '9' then some (c.toNat - '0'.toNat)
  else if 'a' ≤ c && c ≤ 'f' then some (c.toNat - 'a'.toNat + 10)
  else if 'A' ≤ c && c ≤ 'F' then some (c.toNat - 'A'.toNat + 10)
  else none

/-- Whether a text comes no later than another one in the order of dictionaries, with characters ordered by their
numbers. -/
def precedes (a b : Text) : Bool := !b.lex a fun c d => decide (c.toNat < d.toNat)

end Text

end Dialogue
