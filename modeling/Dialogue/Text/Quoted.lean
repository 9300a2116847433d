import Dialogue.Text.Basic
import Dialogue.Unicode.Property

/-!
# Quoted text

How messages show a text or a character that they name: between quotes, with a backslash before what would end or
disguise it. Tab, line feed, carriage return and NUL have short forms; every other character that leaves no mark of
its own, or that joins the one before it, is written by its code point.

* `Quote`: double quotes for a text, single ones for a character;
* `escape`: one character inside quotes;
* `string`, `char`: a text and a character as they are shown.
-/

namespace Dialogue.Quoted

/-- The quote that encloses what is shown: a double one around a text, a single one around a character. -/
inductive Quote where
  | double
  | single
  deriving DecidableEq, Repr

def Quote.mark : Quote → Char
  | .double => '"'
  | .single => '\''

/-- A character by its code point. -/
def byCodePoint (c : Char) : Text := ['\\', 'u', '\x7b'] ++ Text.hex c.toNat ++ ['\x7d']

/-- One character inside quotes. -/
def escape (q : Quote) (c : Char) : Text :=
  if c == '\x00' then ['\\', '0']
  else if c == '\t' then ['\\', 't']
  else if c == '\n' then ['\\', 'n']
  else if c == '\r' then ['\\', 'r']
  else if c == '\\' || c == q.mark then ['\\', c]
  else if Unicode.extendsGrapheme c || !Unicode.isPrintable c then byCodePoint c
  else [c]

def string (s : Text) : Text := '"' :: s.flatMap (escape .double) ++ ['"']

def char (c : Char) : Text := '\'' :: escape .single c ++ ['\'']

end Dialogue.Quoted
