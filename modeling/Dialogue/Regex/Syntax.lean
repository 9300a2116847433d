import Dialogue.Regex.CharSet

/-!
# Regular expressions

* `Look`: assertions about the place between two characters;
* `Regex`: expressions, with the flags of the pattern already worked in;
* `Regex.nullable`, `Regex.onlyEmpty`: whether the empty text matches, and whether nothing else does.
-/

namespace Dialogue

/-- An assertion about a place in a text. Lines end with LF, or with CR, LF or both where the name says `crlf`. Half of
the beginning of a word asks only that no word character stands before, and half of its end that none stands after. -/
inductive Look where
  | textStart
  | textEnd
  | lineStart
  | lineEnd
  | crlfLineStart
  | crlfLineEnd
  | wordBoundary (ascii : Bool)
  | notWordBoundary (ascii : Bool)
  | wordStart (ascii : Bool)
  | wordEnd (ascii : Bool)
  | wordStartHalf (ascii : Bool)
  | wordEndHalf (ascii : Bool)
  deriving DecidableEq, Repr

namespace Look

def isWord (ascii : Bool) : Option Char → Bool
  | none => false
  | some c => if ascii then c.isAlphanum || c == '_' else Unicode.isWord c

/-- Whether the assertion holds between two characters; there is none at an end of the text. -/
def holds (l : Look) (before after : Option Char) : Bool :=
  match l with
  | .textStart => before.isNone
  | .textEnd => after.isNone
  | .lineStart => before.isNone || before == some '\n'
  | .lineEnd => after.isNone || after == some '\n'
  | .crlfLineStart => before.isNone || before == some '\n' || (before == some '\r' && after != some '\n')
  | .crlfLineEnd => after.isNone || after == some '\r' || (after == some '\n' && before != some '\r')
  | .wordBoundary ascii => isWord ascii before != isWord ascii after
  | .notWordBoundary ascii => isWord ascii before == isWord ascii after
  | .wordStart ascii => !isWord ascii before && isWord ascii after
  | .wordEnd ascii => isWord ascii before && !isWord ascii after
  | .wordStartHalf ascii => !isWord ascii before
  | .wordEndHalf ascii => !isWord ascii after

end Look

/-- A regular expression. Of two ways to match, an alternation prefers its left side, a greedy repetition another round,
and any other repetition to be done. An assertion matches the empty text at a place where it holds. -/
inductive Regex where
  | empty
  | set (s : Regex.CharSet)
  | look (l : Look)
  | seq (r s : Regex)
  | alt (r s : Regex)
  | repetition (r : Regex) (min : Nat) (max : Option Nat) (greedy : Bool)

namespace Regex

/-- Whether some match of the expression can be empty. -/
def nullable : Regex → Bool
  | .empty => true
  | .set _ => false
  | .look _ => true
  | .seq r s => r.nullable && s.nullable
  | .alt r s => r.nullable || s.nullable
  | .repetition r min _ _ => min == 0 || r.nullable

/-- Whether every match of the expression is empty. -/
def onlyEmpty : Regex → Bool
  | .empty => true
  | .set _ => false
  | .look _ => true
  | .seq r s => r.onlyEmpty && s.onlyEmpty
  | .alt r s => r.onlyEmpty && s.onlyEmpty
  | .repetition r _ max _ => max == some 0 || r.onlyEmpty

/-- A repetition; of what matches only the empty text, one round says as much as many. -/
def repeated (r : Regex) (min : Nat) (max : Option Nat) (greedy : Bool) : Regex :=
  if r.onlyEmpty then .repetition r (Nat.min min 1) (some ((max.map fun n => Nat.min n 1).getD 1)) greedy
  else .repetition r min max greedy

end Regex

end Dialogue
