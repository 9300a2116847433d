import Dialogue.Unicode.Folding
import Dialogue.Unicode.Property

/-!
# Sets of characters

A set of characters as a pattern writes it: intervals and properties, joined by the set operations, and closed under
case folding. Membership is decided on the expression itself.

* `CharSet`, `CharSet.has`, `CharSet.contains`;
* `CharSet.posix?`: the set of an ASCII class name.
-/

namespace Dialogue.Regex

/-- A property that a pattern can ask for; of the general categories, whether it is in a set of them. -/
inductive Property where
  | digit
  | white
  | word
  | alphabetic
  | category (holds : Unicode.Category → Bool)

def Property.holds (p : Property) (n : Nat) : Bool :=
  let c := Char.ofNat n
  match p with
  | .digit => Unicode.isDigit c
  | .white => Unicode.isWhite c
  | .word => Unicode.isWord c
  | .alphabetic => Unicode.isAlphabetic c
  | .category holds => holds (Unicode.category c)

/-- A set of code points. `diff` are the members of the first set that are not in the second, and `symmDiff` those of
exactly one of them; `folded` adds all case variants, and `asciiFolded` those among the ASCII letters. -/
inductive CharSet where
  | none
  | range (low high : Nat)
  | property (p : Property)
  | union (s t : CharSet)
  | inter (s t : CharSet)
  | diff (s t : CharSet)
  | symmDiff (s t : CharSet)
  | folded (s : CharSet)
  | asciiFolded (s : CharSet)

namespace CharSet

def has : CharSet → Nat → Bool
  | .none, _ => false
  | .range low high, n => low ≤ n && n ≤ high
  | .property p, n => p.holds n
  | .union s t, n => s.has n || t.has n
  | .inter s t, n => s.has n && t.has n
  | .diff s t, n => s.has n && !t.has n
  | .symmDiff s t, n => s.has n != t.has n
  | .folded s, n => (Unicode.variants n).any s.has
  | .asciiFolded s, n => (Unicode.asciiVariants n).any s.has

def contains (s : CharSet) (c : Char) : Bool := s.has c.toNat

def all : CharSet := .range 0 0x10FFFF

def byte : CharSet := .range 0 0xFF

def single (c : Char) : CharSet := .range c.toNat c.toNat

def compl (s : CharSet) : CharSet := .diff all s

def unions (ss : List CharSet) : CharSet := ss.foldr .union .none

/-- Whether the set has no member from U+0080 to U+00FF. -/
def isAscii (s : CharSet) : Bool := (List.range 128).all fun i => !s.has (128 + i)

/-- The intervals of the ASCII classes, by name. -/
def posixRanges : List (String × List (Nat × Nat)) := [
  ("alnum", [(0x30, 0x39), (0x41, 0x5A), (0x61, 0x7A)]),
  ("alpha", [(0x41, 0x5A), (0x61, 0x7A)]),
  ("ascii", [(0x00, 0x7F)]),
  ("blank", [(0x09, 0x09), (0x20, 0x20)]),
  ("cntrl", [(0x00, 0x1F), (0x7F, 0x7F)]),
  ("digit", [(0x30, 0x39)]),
  ("graph", [(0x21, 0x7E)]),
  ("lower", [(0x61, 0x7A)]),
  ("print", [(0x20, 0x7E)]),
  ("punct", [(0x21, 0x2F), (0x3A, 0x40), (0x5B, 0x60), (0x7B, 0x7E)]),
  ("space", [(0x09, 0x0D), (0x20, 0x20)]),
  ("upper", [(0x41, 0x5A)]),
  ("word", [(0x30, 0x39), (0x41, 0x5A), (0x5F, 0x5F), (0x61, 0x7A)]),
  ("xdigit", [(0x30, 0x39), (0x41, 0x46), (0x61, 0x66)])]

/-- The ASCII class of a name. -/
def posix? (name : String) : Option CharSet :=
  (posixRanges.lookup name).map fun rs => unions (rs.map fun r => .range r.1 r.2)

end CharSet

end Dialogue.Regex
