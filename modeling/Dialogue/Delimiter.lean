import Dialogue.Error
import Dialogue.Regex.Pattern
import Dialogue.Regex.Search

/-!
# Delimiters

A delimiter is a pattern whose matches separate the tokens of a text.

* `Delimiter`, `Delimiter.ofPattern`, `Delimiter.line`, `Delimiter.ofPattern_line`;
* `Split`, `Split.ofSpans`, `Delimiter.split`: a text cut at the matches of a delimiter.
-/

namespace Dialogue

/-- A pattern that separates tokens, as it was written, with its automaton. -/
structure Delimiter where
  pattern : Text
  program : Regex.Program

namespace Delimiter

def ofPattern [Regex.Library] (pattern : Text) : Except Error Delimiter :=
  match Regex.parse? pattern with
  | some r => .ok ⟨pattern, .ofRegex r⟩
  | none => .error (.matching .invalidPattern)

def char (c : Char) : Regex := .set (.single c)

/-- A line end: CR and LF together, or either of them. -/
def lineEnd : Regex := .alt (.seq (char '\r') (char '\n')) (.alt (char '\r') (char '\n'))

/-- The delimiter of lines. -/
def line : Delimiter := ⟨Text.lit "\\r\\n|\\r|\\n", .ofRegex lineEnd⟩

/-- A line end is what its pattern says, and the pattern makes the delimiter of lines where it is not too large. -/
theorem ofPattern_line [Regex.Library] (hsize : Regex.Library.fits line.pattern lineEnd = true) :
    ofPattern line.pattern = .ok line := by
  have hread : Regex.read? line.pattern = some ⟨lineEnd, 2, true⟩ := rfl
  have hfits : (⟨lineEnd, 2, true⟩ : Regex.Item).Fits line.pattern := ⟨by decide, hsize⟩
  simp only [ofPattern, Regex.parse?, hread, Option.bind_eq_bind, Option.bind_some, if_pos hfits]
  rfl

end Delimiter

/-- A text cut at some of its parts: the tokens that such a part follows, each with that part, and the text after
the last part. -/
structure Split where
  pieces : List (Text × Text)
  rest : Text
  deriving DecidableEq, Repr

/-- Cuts `cs`, whose first character has the place `pos`, at the given parts, after the pieces in `acc`, the last one
first. -/
def Split.ofSpansFrom : List Regex.Program.Span → List (Text × Text) → Nat → Text → Split
  | [], acc, _, cs => ⟨acc.reverse, cs⟩
  | (i, j) :: more, acc, pos, cs =>
    ofSpansFrom more ((cs.take (i - pos), (cs.drop (i - pos)).take (j - i)) :: acc) j (cs.drop (j - pos))

/-- Cuts a text at the given parts. -/
def Split.ofSpans (spans : List Regex.Program.Span) (cs : Text) : Split := ofSpansFrom spans [] 0 cs

def Delimiter.split (d : Delimiter) (cs : Text) : Split := Split.ofSpans (d.program.spans cs) cs

end Dialogue
