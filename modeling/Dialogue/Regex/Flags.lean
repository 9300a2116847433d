import Dialogue.Regex.CharSet

/-!
# The modes of a pattern

Flags change how the parts of a pattern are read. They hold to the end of the group in which they are set, and in
verbose mode blanks and comments between the parts are passed over.

* `Flags`, `Flags.start`, `Flags.read?`: the modes, and flag letters as a pattern writes them;
* `Flags.skip`, `Flags.peek`: what is passed over;
* `Flags.foldSet`, `Flags.complement`, `Flags.checked?`: sets as the modes take them.
-/

namespace Dialogue.Regex

/-- The modes in which a part of a pattern is read, in the order of their letters `i`, `m`, `s`, `U`, `x`, `R` and `u`:
letters match in either case; `^` and `$` match at every line; the dot matches line ends; repetitions are reluctant
unless marked; blanks and comments are passed over; lines end with CR, LF or both; characters are those of Unicode, and
not bytes. -/
structure Flags where
  ignoreCase : Bool
  multiLine : Bool
  dotAll : Bool
  swapGreed : Bool
  verbose : Bool
  crlf : Bool
  unicode : Bool
  deriving DecidableEq, Repr

namespace Flags

def start : Flags := ⟨false, false, false, false, false, false, true⟩

def set? (f : Flags) (letter : Char) (on : Bool) : Option Flags :=
  match letter with
  | 'i' => some { f with ignoreCase := on }
  | 'm' => some { f with multiLine := on }
  | 's' => some { f with dotAll := on }
  | 'U' => some { f with swapGreed := on }
  | 'x' => some { f with verbose := on }
  | 'R' => some { f with crlf := on }
  | 'u' => some { f with unicode := on }
  | _ => none

/-- Reads flag letters up to `:` or `)`: the modes, whether there was any letter or sign, the closing character and
what follows it. A letter comes once, and so does the minus sign, which clears the letters after it. -/
def read? (f : Flags) (seen : Text) (last : Option Char) : Text → Option (Flags × Bool × Char × Text)
  | [] => none
  | c :: rest =>
    if c == ':' || c == ')' then
      if last == some '-' then none else some (f, !seen.isEmpty, c, rest)
    else if seen.contains c then none
    else if c == '-' then read? f (c :: seen) (some c) rest
    else do
      let f ← f.set? c (!seen.contains '-')
      read? f (c :: seen) (some c) rest

/-- What follows the blanks and comments at the front, in verbose mode. -/
def skipVerbose (inComment : Bool) : Text → Text
  | [] => []
  | c :: rest =>
    if inComment then skipVerbose (c != '\n') rest
    else if Unicode.isWhite c then skipVerbose false rest
    else if c == '#' then skipVerbose true rest
    else c :: rest

/-- What follows anything that is passed over at the front. -/
def skip (f : Flags) (cs : Text) : Text := if f.verbose then skipVerbose false cs else cs

/-- The text less its first character and what is passed over after that. -/
def next (f : Flags) (cs : Text) : Text := f.skip (cs.drop 1)

/-- The next character after the first one that is not passed over, as a range in a class looks for it. -/
def peek (f : Flags) (cs : Text) : Option Char :=
  if !f.verbose then cs[1]?
  else
    let rest := cs.drop 1
    match rest.dropWhile Unicode.isWhite with
    | [] => rest.head?
    | '#' :: more => (more.dropWhile Unicode.isWhite).head?.or rest.head?
    | c :: _ => some c

/-- A set with its case variants, where letters match in either case. -/
def foldSet (f : Flags) (s : CharSet) : CharSet :=
  if !f.ignoreCase then s else if f.unicode then .folded s else .asciiFolded s

def complement (f : Flags) (s : CharSet) : CharSet := if f.unicode then .compl s else .diff .byte s

/-- A set as a part of its own: a set of bytes may hold ASCII bytes only, since a text has no others. -/
def checked? (f : Flags) (s : CharSet) : Option CharSet := if f.unicode || s.isAscii then some s else none

/-- Whether a repetition marked as reluctant or not prefers another round. -/
def greedy (f : Flags) (reluctant : Bool) : Bool := reluctant == f.swapGreed

end Flags

end Dialogue.Regex
