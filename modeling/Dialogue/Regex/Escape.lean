import Dialogue.Regex.Flags
import Dialogue.Regex.Library

/-!
# Escapes

What a backslash and the characters after it stand for: a character by its name or number, a set of characters, or
an assertion.

* `Atom`: what an escape stands for;
* `hexEscape?`, `propertyEscape?`, `boundary?`: the escapes of more than one character;
* `escape?`: what follows a backslash.
-/

namespace Dialogue.Regex

variable [Library]

/-- A part as small as an escape: a character, a set or an assertion. A character written as a byte, by two digits
in base sixteen, stands for that byte where characters are bytes. -/
inductive Atom where
  | char (c : Char) (byte : Bool)
  | set (s : CharSet)
  | look (l : Look)

def charOf? (n : Nat) : Option Char := if n.isValidChar then some (Char.ofNat n) else none

/-- Digits in base sixteen up to a closing brace, after those in `acc`: the code point and what follows. -/
def hexBraced? (f : Flags) : Nat → Option Nat → Text → Option (Nat × Text)
  | 0, _, _ => none
  | fuel + 1, acc, cs =>
    match f.skip cs with
    | [] => none
    | '\x7d' :: rest => acc.map fun n => (n, f.skip rest)
    | c :: rest => do
      let d ← Text.hexValue? c
      hexBraced? f fuel (some (acc.getD 0 * 16 + d)) rest

/-- The given number of digits in base sixteen: the code point and what follows. -/
def hexDigits? (f : Flags) : Nat → Nat → Text → Option (Nat × Text)
  | 0, acc, cs => some (acc, cs)
  | n + 1, acc, cs =>
    match cs with
    | [] => none
    | c :: rest => do
      let d ← Text.hexValue? c
      hexDigits? f n (acc * 16 + d) (f.skip rest)

/-- A code point after `\x`, `\u` or `\U`, with as many digits as the letter asks for or any number in braces. -/
def hexEscape? (f : Flags) (width : Nat) (cs : Text) : Option (Atom × Text) :=
  match f.skip cs with
  | '\x7b' :: rest => do
    let (n, rest) ← hexBraced? f (rest.length + 1) none rest
    return (.char (← charOf? n) false, rest)
  | cs => do
    let (n, rest) ← hexDigits? f width 0 cs
    return (.char (← charOf? n) (width == 2), rest)

/-- The characters up to a closing brace, and what follows it. -/
def braced? (f : Flags) : Nat → Text → Text → Option (Text × Text)
  | 0, _, _ => none
  | fuel + 1, acc, cs =>
    match f.skip cs with
    | [] => none
    | '\x7d' :: rest => some (acc.reverse, rest)
    | c :: rest => braced? f fuel (c :: acc) rest

/-- The text before and after the first `=` or `:`, and whether `!` stood before an `=`. -/
def splitName (cs : Text) : Option (Text × Text × Bool) :=
  let before := cs.takeWhile fun c => c != '=' && c != ':'
  match cs.dropWhile fun c => c != '=' && c != ':' with
  | '=' :: rest =>
    if before.getLast? == some '!' then some (before.dropLast, rest, true) else some (before, rest, false)
  | _ :: rest => some (before, rest, false)
  | [] => none

/-- The set of a property as it is written in braces, alone or with a value. -/
def propertySet? (name : Text) : Option CharSet :=
  match splitName name with
  | none => Library.named? name
  | some (key, value, negated) => (Library.valued? key value).map fun s => if negated then s.compl else s

/-- A property after `\p` or `\P`. -/
def propertyEscape? (f : Flags) (negated : Bool) (cs : Text) : Option (Atom × Text) := do
  let (name, rest) ← match f.skip cs with
    | [] => none
    | '\x7b' :: rest => braced? f (rest.length + 1) [] rest
    | c :: rest => if c == '\\' then none else some ([c], f.skip rest)
  let s ← propertySet? name
  if !f.unicode then none
  let s := f.foldSet s
  return (.set (if negated then f.complement s else s), rest)

/-- Decimal digits, white space or word characters, after `\d`, `\s`, `\w` and the capitals that negate them. -/
def perlSet (f : Flags) (letter : Char) : CharSet :=
  let s := match letter with
    | 'd' | 'D' => if f.unicode then .property .digit else (CharSet.posix? "digit").getD .none
    | 's' | 'S' => if f.unicode then .property .white else (CharSet.posix? "space").getD .none
    | _ => if f.unicode then .property .word else (CharSet.posix? "word").getD .none
  if letter.isUpper then f.complement s else s

/-- Characters with a meaning of their own, which an escape takes away. -/
def isMeta (c : Char) : Bool := (Text.lit "\\.+*?()|[]\x7b\x7d^$#&-~").contains c

/-- Characters that may follow a backslash and then stand for themselves. -/
def isEscapable (c : Char) : Bool := c.toNat < 0x80 && !c.isAlphanum && c != '<' && c != '>'

/-- The assertion of a name in braces after `\b`. -/
def namedBoundary? (ascii : Bool) (name : Text) : Option Look :=
  if name == Text.lit "start" then some (.wordStart ascii)
  else if name == Text.lit "end" then some (.wordEnd ascii)
  else if name == Text.lit "start-half" then some (.wordStartHalf ascii)
  else if name == Text.lit "end-half" then some (.wordEndHalf ascii)
  else none

/-- What follows `\b`: a name in braces, unless the brace begins a count. -/
def boundary? (f : Flags) (cs : Text) : Option (Atom × Text) :=
  let plain := some (Atom.look (.wordBoundary !f.unicode), cs)
  match cs with
  | '\x7b' :: rest =>
    match f.skip rest with
    | [] => none
    | c :: _ =>
      if c.isAlpha || c == '-' then do
        let (name, rest) ← braced? f (rest.length + 1) [] rest
        return (.look (← namedBoundary? (!f.unicode) name), rest)
      else plain
  | _ => plain

def escape? (f : Flags) : Text → Option (Atom × Text)
  | [] => none
  | c :: rest =>
    if isMeta c || isEscapable c then some (.char c false, rest)
    else match c with
      | 'x' => hexEscape? f 2 rest
      | 'u' => hexEscape? f 4 rest
      | 'U' => hexEscape? f 8 rest
      | 'p' => propertyEscape? f false rest
      | 'P' => propertyEscape? f true rest
      | 'd' | 's' | 'w' | 'D' | 'S' | 'W' => some (.set (perlSet f c), rest)
      | 'a' => some (.char '\x07' false, rest)
      | 'f' => some (.char '\x0c' false, rest)
      | 't' => some (.char '\t' false, rest)
      | 'n' => some (.char '\n' false, rest)
      | 'r' => some (.char '\r' false, rest)
      | 'v' => some (.char '\x0b' false, rest)
      | 'A' => some (.look .textStart, rest)
      | 'z' => some (.look .textEnd, rest)
      | 'b' => boundary? f rest
      | 'B' => some (.look (.notWordBoundary !f.unicode), rest)
      | '<' => some (.look (.wordStart !f.unicode), rest)
      | '>' => some (.look (.wordEnd !f.unicode), rest)
      | _ => none

end Dialogue.Regex
