import Dialogue.Regex.Bracket

/-!
# Reading patterns

The text of a pattern is read from left to right with a stack of open groups. A pattern that nests too deeply, or
whose automaton would be too large, is refused like one that is not well formed.

* `Item`, `Frame`, `State`: what has been read, with the open groups;
* `group?`, `counted?`: the parts that are longer than a character;
* `State.step?`, `State.run?`: the next part, and all of them;
* `read?`, `parse?`: the expression of a pattern.
-/

namespace Dialogue.Regex

variable [Library]

/-- A part of a sequence: its expression, how deeply it nests, and whether a repetition may follow it; flags that are
set cannot be repeated. -/
structure Item where
  regex : Regex
  height : Nat
  repeatable : Bool

/-- A part that nests no deeper. -/
def Item.leaf (r : Regex) : Item := ⟨r, 0, true⟩

/-- What has been read at one depth: the modes, the parts of the current branch and the branches before it, the last
ones first. -/
structure Frame where
  flags : Flags
  items : List Item
  branches : List Item

namespace Frame

def push (k : Frame) (i : Item) : Frame := { k with items := i :: k.items }

/-- The current branch as one part. -/
def branch (k : Frame) : Item :=
  match k.items with
  | [] => .leaf .empty
  | [i] => i
  | last :: before =>
    ⟨before.foldl (fun r i => .seq i.regex r) last.regex, (k.items.map (·.height)).foldl Nat.max 0 + 1, true⟩

/-- Everything read at this depth as one part. -/
def close (k : Frame) : Item :=
  match k.branches with
  | [] => k.branch
  | before =>
    ⟨before.foldl (fun r i => .alt i.regex r) k.branch.regex,
      ((k.branch :: before).map (·.height)).foldl Nat.max 0 + 1, true⟩

end Frame

/-- A pattern that is being read: the innermost open group, or the whole pattern, the groups around it, the innermost
one first, and the names of the groups so far. -/
structure State where
  top : Frame
  outer : List Frame
  names : List Text

namespace State

/-- The beginning of a pattern. -/
def start : State := ⟨⟨.start, [], []⟩, [], []⟩

def push (s : State) (i : Item) : State := { s with top := s.top.push i }

/-- Adds an expression that nests no deeper. -/
def pushLeaf (s : State) (r : Regex) : State := s.push (.leaf r)

def openGroup (s : State) (flags : Flags) : State := { s with top := ⟨flags, [], []⟩, outer := s.top :: s.outer }

/-- Repeats the last part of the current branch. -/
def repeatLast? (s : State) (min : Nat) (max : Option Nat) (reluctant : Bool) : Option State :=
  match s.top.items with
  | i :: before =>
    if i.repeatable then
      let r := i.regex.repeated min max (s.top.flags.greedy reluctant)
      some { s with top := { s.top with items := ⟨r, i.height + 1, true⟩ :: before } }
    else none
  | [] => none

end State

/-- The name of a group up to `>`, and what follows it. It begins with a letter or an underscore. -/
def groupName? (cs : Text) : Option (Text × Text) :=
  let name := cs.takeWhile (· != '>')
  match name, cs.dropWhile (· != '>') with
  | c :: more, _ :: rest =>
    if (c == '_' || Unicode.isAlphabetic c) &&
        more.all fun c => c == '_' || c == '.' || c == '[' || c == ']' || Unicode.isAlphanumeric c then
      some (name, rest)
    else none
  | _, _ => none

def namedGroup? (s : State) (cs : Text) : Option (State × Text) := do
  let (name, rest) ← groupName? cs
  if s.names.contains name then none
  else return ({ s with names := name :: s.names }.openGroup s.top.flags, rest)

/-- What follows the opening parenthesis of a group, or of flags for the rest of the group around it. -/
def group? (s : State) (cs : Text) : Option (State × Text) :=
  let f := s.top.flags
  match f.skip cs with
  | '?' :: 'P' :: '<' :: rest => namedGroup? s rest
  | '?' :: '<' :: rest =>
    match rest with
    | '=' :: _ => none
    | '!' :: _ => none
    | _ => namedGroup? s rest
  | '?' :: rest => do
    let (flags, any, closing, rest) ← f.read? [] none rest
    if closing == ':' then return (s.openGroup flags, rest)
    else if any then
      let s := s.push ⟨.empty, 0, false⟩
      return ({ s with top := { s.top with flags } }, rest)
    else none
  | cs => some (s.openGroup f, cs)

/-- A decimal number of at most 32 bits with blanks around its digits, and what follows them; no number when there
is no digit. -/
def decimal? (f : Flags) : Nat → Option Nat → Text → Option (Option Nat × Text)
  | 0, _, _ => none
  | fuel + 1, acc, cs =>
    match cs with
    | c :: rest =>
      if c.isDigit then decimal? f fuel (some (acc.getD 0 * 10 + (c.toNat - '0'.toNat))) (f.skip rest)
      else if acc.getD 0 < 0x100000000 then some (acc, f.skip (cs.dropWhile Unicode.isWhite)) else none
    | [] => if acc.getD 0 < 0x100000000 then some (acc, []) else none

/-- A number with blanks in front of it. -/
def count? (f : Flags) (cs : Text) : Option (Option Nat × Text) :=
  decimal? f (cs.length + 1) none (cs.dropWhile Unicode.isWhite)

/-- The bounds of a counted repetition after its brace, and what follows the closing one. -/
def bounds? (f : Flags) (cs : Text) : Option (Nat × Option Nat × Text) := do
  let (min, rest) ← count? f (f.skip cs)
  match rest with
  | ',' :: rest =>
    match f.skip rest with
    | '\x7d' :: rest => return (← min, none, rest)
    | rest =>
      let (max, rest) ← count? f rest
      let min ← min
      let max ← max
      match rest with
      | '\x7d' :: rest => if min ≤ max then return (min, some max, rest) else none
      | _ => none
  | '\x7d' :: rest => return (← min, some (← min), rest)
  | _ => none

/-- Whether a repetition is marked as reluctant, and what follows the mark. -/
def reluctant : Text → Bool × Text
  | '?' :: rest => (true, rest)
  | cs => (false, cs)

/-- A repetition by one of the signs `?`, `*` and `+`. -/
def uncounted? (s : State) (min : Nat) (max : Option Nat) (cs : Text) : Option (State × Text) := do
  let (mark, rest) := reluctant cs
  return (← s.repeatLast? min max mark, rest)

def counted? (s : State) (cs : Text) : Option (State × Text) := do
  let f := s.top.flags
  let (min, max, rest) ← bounds? f cs
  let (mark, rest) := reluctant (f.skip rest)
  return (← s.repeatLast? min max mark, rest)

def charRegex (f : Flags) (c : Char) : Regex := .set (f.foldSet (.single c))

/-- The expression of an escape. -/
def atomRegex? (f : Flags) : Atom → Option Regex
  | .char c byte => if !f.unicode && byte && c.toNat ≥ 0x80 then none else some (charRegex f c)
  | .set s => (f.checked? s).map .set
  | .look l => some (.look l)

def dotRegex? (f : Flags) : Option Regex :=
  if !f.unicode then none
  else if f.dotAll then some (.set .all)
  else if f.crlf then some (.set (.compl (.union (.single '\r') (.single '\n'))))
  else some (.set (.compl (.single '\n')))

def caret (f : Flags) : Look :=
  if !f.multiLine then .textStart else if f.crlf then .crlfLineStart else .lineStart

def dollar (f : Flags) : Look :=
  if !f.multiLine then .textEnd else if f.crlf then .crlfLineEnd else .lineEnd

/-- Reads the next part, which begins with the character `c`. -/
def State.step? (s : State) (c : Char) (rest : Text) : Option (State × Text) :=
  let f := s.top.flags
  match c with
  | '(' => group? s rest
  | ')' =>
    match s.outer with
    | [] => none
    | parent :: outer =>
      let inner := s.top.close
      some ({ s with top := parent.push ⟨inner.regex, inner.height + 1, true⟩, outer }, rest)
  | '|' => some ({ s with top := { s.top with items := [], branches := s.top.branch :: s.top.branches } }, rest)
  | '[' => do
    let (p, rest) ← class? f rest
    return (s.push ⟨.set (← f.checked? p.set), p.height, true⟩, rest)
  | '?' => uncounted? s 0 (some 1) rest
  | '*' => uncounted? s 0 none rest
  | '+' => uncounted? s 1 none rest
  | '\x7b' => counted? s rest
  | '\\' => do
    let (a, rest) ← escape? f rest
    return (s.pushLeaf (← atomRegex? f a), rest)
  | '.' => do return (s.pushLeaf (← dotRegex? f), rest)
  | '^' => some (s.pushLeaf (.look (caret f)), rest)
  | '$' => some (s.pushLeaf (.look (dollar f)), rest)
  | c => some (s.pushLeaf (charRegex f c), rest)

def State.run? : Nat → State → Text → Option State
  | 0, _, _ => none
  | fuel + 1, s, cs =>
    match s.top.flags.skip cs with
    | [] => some s
    | c :: rest => do
      let (s, rest) ← s.step? c rest
      run? fuel s rest

/-- The expression of a well-formed pattern of any size. -/
def read? (pattern : Text) : Option Item := do
  let s ← State.start.run? (pattern.length + 1) pattern
  if s.outer.isEmpty then some s.top.close else none

/-- How deeply a pattern may nest. -/
def maxHeight : Nat := 250

/-- What was read from a pattern is not too large. -/
def Item.Fits (pattern : Text) (i : Item) : Prop := i.height ≤ maxHeight ∧ Library.fits pattern i.regex = true

instance (pattern : Text) (i : Item) : Decidable (i.Fits pattern) := inferInstanceAs (Decidable (_ ∧ _))

/-- The expression of a pattern, when the pattern is well formed and not too large. -/
def parse? (pattern : Text) : Option Regex := do
  let whole ← read? pattern
  if whole.Fits pattern then some whole.regex else none

end Dialogue.Regex
