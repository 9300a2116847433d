import Dialogue.Regex.Escape

/-!
# Classes in brackets

A class is read from left to right with a stack of open brackets. Its parts are joined first, and then by the
operations `&&`, `--` and `~~`, which group to the left.

* `ClassOp`, `ClassPart`, `ClassFrame`: what has been read since a bracket;
* `classRange?`: a character, set or range;
* `class?`: a whole class.
-/

namespace Dialogue.Regex

variable [Library]

/-- The operations that join the parts of a class: `&&`, `--` and `~~`. -/
inductive ClassOp where
  | inter
  | diff
  | symmDiff

/-- A set that is a part of a class, and how deeply it nests. -/
structure ClassPart where
  set : CharSet
  height : Nat

/-- An open bracket: whether the class is negated, what stands before the last operation, with that operation, and the
parts since then, the last one first. -/
structure ClassFrame where
  negated : Bool
  left : Option (ClassPart × ClassOp)
  parts : List ClassPart

namespace ClassFrame

def push (k : ClassFrame) (p : ClassPart) : ClassFrame := { k with parts := p :: k.parts }

/-- The parts since the last operation as one. -/
def gather (k : ClassFrame) : ClassPart :=
  match k.parts with
  | [] => ⟨.none, 0⟩
  | [p] => p
  | ps => ⟨CharSet.unions (ps.reverse.map (·.set)), (ps.map (·.height)).foldl Nat.max 0 + 1⟩

/-- Everything since the bracket as one: operations group to the left, and case variants come in before them. -/
def settle (f : Flags) (k : ClassFrame) : ClassPart :=
  let right := k.gather
  match k.left with
  | none => right
  | some (l, op) =>
    let a := f.foldSet l.set
    let b := f.foldSet right.set
    let s := match op with
      | .inter => CharSet.inter a b
      | .diff => .diff a b
      | .symmDiff => .symmDiff a b
    ⟨s, Nat.max l.height right.height + 1⟩

def operate (f : Flags) (k : ClassFrame) (op : ClassOp) : ClassFrame :=
  { k with left := some (k.settle f, op), parts := [] }

/-- The class at its closing bracket. -/
def close (f : Flags) (k : ClassFrame) : ClassPart :=
  let p := k.settle f
  let s := f.foldSet p.set
  ⟨if k.negated then f.complement s else s, p.height + 1⟩

end ClassFrame

/-- Literal hyphens at the beginning of a class, and what follows them. -/
def openHyphens (f : Flags) : Nat → ClassFrame → Text → ClassFrame × Text
  | 0, k, cs => (k, cs)
  | fuel + 1, k, cs =>
    match cs with
    | '-' :: rest => openHyphens f fuel (k.push ⟨.single '-', 0⟩) (f.skip rest)
    | _ => (k, cs)

/-- The beginning of a class after its bracket: a negation, hyphens, and a bracket that stands for itself. -/
def openClass? (f : Flags) (cs : Text) : Option (ClassFrame × Text) :=
  let cs := f.skip cs
  let (negated, cs) := match cs with
    | '^' :: rest => (true, f.skip rest)
    | _ => (false, cs)
  let (k, cs) := openHyphens f (cs.length + 1) ⟨negated, none, []⟩ cs
  match cs with
  | [] => none
  | ']' :: rest =>
    if k.parts.isEmpty then
      match f.skip rest with
      | [] => none
      | rest => some (k.push ⟨.single ']', 0⟩, rest)
    else some (k, cs)
  | _ => some (k, cs)

/-- An ASCII class after its opening bracket, such as `:alpha:]`, and what follows it. -/
def posix? (f : Flags) (cs : Text) : Option (ClassPart × Text) :=
  match cs with
  | ':' :: rest =>
    let (negated, rest) := match rest with
      | '^' :: rest => (true, rest)
      | _ => (false, rest)
    let name := rest.takeWhile (· != ':')
    match rest.dropWhile (· != ':') with
    | ':' :: ']' :: after => do
      let s ← CharSet.posix? (String.ofList name)
      let s := f.foldSet s
      return (⟨if negated then f.complement s else s, 0⟩, after)
    | _ => none
  | _ => none

/-- One character, escape or set inside a class. -/
def classAtom? (f : Flags) : Text → Option (Atom × Text)
  | [] => none
  | '\\' :: rest => escape? f rest
  | c :: rest => some (.char c false, rest)

/-- A character inside a class; where characters are bytes it has to be an ASCII one. -/
def classChar? (f : Flags) : Atom → Option Char
  | .char c _ => if f.unicode || c.toNat < 0x80 then some c else none
  | .set _ | .look _ => none

/-- A part of a class that is no range. -/
def classPart? (f : Flags) : Atom → Option ClassPart
  | .set s => some ⟨s, 0⟩
  | a => (classChar? f a).map fun c => ⟨.single c, 0⟩

/-- A character, set or range inside a class, and what follows it. A hyphen before a bracket or another hyphen makes
no range. -/
def classRange? (f : Flags) (cs : Text) : Option (ClassPart × Text) := do
  let (first, rest) ← classAtom? f cs
  match f.skip rest with
  | [] => none
  | '-' :: more =>
    let peeked := f.peek ('-' :: more)
    if peeked == some ']' || peeked == some '-' then
      return (← classPart? f first, '-' :: more)
    else
      let (last, rest) ← classAtom? f (f.skip more)
      let low ← classChar? f first
      let high ← classChar? f last
      if low.toNat ≤ high.toNat then return (⟨.range low.toNat high.toNat, 0⟩, rest) else none
  | rest => return (← classPart? f first, rest)

/-- The rest of a class, with the brackets that enclose the innermost one. -/
def classBody? (f : Flags) : Nat → ClassFrame → List ClassFrame → Text → Option (ClassPart × Text)
  | 0, _, _, _ => none
  | fuel + 1, k, outer, cs =>
    match f.skip cs with
    | [] => none
    | '[' :: rest =>
      match posix? f rest with
      | some (p, rest) => classBody? f fuel (k.push p) outer rest
      | none => do
        let (inner, rest) ← openClass? f rest
        classBody? f fuel inner (k :: outer) rest
    | ']' :: rest =>
      match outer with
      | [] => some (k.close f, rest)
      | parent :: outer => classBody? f fuel (parent.push (k.close f)) outer rest
    | '&' :: '&' :: rest => classBody? f fuel (k.operate f .inter) outer rest
    | '-' :: '-' :: rest => classBody? f fuel (k.operate f .diff) outer rest
    | '~' :: '~' :: rest => classBody? f fuel (k.operate f .symmDiff) outer rest
    | cs => do
      let (p, rest) ← classRange? f cs
      classBody? f fuel (k.push p) outer rest

def class? (f : Flags) (cs : Text) : Option (ClassPart × Text) := do
  let (k, rest) ← openClass? f cs
  classBody? f (rest.length + 1) k [] rest

end Dialogue.Regex
