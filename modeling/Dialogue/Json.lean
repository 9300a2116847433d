import Dialogue.Text.Basic

/-!
# JSON

Values of the JSON grammar as they are written: members keep their order and may repeat, a number keeps whether it
is written as a whole number, and a string whose escapes leave a surrogate unpaired has no text. Nothing but blanks
may stand around a value.

* `Json`, `Json.Number`;
* `Json.parse?`: the value of a text, if the text is in the grammar;
* `Json.record?`: the values of named members, from an object or, by position, from an array;
* `Json.toWord?`, `Json.toBool?`: simple values.
-/

namespace Dialogue

/-- A number as it is written: whether a minus sign stands in front, the digits before a point or exponent, and whether
there is neither a fraction nor an exponent. -/
structure Json.Number where
  negative : Bool
  whole : Nat
  plain : Bool
  deriving DecidableEq, Repr

/-- A JSON value. A string is no text when a surrogate is unpaired, and an object is a list of members. -/
inductive Json where
  | null
  | bool (b : Bool)
  | number (n : Json.Number)
  | string (s : Option Text)
  | array (items : List Json)
  | object (members : List (Option Text × Json))
  deriving Repr, Inhabited

namespace Json

/-- Blanks between the parts of a value. -/
def isBlank (c : Char) : Bool := c == ' ' || c == '\t' || c == '\n' || c == '\r'

def skipBlanks (cs : Text) : Text := cs.dropWhile isBlank

/-- What follows `word`, when the text begins with it. -/
def expect? : Text → Text → Option Text
  | [], cs => some cs
  | w :: word, c :: cs => if w == c then expect? word cs else none
  | _ :: _, [] => none

/-- Four digits in base sixteen and what follows them. -/
def hexQuad? : Text → Option (Nat × Text)
  | a :: b :: c :: d :: rest => do
    return ((((← Text.hexValue? a) * 16 + (← Text.hexValue? b)) * 16 + (← Text.hexValue? c)) * 16 + (← Text.hexValue? d), rest)
  | _ => none

/-- The character of an escape other than `\u`. -/
def simpleEscape? : Char → Option Char
  | '"' => some '"'
  | '\\' => some '\\'
  | '/' => some '/'
  | 'b' => some '\x08'
  | 'f' => some '\x0c'
  | 'n' => some '\n'
  | 'r' => some '\r'
  | 't' => some '\t'
  | _ => none

def isHighSurrogate (n : Nat) : Bool := 0xD800 ≤ n && n < 0xDC00

def isLowSurrogate (n : Nat) : Bool := 0xDC00 ≤ n && n < 0xE000

/-- The rest of a string after its opening quote. `acc` holds the characters so far, the last one first, unless a
surrogate was unpaired; `high` is a first half that waits for the second. -/
def stringBody? (acc : Option Text) (high : Option Nat) : Nat → Text → Option (Option Text × Text)
  | 0, _ => none
  | fuel + 1, cs =>
    let whole := if high.isSome then none else acc
    match cs with
    | [] => none
    | '"' :: rest => some (whole.map List.reverse, rest)
    | '\\' :: 'u' :: rest => do
      let (n, rest) ← hexQuad? rest
      match high with
      | some h =>
        if isLowSurrogate n then
          stringBody? (acc.map (Char.ofNat (0x10000 + (h - 0xD800) * 0x400 + (n - 0xDC00)) :: ·)) none fuel rest
        else stringBody? none none fuel rest
      | none =>
        if isHighSurrogate n then stringBody? acc (some n) fuel rest
        else if isLowSurrogate n then stringBody? none none fuel rest
        else stringBody? (acc.map (Char.ofNat n :: ·)) none fuel rest
    | '\\' :: c :: rest => do
      let e ← simpleEscape? c
      stringBody? (whole.map (e :: ·)) none fuel rest
    | c :: rest =>
      if c == '\\' || c < ' ' then none else stringBody? (whole.map (c :: ·)) none fuel rest

/-- The digits at the front and what follows them. -/
def digits (cs : Text) : Text × Text := (cs.takeWhile Char.isDigit, cs.dropWhile Char.isDigit)

/-- The number that digits in base ten write. -/
def value (ds : Text) : Nat := ds.foldl (fun n d => n * 10 + (d.toNat - '0'.toNat)) 0

/-- A fraction at the front, if there is one: whether there is, and what follows it. -/
def fraction? : Text → Option (Bool × Text)
  | '.' :: rest => if (digits rest).1.isEmpty then none else some (true, (digits rest).2)
  | cs => some (false, cs)

def skipSign : Text → Text
  | '+' :: rest => rest
  | '-' :: rest => rest
  | cs => cs

/-- An exponent at the front, if there is one: whether there is, and what follows it. -/
def exponent? (cs : Text) : Option (Bool × Text) :=
  match cs with
  | c :: rest =>
    if c == 'e' || c == 'E' then
      if (digits (skipSign rest)).1.isEmpty then none else some (true, (digits (skipSign rest)).2)
    else some (false, cs)
  | [] => some (false, [])

/-- The unsigned part of a number and what follows it; a zero stands alone before a point or exponent. -/
def unsigned? (negative : Bool) (cs : Text) : Option (Number × Text) := do
  let (ds, rest) := digits cs
  if ds.isEmpty || (ds.head? == some '0' && ds.length > 1) then none
  let (fractional, rest) ← fraction? rest
  let (scaled, rest) ← exponent? rest
  return (⟨negative, value ds, !fractional && !scaled⟩, rest)

def number? : Text → Option (Number × Text)
  | '-' :: rest => unsigned? true rest
  | cs => unsigned? false cs

mutual

def value? : Nat → Text → Option (Json × Text)
  | 0, _ => none
  | fuel + 1, cs =>
    match skipBlanks cs with
    | [] => none
    | 'n' :: rest => (expect? ['u', 'l', 'l'] rest).map fun rest => (.null, rest)
    | 't' :: rest => (expect? ['r', 'u', 'e'] rest).map fun rest => (.bool true, rest)
    | 'f' :: rest => (expect? ['a', 'l', 's', 'e'] rest).map fun rest => (.bool false, rest)
    | '"' :: rest => (stringBody? (some []) none (rest.length + 1) rest).map fun (s, rest) => (.string s, rest)
    | '[' :: rest =>
      match skipBlanks rest with
      | ']' :: rest => some (.array [], rest)
      | rest => items? fuel [] rest
    | '\x7b' :: rest =>
      match skipBlanks rest with
      | '\x7d' :: rest => some (.object [], rest)
      | rest => members? fuel [] rest
    | cs => (number? cs).map fun (n, rest) => (.number n, rest)

/-- The items of an array after those in `acc`, the last one first. -/
def items? : Nat → List Json → Text → Option (Json × Text)
  | 0, _, _ => none
  | fuel + 1, acc, cs => do
    let (item, rest) ← value? fuel cs
    match skipBlanks rest with
    | ',' :: rest => items? fuel (item :: acc) rest
    | ']' :: rest => some (.array (item :: acc).reverse, rest)
    | _ => none

/-- The members of an object after those in `acc`, the last one first. -/
def members? : Nat → List (Option Text × Json) → Text → Option (Json × Text)
  | 0, _, _ => none
  | fuel + 1, acc, cs =>
    match skipBlanks cs with
    | '"' :: rest => do
      let (key, rest) ← stringBody? (some []) none (rest.length + 1) rest
      match skipBlanks rest with
      | ':' :: rest => do
        let (item, rest) ← value? fuel rest
        match skipBlanks rest with
        | ',' :: rest => members? fuel ((key, item) :: acc) rest
        | '\x7d' :: rest => some (.object ((key, item) :: acc).reverse, rest)
        | _ => none
      | _ => none
    | _ => none

end

/-- The value that a text writes. -/
def parse? (cs : Text) : Option Json := do
  let (v, rest) ← value? (2 * cs.length + 2) cs
  if (skipBlanks rest).isEmpty then some v else none

/-- A natural number that fits into a word. -/
def toWord? : Json → Option Nat
  | .number n => if !n.negative && n.plain && n.whole < 0x10000000000000000 then some n.whole else none
  | _ => none

def toBool? : Json → Option Bool
  | .bool b => some b
  | _ => none

/-- The values of the members called `name`. -/
def membersOf (name : Text) (members : List (Option Text × Json)) : List Json :=
  (members.filter fun m => m.1 == some name).map Prod.snd

/-- At most one item, or none of them all. -/
def atMostOne? : List Json → Option (Option Json)
  | [] => some none
  | [j] => some (some j)
  | _ => none

/-- The values of the named members of a record, absent ones included. An object may have further members, and none
of the named ones twice; an array gives the values in the order of the names, and no more of them. -/
def record? (names : List Text) : Json → Option (List (Option Json))
  | .object members =>
    if members.all fun m => m.1.isSome then names.mapM fun n => atMostOne? (membersOf n members) else none
  | .array items =>
    if items.length ≤ names.length then
      some (items.map some ++ List.replicate (names.length - items.length) none)
    else none
  | _ => none

end Json

end Dialogue
