import Dialogue.Regex.Library

/-!
# A small library

The general categories and a few other properties, without scripts, ages and most of the properties that are yes or no;
and an estimate of the size of an automaton over UTF-8.

* `normalName`, `Library.standard`;
* `CharSet.weight`, `Regex.weight`: the estimate.
-/

namespace Dialogue.Regex

/-- A property name without blanks, hyphens and underscores, in lower case and without a leading `is`. -/
def normalName (name : Text) : String :=
  let cs := name.filter fun c => c != ' ' && c != '-' && c != '_' && c.toNat < 0x80
  let cs := cs.map Char.toLower
  let cs := match cs with
    | 'i' :: 's' :: rest => if rest == ['c'] then cs else rest
    | _ => cs
  String.ofList cs

def CharSet.category? (name : String) : Option CharSet :=
  (Unicode.Category.named? name).map fun holds => .property (.category holds)

/-- A general category, or one of a few other properties. -/
def CharSet.named? (name : Text) : Option CharSet :=
  match normalName name with
  | "any" => some all
  | "ascii" => some (.range 0 0x7F)
  | "assigned" => some (compl (.property (.category (· == .cn))))
  | "alphabetic" | "alpha" => some (.property .alphabetic)
  | "whitespace" | "wspace" | "space" => some (.property .white)
  | n => category? n

/-- A general category that is asked for as such. -/
def CharSet.valued? (key value : Text) : Option CharSet :=
  match normalName key with
  | "gc" | "generalcategory" => category? (normalName value)
  | _ => none

/-- Roughly how many bytes of memory an automaton over UTF-8 takes for a set. -/
def CharSet.weight : CharSet → Nat
  | .none => 32
  | .range _ high => if high < 0x80 then 32 else if high < 0x800 then 64 else if high < 0x10000 then 128 else 256
  | .property .word | .property .alphabetic | .property (.category _) => 50000
  | .property .digit => 6000
  | .property .white => 400
  | .union s t | .inter s t | .diff s t | .symmDiff s t => s.weight + t.weight
  | .folded s | .asciiFolded s => s.weight + 32

/-- Roughly how many bytes of memory an automaton over UTF-8 takes for an expression. -/
def weight : Regex → Nat
  | .empty => 32
  | .set s => s.weight
  | .look _ => 32
  | .seq r s => r.weight + s.weight
  | .alt r s => r.weight + s.weight + 40
  | .repetition r min none _ => r.weight * Nat.max min 1 + 80
  | .repetition r min (some max) _ => r.weight * max + 40 * (max - min) + 32

/-- Ten mebibytes for an automaton. -/
def maxWeight : Nat := 10 * 0x100000

instance Library.standard : Library where
  named? := CharSet.named?
  valued? := CharSet.valued?
  fits _ r := r.weight ≤ maxWeight

end Dialogue.Regex
