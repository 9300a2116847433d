/-!
# General categories

* `Category`: the thirty values of the general category of a code point;
* `Category.isLetter`, `isMark`, `isSeparator`, `isOther`: the groups that the program asks for;
* `Category.named?`: the set of categories that a short or long name stands for.
-/

namespace Dialogue.Unicode

/-- The general category of a code point, by its abbreviation. -/
inductive Category where
  | lu
  | ll
  | lt
  | lm
  | lo
  | mn
  | mc
  | me
  | nd
  | nl
  | no
  | pc
  | pd
  | ps
  | pe
  | pi
  | pf
  | po
  | sm
  | sc
  | sk
  | so
  | zs
  | zl
  | zp
  | cc
  | cf
  | cs
  | co
  | cn
  deriving DecidableEq, Repr

namespace Category

def isLetter : Category → Bool
  | .lu | .ll | .lt | .lm | .lo => true
  | _ => false

def isCased : Category → Bool
  | .lu | .ll | .lt => true
  | _ => false

def isMark : Category → Bool
  | .mn | .mc | .me => true
  | _ => false

def isNumber : Category → Bool
  | .nd | .nl | .no => true
  | _ => false

def isPunctuation : Category → Bool
  | .pc | .pd | .ps | .pe | .pi | .pf | .po => true
  | _ => false

def isSymbol : Category → Bool
  | .sm | .sc | .sk | .so => true
  | _ => false

def isSeparator : Category → Bool
  | .zs | .zl | .zp => true
  | _ => false

/-- Controls, format characters, surrogates, private use and unassigned code points. -/
def isOther : Category → Bool
  | .cc | .cf | .cs | .co | .cn => true
  | _ => false

/-- Lower-case names, without blanks, hyphens and underscores, of the categories and of their groups. -/
def names : List (List String × (Category → Bool)) := [
  (["lu", "uppercaseletter"], (· == .lu)),
  (["ll", "lowercaseletter"], (· == .ll)),
  (["lt", "titlecaseletter"], (· == .lt)),
  (["lm", "modifierletter"], (· == .lm)),
  (["lo", "otherletter"], (· == .lo)),
  (["mn", "nonspacingmark"], (· == .mn)),
  (["mc", "spacingmark"], (· == .mc)),
  (["me", "enclosingmark"], (· == .me)),
  (["nd", "decimalnumber", "digit"], (· == .nd)),
  (["nl", "letternumber"], (· == .nl)),
  (["no", "othernumber"], (· == .no)),
  (["pc", "connectorpunctuation"], (· == .pc)),
  (["pd", "dashpunctuation"], (· == .pd)),
  (["ps", "openpunctuation"], (· == .ps)),
  (["pe", "closepunctuation"], (· == .pe)),
  (["pi", "initialpunctuation"], (· == .pi)),
  (["pf", "finalpunctuation"], (· == .pf)),
  (["po", "otherpunctuation"], (· == .po)),
  (["sm", "mathsymbol"], (· == .sm)),
  (["sc", "currencysymbol"], (· == .sc)),
  (["sk", "modifiersymbol"], (· == .sk)),
  (["so", "othersymbol"], (· == .so)),
  (["zs", "spaceseparator"], (· == .zs)),
  (["zl", "lineseparator"], (· == .zl)),
  (["zp", "paragraphseparator"], (· == .zp)),
  (["cc", "control", "cntrl"], (· == .cc)),
  (["cf", "format"], (· == .cf)),
  (["co", "privateuse"], (· == .co)),
  (["cn", "unassigned"], (· == .cn)),
  (["l", "letter"], isLetter),
  (["lc", "casedletter"], isCased),
  (["m", "mark", "combiningmark"], isMark),
  (["n", "number"], isNumber),
  (["p", "punctuation", "punct"], isPunctuation),
  (["s", "symbol"], isSymbol),
  (["z", "separator"], isSeparator),
  (["c", "other"], isOther)]

/-- The categories that a name in the form of `names` stands for. -/
def named? (name : String) : Option (Category → Bool) :=
  (names.find? fun row => row.1.contains name).map Prod.snd

end Category

end Dialogue.Unicode
