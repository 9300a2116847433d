import Dialogue.Proofs.Regex.Escapes
import Dialogue.Regex.Bracket

/-!
# Reading classes

A class is read in the same way when the text goes on. The text of a class has to go on up to its bracket, and so it
makes no difference to say that its beginning and its ranges may come to the end of the text: what is read after them
fails there.

* `opened`, `openClass?_eq`: the beginning of a class;
* `posixName`, `opFrom`: ASCII classes and operations;
* `rangeFrom`, `range_class`: characters, sets and ranges;
* `bodyStep`, `carries_classBody?`: the parts of a class;
* **`Local.class?`**: whole classes.
-/

namespace Dialogue.Regex

variable {α β : Type} {f : Flags}

/-! ## The beginning -/

theorem openHyphens_suffix (fuel : Nat) (k : ClassFrame) (cs : Text) : (openHyphens f fuel k cs).2 <:+ cs := by
  induction fuel generalizing k cs with
  | zero => exact List.suffix_rfl
  | succ fuel ih =>
    unfold openHyphens
    split
    · exact ((ih _ _).trans (skip_suffix f _)).trans (List.suffix_cons _ _)
    · exact List.suffix_rfl

theorem openHyphens_nil (fuel : Nat) (k : ClassFrame) : openHyphens f fuel k [] = (k, []) := by
  cases fuel <;> rfl

theorem openHyphens_plain {fuel : Nat} {k : ClassFrame} {cs : Text} (h : cs.head? ≠ some '-') :
    openHyphens f fuel k cs = (k, cs) := by
  cases fuel with
  | zero => rfl
  | succ fuel =>
    cases cs with
    | nil => rfl
    | cons c rest =>
      have hc : c ≠ '-' := fun hc => h (congrArg some hc)
      simp [openHyphens, hc]

theorem carries_openHyphens {fuel : Nat} {cs : Text} (k : ClassFrame) (h : cs.length < fuel) :
    Carries (some (openHyphens f fuel k cs)) fun ext => some (openHyphens f (fuel + ext.length) k (cs ++ ext)) := by
  induction fuel generalizing k cs with
  | zero => exact absurd h (Nat.not_lt_zero _)
  | succ fuel ih =>
    by_cases hhyphen : cs.head? = some '-'
    · obtain ⟨rest, rfl⟩ := List.head?_eq_some_iff.mp hhyphen
      have hle := (skip_suffix f rest).length_le
      rw [List.length_cons] at h
      have hstep : ∀ n more, openHyphens f (n + 1) k ('-' :: more) =
          openHyphens f n (k.push ⟨.single '-', 0⟩) (f.skip more) := fun _ _ => rfl
      rw [hstep]
      rcases skip_append f rest with hkept | ⟨hnil, hlost⟩
      · refine (ih (k.push ⟨.single '-', 0⟩) (Nat.lt_of_le_of_lt hle (Nat.lt_of_succ_lt_succ h))).congr
          fun ext hext => ?_
        rw [Nat.succ_add, List.cons_append, hstep, hkept ext hext]
      · rw [hnil, openHyphens_nil]
        refine .lost fun ext hext => ?_
        rw [Nat.succ_add, List.cons_append, hstep, hlost ext hext, openHyphens_nil]
    · rw [openHyphens_plain hhyphen]
      exact .kept fun ext hext => by rw [openHyphens_plain (hext.head?_ne (by decide) hhyphen)]

theorem Local.openHyphens (f : Flags) (k : ClassFrame) :
    Local fun cs => some (openHyphens f (cs.length + 1) k cs) := by
  refine fueled (fun fuel cs => some (Regex.openHyphens f fuel k cs)) (fun fuel cs a rest h => ?_)
    fun _ _ => carries_openHyphens k
  have hsuffix : (Regex.openHyphens f fuel k cs).2 <:+ cs := openHyphens_suffix fuel k cs
  rwa [Option.some.inj h] at hsuffix

/-- The hyphens at the beginning of a class, and a bracket that stands for itself. -/
def openedFrom (f : Flags) (negated : Bool) (cs : Text) : Option (ClassFrame × Text) :=
  (some (openHyphens f (cs.length + 1) ⟨negated, none, []⟩ cs)).bind fun y =>
    if y.1.parts.isEmpty then
      ifChar ']' (fun rest => some (y.1.push ⟨.single ']', 0⟩, f.skip rest)) (fun rest => some (y.1, rest)) y.2
    else some (y.1, y.2)

/-- The beginning of a class, also where the text ends right after it. -/
def opened (f : Flags) (cs : Text) : Option (ClassFrame × Text) :=
  ifChar '^' (fun rest => openedFrom f true (f.skip rest)) (openedFrom f false) (f.skip cs)

theorem Local.openedFrom (f : Flags) (negated : Bool) : Local (openedFrom f negated) := by
  have hbracket : ∀ k : ClassFrame, Local fun cs => if k.parts.isEmpty then
      Regex.ifChar ']' (fun rest => some (k.push ⟨.single ']', 0⟩, f.skip rest)) (fun rest => some (k, rest)) cs
      else some (k, cs) := by
    intro k
    split
    · exact .ifChar (by decide) ((Local.done _).skipped f) (.done k)
    · exact .done k
  exact (openHyphens f _).bind hbracket

theorem Local.opened (f : Flags) : Local (opened f) :=
  (ifChar (by decide) ((openedFrom f true).skipped f) (openedFrom f false)).skipped f

/-- Where the text has to go on, it does. -/
def goingOn (y : α × Text) : Option (α × Text) := if y.2.isEmpty then none else some y

theorem openClass?_eq (cs : Text) : openClass? f cs = (opened f cs).bind goingOn := by
  unfold openClass? opened
  dsimp only
  generalize f.skip cs = marked
  -- with the sign of a negation and without it the hyphens come next
  by_cases hmark : ∃ rest, marked = '^' :: rest
  on_goal 1 =>
    obtain ⟨rest, rfl⟩ := hmark
    rw [ifChar_self]
  on_goal 2 =>
    have hplain : ∀ rest, marked ≠ '^' :: rest := fun rest h => hmark ⟨rest, h⟩
    rw [ifChar_of_ne hplain]
  all_goals
    simp only [openedFrom, Option.bind_some]
    generalize openHyphens f _ _ _ = y
    obtain ⟨k, _ | ⟨c, more⟩⟩ := y
    · simp [ifChar, goingOn]
    · by_cases hc : c = ']'
      · subst hc
        by_cases hk : k.parts.isEmpty
        · cases hskip : f.skip more <;> simp [goingOn, hk, hskip]
        · simp [goingOn, hk]
      · simp [ifChar, goingOn, hc]

/-- What reads on in a class reads nothing at the end of the text. -/
theorem bind_goingOn (next : α → Text → Option (β × Text)) (hnil : ∀ a, next a [] = none) (x : Option (α × Text)) :
    ((x.bind goingOn).bind fun y => next y.1 y.2) = x.bind fun y => next y.1 y.2 := by
  rcases x with _ | ⟨a, _ | ⟨c, rest⟩⟩
  · rfl
  · exact (hnil a).symm
  · rfl

/-! ## ASCII classes -/

/-- The name of an ASCII class up to its closing bracket. -/
def posixName (f : Flags) (negated : Bool) (cs : Text) : Option (ClassPart × Text) :=
  (upTo ':' cs).bind fun y =>
    ifChar ']' (fun after => (CharSet.posix? (String.ofList y.1)).bind fun s =>
      some (⟨if negated then f.complement (f.foldSet s) else f.foldSet s, 0⟩, after)) (fun _ => none) y.2

theorem posixName_of_closed {negated : Bool} {cs after : Text}
    (h : cs.dropWhile (· != ':') = ':' :: ']' :: after) :
    posixName f negated cs = (CharSet.posix? (String.ofList (cs.takeWhile (· != ':')))).bind fun s =>
      some (⟨if negated then f.complement (f.foldSet s) else f.foldSet s, 0⟩, after) := by
  simp [posixName, upTo, h]

theorem posixName_of_not_closed {negated : Bool} {cs : Text}
    (h : ∀ after, cs.dropWhile (· != ':') ≠ ':' :: ']' :: after) : posixName f negated cs = none := by
  unfold posixName upTo
  cases hdrop : cs.dropWhile (· != ':') with
  | nil => rfl
  | cons d more =>
    have hhead := List.head?_dropWhile_not (· != ':') cs
    rw [hdrop] at hhead
    obtain rfl : d = ':' := by simpa using hhead
    have hopen : ∀ after, more ≠ ']' :: after := fun after hmore => h after (by rw [hdrop, hmore])
    simp [ifChar_of_ne hopen]

theorem posix?_eq (cs : Text) :
    posix? f cs = ifChar ':' (ifChar '^' (posixName f true) (posixName f false)) (fun _ => none) cs := by
  unfold posix?
  split
  · rename_i rest
    rw [ifChar_self]
    dsimp only
    by_cases hmark : ∃ more, rest = '^' :: more
    · obtain ⟨more, rfl⟩ := hmark
      rw [ifChar_self]
      split
      · rename_i hclosed
        exact (posixName_of_closed hclosed).symm
      · rename_i hopen
        exact (posixName_of_not_closed hopen).symm
    · have hplain : ∀ more, rest ≠ '^' :: more := fun more h => hmark ⟨more, h⟩
      rw [ifChar_of_ne hplain]
      simp only
      split
      · rename_i hclosed
        exact (posixName_of_closed hclosed).symm
      · rename_i hopen
        exact (posixName_of_not_closed hopen).symm
  · rename_i hcolon
    rw [ifChar_of_ne hcolon]

/-- An ASCII class is read up to its closing bracket, and so a continuation changes nothing. -/
theorem Exact.posixName (f : Flags) (negated : Bool) : Exact (posixName f negated) :=
  (upTo (d := ':') (by decide) (by decide)).bind fun name => ifChar (c := ']') (by decide)
    (given (CharSet.posix? (String.ofList name)) fun s =>
      done (ClassPart.mk (if negated then f.complement (f.foldSet s) else f.foldSet s) 0)) fail

theorem Exact.posix? (f : Flags) : Exact (posix? f) :=
  (ifChar (by decide) (ifChar (by decide) (posixName f true) (posixName f false)) fail).congr posix?_eq

/-! ## Operations -/

/-- An operation that begins with the character `c`. -/
def opFrom (c : Char) : Text → Option (ClassOp × Text) :=
  if c = '&' then ifChar '&' (fun rest => some (.inter, rest)) fun _ => none
  else if c = '-' then ifChar '-' (fun rest => some (.diff, rest)) fun _ => none
  else if c = '~' then ifChar '~' (fun rest => some (.symmDiff, rest)) fun _ => none
  else fun _ => none

theorem Exact.opFrom (c : Char) : Exact (opFrom c) := by
  unfold Regex.opFrom
  split
  · exact ifChar (by decide) (done ClassOp.inter) fail
  · split
    · exact ifChar (by decide) (done ClassOp.diff) fail
    · split
      · exact ifChar (by decide) (done ClassOp.symmDiff) fail
      · exact fail

theorem opFrom_eq_none {c : Char} {rest : Text} (hinter : ∀ more, c :: rest ≠ '&' :: '&' :: more)
    (hdiff : ∀ more, c :: rest ≠ '-' :: '-' :: more) (hsymm : ∀ more, c :: rest ≠ '~' :: '~' :: more) :
    opFrom c rest = none := by
  cases rest with
  | nil => unfold opFrom; split_ifs <;> rfl
  | cons d rest => unfold opFrom; split_ifs <;> simp_all [ifChar]

/-! ## Ranges -/

/-- An atom that is no assertion. -/
def noLook : Atom → Text → Option (Atom × Text)
  | .look _, _ => none
  | a, cs => some (a, cs)

theorem Local.noLook (a : Atom) : Local (noLook a) := by
  cases a with
  | char c byte => exact done (Atom.char c byte)
  | set s => exact done (Atom.set s)
  | look l => exact fail

/-- Whether a hyphen before `next` stands for itself. -/
def endsRange (next : Option Char) : Bool := next == some ']' || next == some '-'

theorem endsRange_of_white {c : Char} (hc : Unicode.isWhite c = true) : endsRange (some c) = false := by
  have hbracket : c ≠ ']' := fun h => by rw [h] at hc; exact absurd hc (by decide +kernel)
  have hhyphen : c ≠ '-' := fun h => by rw [h] at hc; exact absurd hc (by decide +kernel)
  simp [endsRange, hbracket, hhyphen]

/-- What is looked for past blanks and one comment sign does not depend on a continuation. -/
theorem endsRange_peek_append {more ext : Text} (hext : Closing ext) :
    endsRange (f.peek ('-' :: (more ++ ext))) = endsRange (f.peek ('-' :: more)) := by
  have happend : ∀ cs : Text, (cs ++ ext).dropWhile _ = _ := fun _ => dropWhile_isWhite_append hext
  obtain ⟨tail, rfl, -⟩ := hext
  have hfirst : endsRange (some ')') = false := rfl
  unfold Flags.peek
  by_cases hverbose : f.verbose = true
  · simp only [hverbose, Bool.not_true, Bool.false_eq_true, if_false, List.drop_one, List.tail_cons, happend]
    -- the very next character is only asked for when it is passed over, and then it ends no range
    have hhead : ∀ rest, more.dropWhile Unicode.isWhite = rest → endsRange rest.head? = false →
        endsRange more.head? = false := by
      intro rest hdrop hrest
      cases more with
      | nil => rfl
      | cons c tail =>
        by_cases hc : Unicode.isWhite c = true
        · exact endsRange_of_white hc
        · rw [List.dropWhile_cons_of_neg hc] at hdrop
          rwa [← hdrop] at hrest
    cases hdrop : more.dropWhile Unicode.isWhite with
    | nil => simp [hfirst, hhead [] hdrop rfl]
    | cons c rest =>
      by_cases hc : c = '#'
      · subst hc
        cases hrest : rest.dropWhile Unicode.isWhite with
        | nil => simp [happend, hrest, hfirst, hhead _ hdrop rfl]
        | cons d tail => simp [happend, hrest]
      · simp
  · cases more with
    | nil => simp [hverbose, endsRange]
    | cons c rest => simp [hverbose]

/-- The range from one atom to another one. -/
def rangeTo (f : Flags) (a b : Atom) (cs : Text) : Option (ClassPart × Text) :=
  (classChar? f a).bind fun low => (classChar? f b).bind fun high =>
    if low.toNat ≤ high.toNat then some (⟨.range low.toNat high.toNat, 0⟩, cs) else none

theorem Local.rangeTo (f : Flags) (a b : Atom) : Local (rangeTo f a b) := by
  refine given (classChar? f a) fun low => given (classChar? f b) fun high => ?_
  split
  · exact done _
  · exact fail

variable [Library]

/-- An atom that begins with the character `c` and is no assertion. -/
def atomFrom (f : Flags) (c : Char) (rest : Text) : Option (Atom × Text) :=
  if c = '\\' then (escape? f rest).bind fun y => noLook y.1 y.2 else some (.char c false, rest)

theorem bind_classAtom? (next : Atom → Text → Option (β × Text)) (hlook : ∀ l rest, next (.look l) rest = none)
    (cs : Text) :
    ((classAtom? f cs).bind fun y => next y.1 y.2) = (first (atomFrom f) cs).bind fun y => next y.1 y.2 := by
  cases cs with
  | nil => rfl
  | cons c rest =>
    by_cases hc : c = '\\'
    · subst hc
      simp only [classAtom?, first, atomFrom, if_true]
      rcases escape? f rest with _ | ⟨_ | _ | l, more⟩
      · rfl
      · rfl
      · rfl
      · exact hlook l more
    · simp [classAtom?, first, atomFrom, hc]

/-- An escape that breaks off is an assertion, if it is anything, and so it makes no difference here. -/
theorem Local.atomFrom (f : Flags) (c : Char) : Local (atomFrom f c) := by
  unfold Regex.atomFrom
  split
  · refine ⟨fun h => ?_, fun cs => ?_⟩
    · obtain ⟨⟨a, more⟩, hread, hatom⟩ := Option.bind_eq_some_iff.mp h
      exact ((noLook a).suffix hatom).trans (escape?_suffix hread)
    · by_cases hbreak : BreaksOff f cs
      · rw [escape?_eq_none_of_breaksOff hbreak]
        refine .cut fun ext a rest hext h => ?_
        obtain ⟨⟨b, more⟩, hread, hatom⟩ := Option.bind_eq_some_iff.mp h
        obtain ⟨⟨l, rfl⟩, -⟩ := escape?_of_breaksOff hbreak hext hread
        cases hatom
      · exact carriesOn noLook (carries_escape? hbreak)
  · exact .done _

/-- The end of a range that begins with an atom. -/
def rangeEnd (f : Flags) (a : Atom) (cs : Text) : Option (ClassPart × Text) :=
  (first (atomFrom f) (f.skip cs)).bind fun y => rangeTo f a y.1 y.2

/-- What comes of an atom that a range may begin with. -/
def rangeAfter (f : Flags) (a : Atom) : Text → Option (ClassPart × Text)
  | '-' :: more =>
    if endsRange (f.peek ('-' :: more)) then (classPart? f a).bind fun p => some (p, '-' :: more)
    else rangeEnd f a more
  | cs => (classPart? f a).bind fun p => some (p, cs)

/-- A character, set or range that begins with the character `c`, also where the text ends right after it. -/
def rangeFrom (f : Flags) (c : Char) (rest : Text) : Option (ClassPart × Text) :=
  (atomFrom f c rest).bind fun y => rangeAfter f y.1 (f.skip y.2)

theorem Local.rangeEnd (f : Flags) (a : Atom) : Local (rangeEnd f a) :=
  ((first (atomFrom f)).skipped f).bind (rangeTo f a)

theorem rangeAfter_plain {a : Atom} {cs : Text} (h : cs.head? ≠ some '-') :
    rangeAfter f a cs = (classPart? f a).bind fun p => some (p, cs) := by
  cases cs with
  | nil => rfl
  | cons c rest =>
    have hc : c ≠ '-' := fun hc => h (congrArg some hc)
    simp [rangeAfter, hc]

theorem Local.rangeAfter (f : Flags) (a : Atom) : Local (rangeAfter f a) := by
  have hplain : Local fun cs => (classPart? f a).bind fun p => some (p, cs) := given _ fun p => done p
  refine ⟨fun {cs p rest} h => ?_, fun cs => ?_⟩
  · by_cases hhyphen : cs.head? = some '-'
    · obtain ⟨more, rfl⟩ := List.head?_eq_some_iff.mp hhyphen
      simp only [Regex.rangeAfter] at h
      split at h
      · exact hplain.suffix h
      · exact ((rangeEnd f a).suffix h).trans (List.suffix_cons _ _)
    · rw [rangeAfter_plain hhyphen] at h
      exact hplain.suffix h
  · by_cases hhyphen : cs.head? = some '-'
    · obtain ⟨more, rfl⟩ := List.head?_eq_some_iff.mp hhyphen
      have hread : Carries (Regex.rangeAfter f a ('-' :: more)) fun ext =>
          if endsRange (f.peek ('-' :: more)) then (classPart? f a).bind fun p => some (p, '-' :: (more ++ ext))
          else Regex.rangeEnd f a (more ++ ext) := by
        simp only [Regex.rangeAfter]
        split
        · exact hplain.carries ('-' :: more)
        · exact (rangeEnd f a).carries more
      refine hread.congr fun ext hext => ?_
      simp only [List.cons_append, Regex.rangeAfter, endsRange_peek_append hext]
    · rw [rangeAfter_plain hhyphen]
      exact (hplain.carries cs).congr fun ext hext => rangeAfter_plain (hext.head?_ne (by decide) hhyphen)

theorem Local.rangeFrom (f : Flags) (c : Char) : Local (rangeFrom f c) :=
  (atomFrom f c).bind fun a => (rangeAfter f a).skipped f

theorem rangeAfter_look (l : Look) (cs : Text) : rangeAfter f (.look l) cs = none := by
  by_cases hhyphen : cs.head? = some '-'
  · obtain ⟨more, rfl⟩ := List.head?_eq_some_iff.mp hhyphen
    simp [rangeAfter, rangeEnd, rangeTo, classPart?, classChar?]
  · rw [rangeAfter_plain hhyphen]
    rfl

theorem rangeEnd_eq (a : Atom) (cs : Text) :
    rangeEnd f a cs = (classAtom? f (f.skip cs)).bind fun y => rangeTo f a y.1 y.2 := by
  refine (bind_classAtom? (rangeTo f a) (fun l rest => ?_) _).symm
  simp [rangeTo, classChar?]

theorem classRange?_eq (cs : Text) :
    classRange? f cs = (classAtom? f cs).bind fun y =>
      if (f.skip y.2).isEmpty then none else rangeAfter f y.1 (f.skip y.2) := by
  unfold classRange?
  cases classAtom? f cs with
  | none => rfl
  | some y =>
    obtain ⟨a, rest⟩ := y
    simp only [Option.bind_eq_bind, Option.bind_some]
    cases f.skip rest with
    | nil => rfl
    | cons c more =>
      by_cases hc : c = '-'
      · subst hc
        simp [rangeAfter, rangeEnd_eq, rangeTo, endsRange]
      · simp [rangeAfter, hc]

/-- What needs more text makes no difference between a range at the end of the text and none. -/
theorem range_class (next : ClassPart → Text → Option (β × Text)) (hnil : ∀ p, next p [] = none) (cs : Text) :
    ((classRange? f cs).bind fun y => next y.1 y.2) = (first (rangeFrom f) cs).bind fun y => next y.1 y.2 := by
  have hrange : first (rangeFrom f) cs = (first (atomFrom f) cs).bind fun y => rangeAfter f y.1 (f.skip y.2) := by
    cases cs <;> rfl
  rw [hrange, ← bind_classAtom? (fun a rest => rangeAfter f a (f.skip rest)) fun l rest => rangeAfter_look l _,
    classRange?_eq, Option.bind_assoc, Option.bind_assoc]
  congr 1
  funext y
  cases f.skip y.2 with
  | nil =>
    rw [rangeAfter_plain (by simp)]
    cases classPart? f y.1 with
    | none => rfl
    | some p => exact (hnil p).symm
  | cons c more => rfl

/-! ## The parts of a class -/

@[simp] theorem classBody?_nil (fuel : Nat) (k : ClassFrame) (outer : List ClassFrame) :
    classBody? f fuel k outer [] = none := by
  cases fuel with
  | zero => rfl
  | succ fuel => simp [classBody?, skip_nil]

theorem opening_class (fuel : Nat) (outer : List ClassFrame) (cs : Text) :
    ((openClass? f cs).bind fun y => classBody? f fuel y.1 outer y.2) =
      (opened f cs).bind fun y => classBody? f fuel y.1 outer y.2 := by
  rw [openClass?_eq]
  exact bind_goingOn (fun k => classBody? f fuel k outer) (fun k => classBody?_nil fuel k outer) _

/-- What is done with a character in a class, when `go` reads the rest of it. -/
def bodyStep (f : Flags) (go : ClassFrame → List ClassFrame → Text → Option (ClassPart × Text)) (k : ClassFrame)
    (outer : List ClassFrame) (c : Char) (rest : Text) : Option (ClassPart × Text) :=
  if c = '[' then
    match posix? f rest with
    | some y => go (k.push y.1) outer y.2
    | none => (opened f rest).bind fun y => go y.1 (k :: outer) y.2
  else if c = ']' then
    match outer with
    | [] => some (k.close f, rest)
    | parent :: outer => go (parent.push (k.close f)) outer rest
  else
    match opFrom c rest with
    | some y => go (k.operate f y.1) outer y.2
    | none => (rangeFrom f c rest).bind fun y => go (k.push y.1) outer y.2

theorem classBody?_succ (fuel : Nat) (k : ClassFrame) (outer : List ClassFrame) (cs : Text) :
    classBody? f (fuel + 1) k outer cs = first (bodyStep f (classBody? f fuel) k outer) (f.skip cs) := by
  rw [classBody?]
  split
  · rename_i hskip
    rw [hskip]
    rfl
  · rename_i rest hskip
    rw [hskip]
    simp only [first, bodyStep, if_true]
    cases posix? f rest with
    | none => exact opening_class fuel (k :: outer) rest
    | some y => rfl
  · rename_i rest hskip
    rw [hskip]
    cases outer <;> rfl
  · rename_i rest hskip
    rw [hskip]
    rfl
  · rename_i rest hskip
    rw [hskip]
    rfl
  · rename_i rest hskip
    rw [hskip]
    rfl
  · rename_i hnil hopen hclose hinter hdiff hsymm
    cases hskip : f.skip cs with
    | nil => exact absurd hskip hnil
    | cons c rest =>
      rw [hskip] at hopen hclose hinter hdiff hsymm
      have hc : c ≠ '[' := fun hc => hopen rest (by rw [hc])
      have hc' : c ≠ ']' := fun hc => hclose rest (by rw [hc])
      simp only [first, bodyStep, hc, hc', if_false, opFrom_eq_none hinter hdiff hsymm]
      exact range_class (fun p => classBody? f fuel (k.push p) outer) (fun p => classBody?_nil fuel (k.push p) outer) _

section Body

variable {go : ClassFrame → List ClassFrame → Text → Option (ClassPart × Text)}

theorem bodyStep_suffix (hgo : ∀ k outer cs p rest, go k outer cs = some (p, rest) → rest <:+ cs) (k : ClassFrame)
    (outer : List ClassFrame) (c : Char) (cs : Text) (p : ClassPart) (rest : Text)
    (h : bodyStep f go k outer c cs = some (p, rest)) : rest <:+ cs := by
  unfold bodyStep at h
  split_ifs at h
  · split at h
    · rename_i y hposix
      exact (hgo _ _ _ _ _ h).trans ((Exact.posix? f).suffix hposix)
    · obtain ⟨y, hopened, hrest⟩ := Option.bind_eq_some_iff.mp h
      exact (hgo _ _ _ _ _ hrest).trans ((Local.opened f).suffix hopened)
  · cases outer with
    | nil => exact (Local.done _).suffix h
    | cons parent outer => exact hgo _ _ _ _ _ h
  · split at h
    · rename_i y hop
      exact (hgo _ _ _ _ _ h).trans ((Exact.opFrom c).suffix hop)
    · obtain ⟨y, hrange, hrest⟩ := Option.bind_eq_some_iff.mp h
      exact (hgo _ _ _ _ _ hrest).trans ((Local.rangeFrom f c).suffix hrange)

theorem carries_bodyStep {go' : Text → ClassFrame → List ClassFrame → Text → Option (ClassPart × Text)} {rest : Text}
    (hgo : ∀ k outer cs, cs.length ≤ rest.length → Carries (go k outer cs) fun ext => go' ext k outer (cs ++ ext))
    (hnil : ∀ k outer, go k outer [] = none) (hnil' : ∀ ext k outer, go' ext k outer [] = none)
    (suffix : ∀ ext k outer cs p rest, go' ext k outer cs = some (p, rest) → rest <:+ cs) (k : ClassFrame)
    (outer : List ClassFrame) (c : Char) :
    Carries (bodyStep f go k outer c rest) fun ext => bodyStep f (go' ext) k outer c (rest ++ ext) := by
  -- at the end of the text nothing is read, whether the continuation was passed over or not
  have hlost : ∀ k outer, Carries (go k outer []) fun ext => go' ext k outer [] := by
    intro k outer
    rw [hnil]
    refine .cut fun ext p rest _ h => ?_
    rw [hnil'] at h
    cases h
  unfold bodyStep
  split_ifs
  · cases hposix : posix? f rest with
    | none =>
      have hopened := ((Local.opened f).carries rest).bind (fun k' => go k' (k :: outer))
        (fun ext k' => go' ext k' (k :: outer)) (fun a cs ha => hgo a _ cs ((Local.opened f).suffix ha).length_le)
        (fun a _ => hlost a _) fun ext a cs b rest => suffix ext a _ cs b rest
      exact hopened.congr fun ext hext => by rw [(Exact.posix? f).append rest hext, hposix]; rfl
    | some y =>
      have hle := ((Exact.posix? f).suffix hposix).length_le
      exact (hgo (k.push y.1) outer y.2 hle).congr fun ext hext => by
        rw [(Exact.posix? f).append rest hext, hposix]
        rfl
  · cases outer with
    | nil => exact .kept fun _ _ => rfl
    | cons parent outer => exact hgo _ outer rest (Nat.le_refl _)
  · cases hop : opFrom c rest with
    | none =>
      have hrange := ((Local.rangeFrom f c).carries rest).bind (fun p => go (k.push p) outer)
        (fun ext p => go' ext (k.push p) outer)
        (fun p cs hp => hgo _ outer cs ((Local.rangeFrom f c).suffix hp).length_le)
        (fun p _ => hlost _ outer) fun ext p cs b rest => suffix ext _ outer cs b rest
      exact hrange.congr fun ext hext => by rw [(Exact.opFrom c).append rest hext, hop]; rfl
    | some y =>
      have hle := ((Exact.opFrom c).suffix hop).length_le
      exact (hgo (k.operate f y.1) outer y.2 hle).congr fun ext hext => by
        rw [(Exact.opFrom c).append rest hext, hop]
        rfl

end Body

theorem classBody?_suffix (fuel : Nat) (k : ClassFrame) (outer : List ClassFrame) (cs : Text) (p : ClassPart)
    (rest : Text) (h : classBody? f fuel k outer cs = some (p, rest)) : rest <:+ cs := by
  induction fuel generalizing k outer cs p rest with
  | zero => cases h
  | succ fuel ih =>
    rw [classBody?_succ] at h
    exact (suffix_of_first (fun c cs p rest => bodyStep_suffix ih k outer c cs p rest) h).trans (skip_suffix f cs)

theorem carries_classBody? {fuel : Nat} (k : ClassFrame) (outer : List ClassFrame) {cs : Text}
    (h : cs.length < fuel) :
    Carries (classBody? f fuel k outer cs) fun ext => classBody? f (fuel + ext.length) k outer (cs ++ ext) := by
  induction fuel generalizing k outer cs with
  | zero => exact absurd h (Nat.not_lt_zero _)
  | succ fuel ih =>
    rw [classBody?_succ]
    refine (Carries.skip_first _ (fun ext => bodyStep f (classBody? f (fuel + ext.length)) k outer)
      (fun c rest hskip => ?_) fun ext c cs p rest => bodyStep_suffix (classBody?_suffix _) k outer c cs p rest).congr
      fun ext _ => by rw [Nat.succ_add, classBody?_succ]
    have hlt := length_lt_of_skip hskip
    exact carries_bodyStep (fun k outer cs hcs => ih k outer (by omega)) (classBody?_nil fuel)
      (fun ext => classBody?_nil (fuel + ext.length)) (fun ext => classBody?_suffix (fuel + ext.length)) k outer c

theorem Local.classBody? (f : Flags) (k : ClassFrame) : Local fun cs => classBody? f (cs.length + 1) k [] cs :=
  fueled (fun fuel => Regex.classBody? f fuel k []) (fun fuel => classBody?_suffix fuel k [])
    fun _ _ => carries_classBody? k []

/-- **Classes carry over.** -/
theorem Local.class? (f : Flags) : Local (class? f) := by
  refine ((opened f).bind (classBody? f)).congr fun cs => ?_
  unfold Regex.class?
  rw [openClass?_eq]
  exact bind_goingOn (fun k rest => Regex.classBody? f (rest.length + 1) k [] rest)
    (fun k => classBody?_nil _ k []) _

end Dialogue.Regex
