import Dialogue.Proofs.Regex.Reading
import Dialogue.Regex.Escape

/-!
# Reading escapes

Escapes are read in the same way when the text goes on. The exception is a word boundary before a brace with nothing
after it, which could still become the name of an assertion.

* `inBraces`: what stands in braces;
* `Local.hexEscape?`: characters by their numbers;
* `OpenName`, `carries_boundary?`: word boundaries;
* `Local.propertyEscape?`: properties;
* **`carries_escape?`**: all escapes.
-/

namespace Dialogue.Regex

variable {α σ : Type} {f : Flags}

/-! ## Up to a brace -/

/-- All that is read up to a closing brace. A character adds to what was read, and the brace finishes it. -/
def inBraces (f : Flags) (add : σ → Char → Option σ) (finish : σ → Text → Option (α × Text)) :
    Nat → σ → Text → Option (α × Text)
  | 0, _, _ => none
  | fuel + 1, acc, cs => first (fun c rest =>
      if c = '\x7d' then finish acc rest else (add acc c).bind fun acc => inBraces f add finish fuel acc rest)
      (f.skip cs)

variable {add : σ → Char → Option σ} {finish : σ → Text → Option (α × Text)}

theorem inBraces_suffix (hfinish : ∀ acc, Local (finish acc)) (fuel : Nat) (acc : σ) (cs : Text) (a : α) (rest : Text)
    (h : inBraces f add finish fuel acc cs = some (a, rest)) : rest <:+ cs := by
  induction fuel generalizing acc cs a rest with
  | zero => cases h
  | succ fuel ih =>
    refine (suffix_of_first (fun c more a rest' hnext => ?_) h).trans (skip_suffix f cs)
    split at hnext
    · exact (hfinish acc).suffix hnext
    · obtain ⟨acc', -, hrest⟩ := Option.bind_eq_some_iff.mp hnext
      exact ih acc' more a rest' hrest

theorem carries_inBraces (hfinish : ∀ acc, Local (finish acc)) {fuel : Nat} (acc : σ) {cs : Text}
    (h : cs.length < fuel) :
    Carries (inBraces f add finish fuel acc cs) fun ext =>
      inBraces f add finish (fuel + ext.length) acc (cs ++ ext) := by
  induction fuel generalizing acc cs with
  | zero => exact absurd h (Nat.not_lt_zero _)
  | succ fuel ih =>
    refine (Carries.skip_first _ (fun ext c rest => if c = '\x7d' then finish acc rest
      else (add acc c).bind fun acc => inBraces f add finish (fuel + ext.length) acc rest) (fun c rest hskip => ?_)
      (fun ext c more a rest hnext => ?_)).congr fun ext _ => by rw [Nat.succ_add, inBraces]
    · have hlt := length_lt_of_skip hskip
      split
      · exact (hfinish acc).carries rest
      · cases add acc c with
        | none => exact .same fun _ _ h => nomatch h
        | some acc' => exact ih acc' (by omega)
    · split at hnext
      · exact (hfinish acc).suffix hnext
      · obtain ⟨acc', -, hrest⟩ := Option.bind_eq_some_iff.mp hnext
        exact inBraces_suffix hfinish _ acc' more a rest hrest

theorem Local.inBraces (hfinish : ∀ acc, Local (finish acc)) (acc : σ) :
    Local fun cs => inBraces f add finish (cs.length + 1) acc cs :=
  fueled (fun fuel => Regex.inBraces f add finish fuel acc) (fun fuel => inBraces_suffix hfinish fuel acc)
    fun _ _ => carries_inBraces hfinish acc

theorem hexBraced?_eq (fuel : Nat) (acc : Option Nat) (cs : Text) :
    hexBraced? f fuel acc cs =
      inBraces f (fun acc c => (Text.hexValue? c).bind fun d => some (some (acc.getD 0 * 16 + d)))
        (fun acc cs => acc.bind fun n => some (n, f.skip cs)) fuel acc cs := by
  induction fuel generalizing acc cs with
  | zero => rfl
  | succ fuel ih =>
    rw [hexBraced?, inBraces]
    cases f.skip cs with
    | nil => rfl
    | cons c rest =>
      by_cases hc : c = '\x7d'
      · subst hc
        cases acc <;> rfl
      · simp [first, hc, ih, Option.bind_assoc]

theorem braced?_eq (fuel : Nat) (acc cs : Text) :
    braced? f fuel acc cs =
      inBraces f (fun acc c => some (c :: acc)) (fun acc cs => some (acc.reverse, cs)) fuel acc cs := by
  induction fuel generalizing acc cs with
  | zero => rfl
  | succ fuel ih =>
    rw [braced?, inBraces]
    cases f.skip cs with
    | nil => rfl
    | cons c rest =>
      by_cases hc : c = '\x7d'
      · subst hc
        rfl
      · simp [first, hc, ih]

theorem Local.hexBraced? (f : Flags) : Local fun cs => hexBraced? f (cs.length + 1) none cs :=
  (inBraces (fun acc => .given acc fun n => (Local.done n).skipped f) none).congr fun _ => hexBraced?_eq _ _ _

theorem Local.braced? (f : Flags) : Local fun cs => braced? f (cs.length + 1) [] cs :=
  (inBraces (fun acc => .done acc.reverse) []).congr fun _ => braced?_eq _ _ _

/-! ## Numbers -/

theorem Local.hexDigits? (f : Flags) (n acc : Nat) : Local (hexDigits? f n acc) := by
  induction n generalizing acc with
  | zero => exact .done acc
  | succ n ih =>
    refine (Local.first fun c => .given (Text.hexValue? c) fun d => (ih (acc * 16 + d)).skipped f).congr fun cs => ?_
    cases cs <;> rfl

theorem Local.hexEscape? (f : Flags) (width : Nat) : Local (hexEscape? f width) := by
  have hbraced := (hexBraced? f).bind fun n => .given (charOf? n) fun c => .done (Atom.char c false)
  have hdigits := (hexDigits? f width 0).bind fun n => .given (charOf? n) fun c => .done (Atom.char c (width == 2))
  refine ((Local.ifChar (c := '\x7b') (by decide) hbraced hdigits).skipped f).congr fun cs => ?_
  unfold Regex.hexEscape?
  cases f.skip cs with
  | nil => rfl
  | cons c rest =>
    by_cases hc : c = '\x7b'
    · subst hc
      rfl
    · simp [Regex.ifChar, hc]

/-! ## Word boundaries -/

/-- A brace with nothing after it but what is passed over. -/
def OpenName (f : Flags) (cs : Text) : Prop := ∃ rest, cs = '\x7b' :: rest ∧ f.skip rest = []

/-- The assertion of a name after its brace. -/
def boundaryName (f : Flags) (cs : Text) : Option (Atom × Text) :=
  (braced? f (cs.length + 1) [] cs).bind fun y =>
    (namedBoundary? (!f.unicode) y.1).bind fun l => some (.look l, y.2)

theorem Local.boundaryName (f : Flags) : Local (boundaryName f) :=
  (braced? f).bind fun name => .given (namedBoundary? (!f.unicode) name) fun l => .done (Atom.look l)

theorem boundary?_name {rest more : Text} {c : Char} (h : f.skip rest = c :: more) :
    boundary? f ('\x7b' :: rest) = if c.isAlpha || c == '-' then boundaryName f rest
      else some (.look (.wordBoundary !f.unicode), '\x7b' :: rest) := by
  simp [boundary?, boundaryName, h]

theorem boundary?_plain {cs : Text} (h : cs.head? ≠ some '\x7b') :
    boundary? f cs = some (.look (.wordBoundary !f.unicode), cs) := by
  cases cs with
  | nil => rfl
  | cons c rest =>
    have hc : c ≠ '\x7b' := fun hc => h (congrArg some hc)
    simp [boundary?, hc]

theorem boundary?_suffix {cs rest : Text} {a : Atom} (h : boundary? f cs = some (a, rest)) : rest <:+ cs := by
  by_cases hbrace : cs.head? = some '\x7b'
  · obtain ⟨more, rfl⟩ := List.head?_eq_some_iff.mp hbrace
    cases hskip : f.skip more with
    | nil => simp [boundary?, hskip] at h
    | cons c name =>
      rw [boundary?_name hskip] at h
      split at h
      · exact ((Local.boundaryName f).suffix h).trans (List.suffix_cons _ more)
      · exact (Local.done _).suffix h
  · rw [boundary?_plain hbrace] at h
    exact (Local.done _).suffix h

theorem carries_boundary? {cs : Text} (hopen : ¬ OpenName f cs) :
    Carries (boundary? f cs) fun ext => boundary? f (cs ++ ext) := by
  by_cases hbrace : cs.head? = some '\x7b'
  · obtain ⟨rest, rfl⟩ := List.head?_eq_some_iff.mp hbrace
    cases hskip : f.skip rest with
    | nil => exact absurd ⟨rest, rfl, hskip⟩ hopen
    | cons c name =>
      have hread : Carries (if c.isAlpha || c == '-' then boundaryName f rest
            else some (.look (.wordBoundary !f.unicode), '\x7b' :: rest)) fun ext =>
          if c.isAlpha || c == '-' then boundaryName f (rest ++ ext)
            else some (.look (.wordBoundary !f.unicode), '\x7b' :: (rest ++ ext)) := by
        split
        · exact (Local.boundaryName f).carries rest
        · exact .kept fun _ _ => rfl
      rw [boundary?_name hskip]
      exact hread.congr fun ext hext => boundary?_name (skip_append_cons hskip hext)
  · rw [boundary?_plain hbrace]
    exact .kept fun ext hext => boundary?_plain (hext.head?_ne (by decide) hbrace)

/-! ## Properties -/

/-- The name of a property: one character, or all that is in braces. -/
def propertyName (f : Flags) (c : Char) (rest : Text) : Option (Text × Text) :=
  if c = '\x7b' then braced? f (rest.length + 1) [] rest
  else if c = '\\' then none else some ([c], f.skip rest)

theorem Local.propertyName (f : Flags) (c : Char) : Local (propertyName f c) := by
  unfold Regex.propertyName
  split
  · exact braced? f
  · split
    · exact .fail
    · exact (Local.done [c]).skipped f

variable [Library]

theorem propertyEscape?_eq (negated : Bool) (cs : Text) :
    propertyEscape? f negated cs = (first (propertyName f) (f.skip cs)).bind fun y =>
      (propertySet? y.1).bind fun s =>
        if f.unicode = false then none
        else some (.set (if negated then f.complement (f.foldSet s) else f.foldSet s), y.2) := by
  unfold propertyEscape?
  cases f.skip cs with
  | nil => rfl
  | cons c rest =>
    by_cases hc : c = '\x7b'
    · subst hc
      simp [first, propertyName]
    · by_cases hback : c = '\\' <;> simp [first, propertyName, hc, hback]

theorem Local.propertyEscape? (f : Flags) (negated : Bool) : Local (propertyEscape? f negated) := by
  have hset : ∀ s, Local fun cs =>
      if f.unicode = false then none
      else some (Atom.set (if negated then f.complement (f.foldSet s) else f.foldSet s), cs) := by
    intro s
    split
    · exact .fail
    · exact .done _
  exact (((Local.first (propertyName f)).skipped f).bind fun name => .given (propertySet? name) hset).congr
    (propertyEscape?_eq negated)

/-! ## All escapes -/

/-- An escape that breaks off: a word boundary, and a brace with nothing after it but what is passed over. -/
def BreaksOff (f : Flags) (cs : Text) : Prop := ∃ rest, cs = 'b' :: rest ∧ OpenName f rest

/-- What is done with the character after a backslash. -/
def escapeStep (f : Flags) (c : Char) (rest : Text) : Option (Atom × Text) := escape? f (c :: rest)

theorem escape?_eq (cs : Text) : escape? f cs = first (escapeStep f) cs := by
  cases cs <;> rfl

/-- All escapes but one are as good as any reader. -/
theorem Local.escapeStep (f : Flags) {c : Char} (hc : c ≠ 'b') : Local (escapeStep f c) := by
  unfold Regex.escapeStep Regex.escape?
  dsimp only
  split
  · exact .done _
  · split
    any_goals exact .done _
    · exact hexEscape? f 2
    · exact hexEscape? f 4
    · exact hexEscape? f 8
    · exact propertyEscape? f false
    · exact propertyEscape? f true
    · exact absurd rfl hc
    · exact .fail

theorem escapeStep_suffix {c : Char} {cs rest : Text} {a : Atom} (h : escapeStep f c cs = some (a, rest)) :
    rest <:+ cs := by
  by_cases hc : c = 'b'
  · subst hc
    exact boundary?_suffix h
  · exact (Local.escapeStep f hc).suffix h

theorem escape?_suffix {cs rest : Text} {a : Atom} (h : escape? f cs = some (a, rest)) : rest <:+ cs := by
  rw [escape?_eq] at h
  exact suffix_of_first (fun _ _ _ _ => escapeStep_suffix) h

/-- **Escapes carry over**, but for one that breaks off. -/
theorem carries_escape? {cs : Text} (h : ¬ BreaksOff f cs) :
    Carries (escape? f cs) fun ext => escape? f (cs ++ ext) := by
  simp only [escape?_eq]
  refine .first _ (fun _ => escapeStep f) (fun c rest hcs => ?_) fun _ _ _ _ _ => escapeStep_suffix
  by_cases hc : c = 'b'
  · subst hc
    exact carries_boundary? fun hopen => h ⟨rest, hcs, hopen⟩
  · exact (Local.escapeStep f hc).carries rest

/-- With a continuation an escape that breaks off is a word boundary, if it is anything, and the brace is left. -/
theorem escape?_of_breaksOff {cs ext : Text} {a : Atom} {rest : Text} (h : BreaksOff f cs) (hext : Closing ext)
    (hread : escape? f (cs ++ ext) = some (a, rest)) :
    (∃ l, a = .look l) ∧ ∃ more, rest = '\x7b' :: more ∧ f.skip more = ext := by
  obtain ⟨_, rfl, inner, rfl, hskip⟩ := h
  have hboundary : boundary? f ('\x7b' :: (inner ++ ext)) = some (a, rest) := hread
  rcases skip_append f inner with hkept | ⟨-, hlost⟩
  · have hmore : f.skip (inner ++ ext) = ext := by rw [hkept ext hext, hskip, List.nil_append]
    obtain ⟨more, rfl, -⟩ := hext
    rw [boundary?_name hmore] at hboundary
    obtain ⟨rfl, rfl⟩ := Prod.mk.inj (Option.some.inj hboundary)
    exact ⟨⟨_, rfl⟩, _, rfl, hmore⟩
  · simp [boundary?, hlost ext hext] at hboundary

theorem escape?_eq_none_of_breaksOff {cs : Text} (h : BreaksOff f cs) : escape? f cs = none := by
  obtain ⟨_, rfl, inner, rfl, hskip⟩ := h
  show boundary? f ('\x7b' :: inner) = none
  simp [boundary?, hskip]

end Dialogue.Regex
