import Mathlib.Data.List.TakeWhile
import Mathlib.Tactic.Common
import Dialogue.Regex.Flags

/-!
# Reading on

What is read of a pattern when its text goes on with a closing parenthesis. Most parts are read as they were, and the
parenthesis is left for later. There are two ways for this to fail: a comment that is open at the end of the text takes
the parenthesis in, and a part that the text breaks off can take it in, too, and be complete then.

* `Closing`: texts that begin with a closing parenthesis;
* `Carries`: what is read of a text and of its continuations;
* `Local`: readers that leave the rest of a text and carry over to its continuations;
* `Carries.bind`, `Carries.first`, `Carries.skip_first`: one step of a reader after another;
* `Local.bind`, `Local.first`, `Local.ifChar`, `Local.skipped`, `Local.fueled`: readers put together;
* `Exact`, `upTo`: readers that pass nothing over, and what stands before a character.
-/

namespace Dialogue.Regex

variable {α β γ : Type}

/-- A closing parenthesis, and nothing after it but dollar signs: nothing, above all, that would end a comment. -/
def Closing (ext : Text) : Prop := ∃ more, ext = ')' :: more ∧ ∀ c ∈ more, c = '$'

theorem Closing.eq_or_eq {ext : Text} {c : Char} (hext : Closing ext) (hc : c ∈ ext) : c = ')' ∨ c = '$' := by
  obtain ⟨more, rfl, hmore⟩ := hext
  exact (List.mem_cons.mp hc).imp_right (hmore c)

/-- What holds of the first character of a text holds within a continuation, if it holds of a closing parenthesis. -/
theorem Closing.of_head? {cs ext : Text} {p : Char → Prop} (hext : Closing ext) (hparen : p ')')
    (h : ∀ c ∈ cs.head?, p c) : ∀ c ∈ (cs ++ ext).head?, p c := by
  obtain ⟨more, rfl, -⟩ := hext
  cases cs with
  | nil => simpa using hparen
  | cons c rest => exact h

theorem Closing.head?_ne {cs ext : Text} {c : Char} (hext : Closing ext) (hc : c ≠ ')') (h : cs.head? ≠ some c) :
    (cs ++ ext).head? ≠ some c := fun happend =>
  hext.of_head? (p := (· ≠ c)) hc.symm (fun _ hd hdc => h (hdc ▸ hd)) c happend rfl

/-- **How reading carries over** from a text to its continuations: all that is left of the text is left, and then the
continuation; or nothing is left, when the end of the text is in a comment. What could not be read of the text alone
can be read within the continuation only together with its parenthesis. -/
inductive Carries : Option (α × Text) → (Text → Option (α × Text)) → Prop
  | kept {a : α} {rest : Text} {within : Text → Option (α × Text)}
      (eq : ∀ ext, Closing ext → within ext = some (a, rest ++ ext)) : Carries (some (a, rest)) within
  | lost {a : α} {within : Text → Option (α × Text)}
      (eq : ∀ ext, Closing ext → within ext = some (a, [])) : Carries (some (a, [])) within
  | cut {within : Text → Option (α × Text)}
      (suffix : ∀ ext a rest, Closing ext → within ext = some (a, rest) → rest <:+ ext.tail) : Carries none within

namespace Carries

variable {x : Option (α × Text)} {within within' : Text → Option (α × Text)}

theorem congr (h : Carries x within) (heq : ∀ ext, Closing ext → within' ext = within ext) : Carries x within' := by
  cases h with
  | kept eq => exact .kept fun ext hext => (heq ext hext).trans (eq ext hext)
  | lost eq => exact .lost fun ext hext => (heq ext hext).trans (eq ext hext)
  | cut suffix => exact .cut fun ext a rest hext h => suffix ext a rest hext ((heq ext hext).symm.trans h)

/-- Where nothing was left to read, the continuation is not read either. -/
theorem same (h : ∀ a rest, x = some (a, rest) → rest = []) : Carries x fun _ => x := by
  cases x with
  | none => exact .cut fun _ _ _ _ h => nomatch h
  | some y =>
    obtain ⟨a, rest⟩ := y
    obtain rfl := h a rest rfl
    exact .lost fun _ _ => rfl

/-- One reader after another. The second one may depend on the continuation, as one does that is given its fuel by the
length of the text. -/
theorem bind (h : Carries x within) (next : α → Text → Option (β × Text))
    (next' : Text → α → Text → Option (β × Text))
    (kept : ∀ a rest, x = some (a, rest) → Carries (next a rest) fun ext => next' ext a (rest ++ ext))
    (lost : ∀ a, x = some (a, []) → Carries (next a []) fun ext => next' ext a [])
    (suffix : ∀ ext a rest b rest', next' ext a rest = some (b, rest') → rest' <:+ rest) :
    Carries (x.bind fun y => next y.1 y.2) fun ext => (within ext).bind fun y => next' ext y.1 y.2 := by
  cases h with
  | kept eq => exact (kept _ _ rfl).congr fun ext hext => by rw [eq ext hext]; rfl
  | lost eq => exact (lost _ rfl).congr fun ext hext => by rw [eq ext hext]; rfl
  | cut cut =>
    refine .cut fun ext b rest' hext h => ?_
    obtain ⟨⟨a, rest⟩, hwithin, hnext⟩ := Option.bind_eq_some_iff.mp h
    exact (suffix ext a rest b rest' hnext).trans (cut ext a rest hext hwithin)

end Carries

/-- **A reader leaves a part of the text and carries over** to continuations of it. -/
structure Local (read : Text → Option (α × Text)) : Prop where
  suffix {cs : Text} {a : α} {rest : Text} : read cs = some (a, rest) → rest <:+ cs
  carries (cs : Text) : Carries (read cs) fun ext => read (cs ++ ext)

/-- Reads the first character of a text in one way or another. -/
def first (next : Char → Text → Option (α × Text)) : Text → Option (α × Text)
  | [] => none
  | c :: rest => next c rest

/-- Reads on in one way after the character `c`, and in another way everywhere else. -/
def ifChar (c : Char) (yes no : Text → Option (α × Text)) : Text → Option (α × Text)
  | [] => no []
  | d :: rest => if d = c then yes rest else no (d :: rest)

@[simp] theorem ifChar_self {c : Char} {yes no : Text → Option (α × Text)} {rest : Text} :
    ifChar c yes no (c :: rest) = yes rest := if_pos rfl

theorem ifChar_of_ne {c : Char} {yes no : Text → Option (α × Text)} {cs : Text} (h : ∀ rest, cs ≠ c :: rest) :
    ifChar c yes no cs = no cs := by
  cases cs with
  | nil => rfl
  | cons d rest => exact if_neg fun hd => h rest (by rw [hd])

theorem suffix_of_first {cs rest : Text} {a : α} {next : Char → Text → Option (α × Text)}
    (suffix : ∀ c rest a rest', next c rest = some (a, rest') → rest' <:+ rest) (h : first next cs = some (a, rest)) :
    rest <:+ cs := by
  cases cs with
  | nil => cases h
  | cons c more => exact (suffix c more a rest h).trans (List.suffix_cons c more)

theorem Carries.first {cs : Text} (next : Char → Text → Option (α × Text))
    (next' : Text → Char → Text → Option (α × Text))
    (more : ∀ c rest, cs = c :: rest → Carries (next c rest) fun ext => next' ext c (rest ++ ext))
    (suffix : ∀ ext c rest a rest', next' ext c rest = some (a, rest') → rest' <:+ rest) :
    Carries (first next cs) fun ext => Regex.first (next' ext) (cs ++ ext) := by
  cases cs with
  | nil =>
    refine .cut fun ext a rest hext h => ?_
    obtain ⟨more, rfl, -⟩ := hext
    exact suffix _ _ _ _ _ h
  | cons c rest => exact more c rest rfl

namespace Local

theorem congr {read read' : Text → Option (α × Text)} (h : Local read) (heq : ∀ cs, read' cs = read cs) :
    Local read' := by
  rwa [funext heq]

theorem of_nil {read : Text → Option (α × Text)} (h : Local read) {a : α} {rest : Text}
    (hread : read [] = some (a, rest)) : rest = [] :=
  List.suffix_nil.mp (h.suffix hread)

theorem done (a : α) : Local fun cs => some (a, cs) where
  suffix h := by
    obtain ⟨rfl, rfl⟩ := Prod.mk.inj (Option.some.inj h)
    exact List.suffix_rfl
  carries _ := .kept fun _ _ => rfl

theorem fail : Local fun _ => (none : Option (α × Text)) where
  suffix h := nomatch h
  carries _ := .cut fun _ _ _ _ h => nomatch h

theorem carriesOn {next : α → Text → Option (β × Text)} (hnext : ∀ a, Local (next a)) {x : Option (α × Text)}
    {within : Text → Option (α × Text)} (h : Carries x within) :
    Carries (x.bind fun y => next y.1 y.2) fun ext => (within ext).bind fun y => next y.1 y.2 :=
  h.bind next (fun _ => next) (fun a rest _ => (hnext a).carries rest) (fun a _ => .same fun _ _ => (hnext a).of_nil)
    fun _ a _ _ _ => (hnext a).suffix

theorem bind {read : Text → Option (α × Text)} {next : α → Text → Option (β × Text)} (h : Local read)
    (hnext : ∀ a, Local (next a)) : Local fun cs => (read cs).bind fun y => next y.1 y.2 where
  suffix hbind := by
    obtain ⟨⟨a, rest⟩, hread, hrest⟩ := Option.bind_eq_some_iff.mp hbind
    exact ((hnext a).suffix hrest).trans (h.suffix hread)
  carries cs := carriesOn hnext (h.carries cs)

/-- A reader that is given its fuel by the length of the text, so that a continuation adds its length to it. -/
theorem fueled (read : Nat → Text → Option (α × Text))
    (suffix : ∀ fuel cs a rest, read fuel cs = some (a, rest) → rest <:+ cs)
    (carries : ∀ fuel cs, cs.length < fuel → Carries (read fuel cs) fun ext => read (fuel + ext.length) (cs ++ ext)) :
    Local fun cs => read (cs.length + 1) cs where
  suffix {cs a rest} := suffix (cs.length + 1) cs a rest
  carries cs := (carries _ cs (Nat.lt_succ_self _)).congr fun ext _ => by
    rw [List.length_append, Nat.add_right_comm]

theorem given (o : Option γ) {read : γ → Text → Option (α × Text)} (h : ∀ c, Local (read c)) :
    Local fun cs => o.bind fun c => read c cs := by
  cases o with
  | none => exact fail
  | some c => exact h c

theorem first {next : Char → Text → Option (α × Text)} (h : ∀ c, Local (next c)) : Local (Regex.first next) where
  suffix := suffix_of_first fun c _ _ _ => (h c).suffix
  carries _ := .first next (fun _ => next) (fun c rest _ => (h c).carries rest) fun _ c _ _ _ => (h c).suffix

theorem ifChar {c : Char} {yes no : Text → Option (α × Text)} (hc : c ≠ ')') (hyes : Local yes) (hno : Local no) :
    Local (Regex.ifChar c yes no) where
  suffix {cs a rest} hread := by
    cases cs with
    | nil => exact hno.suffix hread
    | cons d more =>
      simp only [Regex.ifChar] at hread
      split at hread
      · exact (hyes.suffix hread).trans (List.suffix_cons d more)
      · exact hno.suffix hread
  carries cs := by
    cases cs with
    | nil =>
      refine (hno.carries []).congr fun ext hext => ?_
      obtain ⟨more, rfl, -⟩ := hext
      simp [Regex.ifChar, hc.symm]
    | cons d more =>
      by_cases hd : d = c
      · simpa [Regex.ifChar, hd] using hyes.carries more
      · simpa [Regex.ifChar, hd] using hno.carries (d :: more)

end Local

/-! ## Readers that pass nothing over -/

/-- A reader that carries over to continuations exactly: what cannot be read of a text cannot be read within them. -/
structure Exact (read : Text → Option (α × Text)) : Prop where
  suffix {cs : Text} {a : α} {rest : Text} : read cs = some (a, rest) → rest <:+ cs
  append (cs : Text) {ext : Text} : Closing ext → read (cs ++ ext) = (read cs).map fun y => (y.1, y.2 ++ ext)

namespace Exact

theorem toLocal {read : Text → Option (α × Text)} (h : Exact read) : Local read where
  suffix := h.suffix
  carries cs := by
    cases hread : read cs with
    | none =>
      refine .cut fun ext a rest hext hwithin => ?_
      rw [h.append cs hext, hread] at hwithin
      cases hwithin
    | some y => exact .kept fun ext hext => by rw [h.append cs hext, hread]; rfl

theorem congr {read read' : Text → Option (α × Text)} (h : Exact read) (heq : ∀ cs, read' cs = read cs) :
    Exact read' := by
  rwa [funext heq]

theorem done (a : α) : Exact fun cs => some (a, cs) where
  suffix := (Local.done a).suffix
  append _ _ _ := rfl

theorem fail : Exact fun _ => (none : Option (α × Text)) where
  suffix h := nomatch h
  append _ _ _ := rfl

theorem given (o : Option γ) {read : γ → Text → Option (α × Text)} (h : ∀ c, Exact (read c)) :
    Exact fun cs => o.bind fun c => read c cs := by
  cases o with
  | none => exact fail
  | some c => exact h c

theorem bind {read : Text → Option (α × Text)} {next : α → Text → Option (β × Text)} (h : Exact read)
    (hnext : ∀ a, Exact (next a)) : Exact fun cs => (read cs).bind fun y => next y.1 y.2 where
  suffix := (h.toLocal.bind fun a => (hnext a).toLocal).suffix
  append cs ext hext := by
    rw [h.append cs hext]
    cases read cs with
    | none => rfl
    | some y => exact (hnext y.1).append y.2 hext

theorem ifChar {c : Char} {yes no : Text → Option (α × Text)} (hc : c ≠ ')') (hyes : Exact yes) (hno : Exact no) :
    Exact (Regex.ifChar c yes no) where
  suffix := (Local.ifChar hc hyes.toLocal hno.toLocal).suffix
  append cs ext hext := by
    cases cs with
    | nil =>
      have hnil := hno.append [] hext
      obtain ⟨more, rfl, -⟩ := hext
      simpa [Regex.ifChar, hc.symm] using hnil
    | cons d rest =>
      by_cases hd : d = c
      · simpa [Regex.ifChar, hd] using hyes.append rest hext
      · simpa [Regex.ifChar, hd] using hno.append (d :: rest) hext

end Exact

/-- The text before the character `d`, and what follows it. -/
def upTo (d : Char) (cs : Text) : Option (Text × Text) :=
  match cs.dropWhile (· != d) with
  | [] => none
  | _ :: rest => some (cs.takeWhile (· != d), rest)

theorem Exact.upTo {d : Char} (hparen : d ≠ ')') (hdollar : d ≠ '$') : Exact (upTo d) where
  suffix {cs name rest} h := by
    unfold Regex.upTo at h
    split at h
    · cases h
    · rename_i e more hdrop
      obtain ⟨-, rfl⟩ := Prod.mk.inj (Option.some.inj h)
      exact (List.suffix_cons e more).trans (hdrop ▸ List.dropWhile_suffix _)
  append cs ext hext := by
    have hd : d ∉ ext := fun hmem => (hext.eq_or_eq hmem).elim hparen hdollar
    cases hdrop : cs.dropWhile (· != d) with
    | nil =>
      have hnil : ext.dropWhile (· != d) = [] :=
        List.dropWhile_eq_nil_iff.mpr fun c hc => bne_iff_ne.mpr fun h => hd (h ▸ hc)
      simp [Regex.upTo, List.dropWhile_append, hdrop, hnil]
    | cons e more =>
      have hlen : (cs.takeWhile (· != d)).length ≠ cs.length := by
        have hsplit := congrArg List.length (List.takeWhile_append_dropWhile (p := (· != d)) (l := cs))
        rw [List.length_append, hdrop, List.length_cons] at hsplit
        omega
      simp [Regex.upTo, List.dropWhile_append, List.takeWhile_append, hdrop, hlen]

/-! ## What is passed over -/

theorem isWhite_parenthesis : Unicode.isWhite ')' = false := by decide +kernel

theorem Closing.dropWhile_isWhite {ext : Text} (hext : Closing ext) : ext.dropWhile Unicode.isWhite = ext := by
  obtain ⟨more, rfl, -⟩ := hext
  exact List.dropWhile_cons_of_neg (by simp [isWhite_parenthesis])

theorem dropWhile_isWhite_append {cs ext : Text} (hext : Closing ext) :
    (cs ++ ext).dropWhile Unicode.isWhite = cs.dropWhile Unicode.isWhite ++ ext := by
  rw [List.dropWhile_append, hext.dropWhile_isWhite]
  split
  · rename_i hnil
    rw [List.isEmpty_iff.mp hnil, List.nil_append]
  · rfl

theorem skipVerbose_suffix (inComment : Bool) (cs : Text) : Flags.skipVerbose inComment cs <:+ cs := by
  induction cs generalizing inComment with
  | nil => exact List.suffix_rfl
  | cons c rest ih =>
    rw [Flags.skipVerbose]
    split
    · exact (ih _).trans (List.suffix_cons c rest)
    · split
      · exact (ih _).trans (List.suffix_cons c rest)
      · split
        · exact (ih _).trans (List.suffix_cons c rest)
        · exact List.suffix_rfl

theorem skipVerbose_of_comment {cs : Text} (h : '\n' ∉ cs) : Flags.skipVerbose true cs = [] := by
  induction cs with
  | nil => rfl
  | cons c rest ih =>
    obtain ⟨hc, hrest⟩ := not_or.mp (List.mem_cons.not.mp h)
    have hne : (c != '\n') = true := bne_iff_ne.mpr (Ne.symm hc)
    rw [Flags.skipVerbose, if_pos rfl, hne, ih hrest]

theorem carries_skipVerbose (inComment : Bool) (cs : Text) :
    Carries (some ((), Flags.skipVerbose inComment cs)) fun ext =>
      some ((), Flags.skipVerbose inComment (cs ++ ext)) := by
  induction cs generalizing inComment with
  | nil =>
    cases inComment with
    | true =>
      refine .lost fun ext hext => ?_
      have hline : '\n' ∉ ext := fun hmem => by rcases hext.eq_or_eq hmem with h | h <;> cases h
      rw [List.nil_append, skipVerbose_of_comment hline]
    | false =>
      refine .kept fun ext hext => ?_
      obtain ⟨more, rfl, -⟩ := hext
      simp [Flags.skipVerbose, isWhite_parenthesis]
  | cons c rest ih =>
    simp only [List.cons_append, Flags.skipVerbose]
    split
    · exact ih _
    · split
      · exact ih _
      · split
        · exact ih _
        · exact .kept fun _ _ => rfl

theorem Local.skip (f : Flags) : Local fun cs => some ((), f.skip cs) where
  suffix {cs a rest} h := by
    obtain rfl : f.skip cs = rest := congrArg Prod.snd (Option.some.inj h)
    unfold Flags.skip
    split
    · exact skipVerbose_suffix false cs
    · exact List.suffix_rfl
  carries cs := by
    unfold Flags.skip
    split
    · exact carries_skipVerbose false cs
    · exact .kept fun _ _ => rfl

theorem skip_suffix (f : Flags) (cs : Text) : f.skip cs <:+ cs := (Local.skip f).suffix rfl

theorem Local.skipped (f : Flags) {read : Text → Option (α × Text)} (h : Local read) :
    Local fun cs => read (f.skip cs) :=
  (Local.skip f).bind fun _ => h

theorem length_lt_of_skip {f : Flags} {cs rest : Text} {c : Char} (h : f.skip cs = c :: rest) :
    rest.length < cs.length := by
  have hle := (skip_suffix f cs).length_le
  rwa [h, List.length_cons] at hle

theorem Carries.skip_first {f : Flags} {cs : Text} (next : Char → Text → Option (α × Text))
    (next' : Text → Char → Text → Option (α × Text))
    (more : ∀ c rest, f.skip cs = c :: rest → Carries (next c rest) fun ext => next' ext c (rest ++ ext))
    (suffix : ∀ ext c rest a rest', next' ext c rest = some (a, rest') → rest' <:+ rest) :
    Carries (Regex.first next (f.skip cs)) fun ext => Regex.first (next' ext) (f.skip (cs ++ ext)) := by
  refine ((Local.skip f).carries cs).bind (fun _ => Regex.first next) (fun ext _ => Regex.first (next' ext)) ?_
    (fun _ _ => .same fun _ _ h => nomatch h) fun ext _ _ _ _ => suffix_of_first (suffix ext)
  intro _ rest hrest
  obtain rfl : f.skip cs = rest := congrArg Prod.snd (Option.some.inj hrest)
  exact .first next next' more suffix

theorem skip_append (f : Flags) (cs : Text) :
    (∀ ext, Closing ext → f.skip (cs ++ ext) = f.skip cs ++ ext) ∨
      f.skip cs = [] ∧ ∀ ext, Closing ext → f.skip (cs ++ ext) = [] := by
  have h := (Local.skip f).carries cs
  generalize hx : f.skip cs = x at h
  cases h with
  | kept eq => exact .inl fun ext hext => congrArg Prod.snd (Option.some.inj (eq ext hext))
  | lost eq => exact .inr ⟨rfl, fun ext hext => congrArg Prod.snd (Option.some.inj (eq ext hext))⟩

theorem skip_append_cons {f : Flags} {cs rest ext : Text} {c : Char} (h : f.skip cs = c :: rest)
    (hext : Closing ext) : f.skip (cs ++ ext) = c :: (rest ++ ext) := by
  rcases skip_append f cs with hkept | ⟨hnil, -⟩
  · rw [hkept ext hext, h, List.cons_append]
  · rw [h] at hnil
    cases hnil

theorem skip_nil (f : Flags) : f.skip [] = [] := List.suffix_nil.mp (skip_suffix f [])

theorem Closing.skip {ext : Text} (hext : Closing ext) (f : Flags) : f.skip ext = ext := by
  obtain ⟨more, rfl, -⟩ := hext
  unfold Flags.skip
  split
  · simp [Flags.skipVerbose, isWhite_parenthesis]
  · rfl

end Dialogue.Regex
