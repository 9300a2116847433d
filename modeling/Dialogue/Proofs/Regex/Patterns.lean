import Dialogue.Proofs.Regex.Groups

/-!
# Reading a pattern inside a group

A pattern that is pasted into a group is read as it is alone, as long as it closes no group that it did not open; then
the parenthesis after it closes the group, unless the pattern ends in a comment. What is read alone and what is read
inside differ in the groups around only.

* `State.under`, `step?_under`: groups around what is read;
* `ReadsOn`, `PassesOver`, **`run?_under`**: reading a pattern with its continuation;
* `Overcloses`, **`outer_of_run?_eq_none`**: patterns that cannot be read, and those that close a group too many;
* `read?_eq_some`, `parse?_eq_some`: whole patterns.
-/

namespace Dialogue.Regex

/-! ## Groups around -/

/-- What is read, with more groups around it. -/
def State.under (base : List Frame) (s : State) : State := { s with outer := s.outer ++ base }

@[simp] theorem under_top (base : List Frame) (s : State) : (s.under base).top = s.top := rfl

@[simp] theorem under_outer (base : List Frame) (s : State) : (s.under base).outer = s.outer ++ base := rfl

@[simp] theorem under_names (base : List Frame) (s : State) : (s.under base).names = s.names := rfl

theorem repeatLast?_under (base : List Frame) (s : State) (min : Nat) (max : Option Nat) (reluctant : Bool) :
    (s.under base).repeatLast? min max reluctant = (s.repeatLast? min max reluctant).map (State.under base) := by
  unfold State.repeatLast?
  rw [under_top]
  split
  · split <;> rfl
  · rfl

/-- What was read and what is left, with more groups around. -/
def lift (base : List Frame) (y : State × Text) : State × Text := (y.1.under base, y.2)

theorem namedGroup?_under (base : List Frame) (s : State) (cs : Text) :
    namedGroup? (s.under base) cs = (namedGroup? s cs).map (lift base) := by
  unfold namedGroup?
  rcases groupName? cs with _ | ⟨name, rest⟩
  · rfl
  · by_cases hname : name ∈ s.names
    · simp [hname]
    · simp [hname]
      rfl

theorem group?_under (base : List Frame) (s : State) (cs : Text) :
    group? (s.under base) cs = (group? s cs).map (lift base) := by
  unfold group?
  dsimp only [under_top]
  split
  · exact namedGroup?_under base s _
  · split
    · rfl
    · rfl
    · exact namedGroup?_under base s _
  · cases s.top.flags.read? [] none _ with
    | none => rfl
    | some y =>
      simp only [Option.bind_eq_bind, Option.bind_some]
      split_ifs <;> rfl
  · rfl

theorem uncounted?_under (base : List Frame) (s : State) (min : Nat) (max : Option Nat) (cs : Text) :
    uncounted? (s.under base) min max cs = (uncounted? s min max cs).map (lift base) := by
  unfold uncounted?
  simp only [repeatLast?_under]
  cases s.repeatLast? min max (reluctant cs).1 <;> rfl

theorem counted?_under (base : List Frame) (s : State) (cs : Text) :
    counted? (s.under base) cs = (counted? s cs).map (lift base) := by
  unfold counted?
  simp only [repeatLast?_under, under_top]
  cases bounds? s.top.flags cs with
  | none => rfl
  | some y =>
    simp only [Option.bind_eq_bind, Option.bind_some]
    cases s.repeatLast? y.1 y.2.1 (reluctant (s.top.flags.skip y.2.2)).1 <;> rfl

variable [Library]

/-- A part is read in the same way with more groups around, when it does not close one of them. -/
theorem step?_under (base : List Frame) {s : State} {c : Char} (rest : Text) (h : c = ')' → s.outer ≠ []) :
    (s.under base).step? c rest = (s.step? c rest).map (lift base) := by
  unfold State.step?
  dsimp only [under_top, under_outer]
  split
  · exact group?_under base s rest
  · cases houter : s.outer with
    | nil => exact absurd houter (h rfl)
    | cons parent outer => rfl
  · rfl
  · cases class? s.top.flags rest with
    | none => rfl
    | some y =>
      simp only [Option.bind_eq_bind, Option.bind_some]
      cases s.top.flags.checked? y.1.set <;> rfl
  · exact uncounted?_under base s 0 (some 1) rest
  · exact uncounted?_under base s 0 none rest
  · exact uncounted?_under base s 1 none rest
  · exact counted?_under base s rest
  · cases escape? s.top.flags rest with
    | none => rfl
    | some y =>
      simp only [Option.bind_eq_bind, Option.bind_some]
      cases atomRegex? s.top.flags y.1 <;> rfl
  · cases dotRegex? s.top.flags <;> rfl
  · rfl
  · rfl
  · rfl

/-! ## Up to the end -/

variable {s s' : State} {cs ext : Text} {base : List Frame}

theorem run?_nil {fuel : Nat} (hfuel : 0 < fuel) (hskip : s.top.flags.skip cs = []) : s.run? fuel cs = some s := by
  cases fuel with
  | zero => cases hfuel
  | succ fuel => rw [State.run?, hskip]

theorem run?_cons {fuel : Nat} {c : Char} {rest : Text} (hskip : s.top.flags.skip cs = c :: rest) :
    State.run? (fuel + 1) s cs = (s.step? c rest).bind fun y => State.run? fuel y.1 y.2 := by
  rw [State.run?, hskip]
  rfl

theorem run?_under_cons {n : Nat} {c : Char} {rest : Text} (hskip : s.top.flags.skip cs = c :: rest)
    (hclose : c = ')' → s.outer ≠ []) (hext : Closing ext) :
    State.run? (n + 1) (s.under base) (cs ++ ext) =
      (s.step? c (rest ++ ext)).bind fun y => State.run? n (y.1.under base) y.2 := by
  have hskip' : (s.under base).top.flags.skip (cs ++ ext) = c :: (rest ++ ext) := skip_append_cons hskip hext
  rw [run?_cons hskip', step?_under base _ hclose, Option.bind_map]
  rfl

theorem run?_under_step {n : Nat} {c : Char} {rest rest₁ : Text} {s₁ : State}
    (hskip : s.top.flags.skip cs = c :: rest) (hclose : c = ')' → s.outer ≠ []) (hext : Closing ext)
    (hstep : s.step? c (rest ++ ext) = some (s₁, rest₁)) :
    State.run? (n + 1) (s.under base) (cs ++ ext) = (s₁.under base).run? n rest₁ := by
  rw [run?_under_cons hskip hclose hext, hstep]
  rfl

/-- Dollar signs open and close no groups. -/
theorem outer_of_dollars {fuel : Nat} (hcs : ∀ c ∈ cs, c = '$') (h : s.run? fuel cs = some s') :
    s'.outer = s.outer := by
  induction fuel generalizing s cs with
  | zero => cases h
  | succ fuel ih =>
    have hsuffix := skip_suffix s.top.flags cs
    cases hskip : s.top.flags.skip cs with
    | nil =>
      rw [run?_nil (Nat.succ_pos fuel) hskip] at h
      rw [Option.some.inj h]
    | cons c rest =>
      rw [hskip] at hsuffix
      obtain rfl : c = '$' := hcs c (hsuffix.subset List.mem_cons_self)
      rw [run?_cons hskip] at h
      exact ih (s := s.pushLeaf (.look (dollar s.top.flags)))
        (fun d hd => hcs d (hsuffix.subset (List.mem_cons_of_mem _ hd))) h

theorem outer_of_closing {fuel : Nat} (hext : Closing ext) (h : s.run? fuel ext = some s') :
    ∃ parent, s.outer = parent :: s'.outer := by
  have hskip := hext.skip s.top.flags
  obtain ⟨more, rfl, hmore⟩ := hext
  cases fuel with
  | zero => cases h
  | succ fuel =>
    rw [run?_cons hskip] at h
    cases houter : s.outer with
    | nil => simp [State.step?, houter] at h
    | cons parent outer =>
      simp only [State.step?, houter, Option.bind_some] at h
      exact ⟨parent, by rw [outer_of_dollars hmore h]⟩

/-- The continuation is read after the text, whatever it is and whatever groups are around. -/
def ReadsOn (fuel : Nat) (s : State) (cs : Text) (s' : State) : Prop := ∀ base ext n, Closing ext →
  fuel + ext.length ≤ n → ∃ m, ext.length < m ∧ (s.under base).run? n (cs ++ ext) = (s'.under base).run? m ext

/-- All of the continuation is passed over, whatever it is and whatever groups are around. -/
def PassesOver (fuel : Nat) (s : State) (cs : Text) (s' : State) : Prop := ∀ base ext n, Closing ext →
  fuel + ext.length ≤ n → (s.under base).run? n (cs ++ ext) = some (s'.under base)

section Step

variable {fuel : Nat} {c : Char} {rest rest₁ : Text} {s₁ : State} (hskip : s.top.flags.skip cs = c :: rest)
  (hclose : c = ')' → s.outer ≠ [])
include hskip hclose

theorem ReadsOn.step (hstep : ∀ ext, Closing ext → s.step? c (rest ++ ext) = some (s₁, rest₁ ++ ext))
    (h : ReadsOn fuel s₁ rest₁ s') : ReadsOn (fuel + 1) s cs s' := by
  intro base ext n hext hn
  obtain ⟨n, rfl⟩ : ∃ k, n = k + 1 := ⟨n - 1, by omega⟩
  obtain ⟨m, hm, hrun⟩ := h base ext n hext (by omega)
  exact ⟨m, hm, (run?_under_step hskip hclose hext (hstep ext hext)).trans hrun⟩

theorem PassesOver.step (hstep : ∀ ext, Closing ext → s.step? c (rest ++ ext) = some (s₁, rest₁ ++ ext))
    (h : PassesOver fuel s₁ rest₁ s') : PassesOver (fuel + 1) s cs s' := by
  intro base ext n hext hn
  obtain ⟨n, rfl⟩ : ∃ k, n = k + 1 := ⟨n - 1, by omega⟩
  exact (run?_under_step hskip hclose hext (hstep ext hext)).trans (h base ext n hext (by omega))

theorem PassesOver.last (hfuel : 0 < fuel)
    (hstep : ∀ ext, Closing ext → s.step? c (rest ++ ext) = some (s₁, [])) : PassesOver (fuel + 1) s cs s₁ := by
  intro base ext n hext hn
  obtain ⟨n, rfl⟩ : ∃ k, n = k + 1 := ⟨n - 1, by omega⟩
  exact (run?_under_step hskip hclose hext (hstep ext hext)).trans (run?_nil (by omega) (skip_nil _))

end Step

/-- At the end of a text it is blanks and comments that decide what becomes of a continuation. -/
theorem readsOn_or_passesOver_of_skip {fuel : Nat} (hfuel : 0 < fuel) (hskip : s.top.flags.skip cs = []) :
    ReadsOn fuel s cs s ∨ PassesOver fuel s cs s := by
  rcases skip_append s.top.flags cs with hkept | ⟨-, hlost⟩
  · refine .inl fun base ext n hext hn => ⟨n, by omega, ?_⟩
    obtain ⟨n, rfl⟩ : ∃ k, n = k + 1 := ⟨n - 1, by omega⟩
    rw [State.run?, State.run?, under_top, hkept ext hext, hskip, List.nil_append, hext.skip]
  · exact .inr fun base ext n hext hn => run?_nil (by omega) (hlost ext hext)

/-- **A pattern that can be read is read in the same way with a continuation**, and then the continuation is read; or
all of the continuation is passed over, because the pattern ends in a comment. Which of the two it is depends neither
on the groups around nor on the continuation. -/
theorem run?_under {fuel : Nat} (hfuel : cs.length < fuel) (h : s.run? fuel cs = some s') :
    ReadsOn fuel s cs s' ∨ PassesOver fuel s cs s' := by
  induction fuel generalizing s cs with
  | zero => cases h
  | succ fuel ih =>
    cases hskip : s.top.flags.skip cs with
    | nil =>
      rw [run?_nil (Nat.succ_pos fuel) hskip] at h
      obtain rfl := Option.some.inj h
      exact readsOn_or_passesOver_of_skip (Nat.succ_pos fuel) hskip
    | cons c rest =>
      have hlt := length_lt_of_skip hskip
      rw [run?_cons hskip] at h
      obtain ⟨⟨s₁, rest₁⟩, hstep, hrun⟩ := Option.bind_eq_some_iff.mp h
      replace hrun : s₁.run? fuel rest₁ = some s' := hrun
      have hle := (step?_suffix hstep).length_le
      have hpos : 0 < fuel := by omega
      have hclose : c = ')' → s.outer ≠ [] := by
        rintro rfl houter
        simp [State.step?, houter] at hstep
      have hbreak : ¬ (c = '\\' ∧ BreaksOff s.top.flags rest) := by
        rintro ⟨rfl, hbreak⟩
        simp [step?_escape, escape?_eq_none_of_breaksOff hbreak] at hstep
      have hcarries := carries_step? hbreak
      rw [hstep] at hcarries
      cases hcarries with
      | kept eq => exact (ih (by omega) hrun).imp (.step hskip hclose eq) (.step hskip hclose eq)
      | lost eq =>
        -- the part ends in a comment that is open at the end of the text, so it is the last one
        rw [run?_nil hpos (skip_nil _)] at hrun
        obtain rfl := Option.some.inj hrun
        exact .inr (.last hskip hclose hpos eq)

/-! ## Closing too many groups -/

/-- An escape that breaks off is read no further than its brace. -/
theorem run?_of_breaksOff {rest rest₁ : Text} {s₁ : State} {n : Nat} (hbreak : BreaksOff s.top.flags rest)
    (hext : Closing ext) (hstep : s.step? '\\' (rest ++ ext) = some (s₁, rest₁)) :
    (s₁.under base).run? n rest₁ = none := by
  obtain ⟨⟨a, more⟩, hread, hpush⟩ := Option.bind_eq_some_iff.mp hstep
  obtain ⟨r, -, hr⟩ := Option.bind_eq_some_iff.mp hpush
  obtain ⟨rfl, rfl⟩ := Prod.mk.inj (Option.some.inj hr)
  obtain ⟨-, tail, rfl, hskip⟩ := escape?_of_breaksOff hbreak hext hread
  cases n with
  | zero => rfl
  | succ n =>
    rw [run?_cons (skip_brace _ tail)]
    have hcounted : counted? ((s.pushLeaf r).under base) tail = none := counted?_of_closing hext hskip
    simp [State.step?, hcounted]

/-- Reading comes to a closing parenthesis where no group is open. -/
inductive Overcloses : State → Text → Prop
  | here {s : State} {cs rest : Text} (closed : s.outer = []) (skip : s.top.flags.skip cs = ')' :: rest) :
      Overcloses s cs
  | later {s s' : State} {cs rest rest' : Text} {c : Char} (skip : s.top.flags.skip cs = c :: rest)
      (step : s.step? c rest = some (s', rest')) (more : Overcloses s' rest') : Overcloses s cs

theorem run?_of_overcloses (h : Overcloses s cs) (fuel : Nat) : s.run? fuel cs = none := by
  induction h generalizing fuel with
  | here closed skip =>
    cases fuel with
    | zero => rfl
    | succ fuel => simp [run?_cons skip, State.step?, closed]
  | later skip step _ ih =>
    cases fuel with
    | zero => rfl
    | succ fuel =>
      rw [run?_cons skip, step]
      exact ih fuel

/-- **A pattern that cannot be read leaves a group open with a continuation**, if it can be read with that, unless it
closes a group too many. -/
theorem outer_of_run?_eq_none {fuel n : Nat} (hfuel : cs.length < fuel) (h : s.run? fuel cs = none)
    (hover : ¬ Overcloses s cs) (hbase : base ≠ []) (hext : Closing ext)
    (hrun : (s.under base).run? n (cs ++ ext) = some s') : s'.outer ≠ [] := by
  induction fuel generalizing s cs n with
  | zero => exact absurd hfuel (Nat.not_lt_zero _)
  | succ fuel ih =>
    cases hskip : s.top.flags.skip cs with
    | nil => simp [run?_nil (Nat.succ_pos fuel) hskip] at h
    | cons c rest =>
      have hlt := length_lt_of_skip hskip
      have hclose : c = ')' → s.outer ≠ [] := by
        rintro rfl houter
        exact hover (.here houter hskip)
      cases n with
      | zero => cases hrun
      | succ n =>
        rw [run?_cons hskip] at h
        rw [run?_under_cons hskip hclose hext] at hrun
        obtain ⟨⟨s₁, rest₁⟩, hstep, hrest⟩ := Option.bind_eq_some_iff.mp hrun
        replace hrest : (s₁.under base).run? n rest₁ = some s' := hrest
        by_cases hbreak : c = '\\' ∧ BreaksOff s.top.flags rest
        · -- the brace that is left would have to begin a count
          obtain ⟨rfl, hbreak⟩ := hbreak
          rw [run?_of_breaksOff hbreak hext hstep] at hrest
          cases hrest
        · have hcarries := carries_step? hbreak
          cases halone : s.step? c rest with
          | none =>
            rw [halone] at hcarries
            cases hcarries with
            | cut suffix =>
              -- the part took the parenthesis in, and the dollar signs after it close nothing
              have hsuffix := suffix ext s₁ rest₁ hext hstep
              obtain ⟨more, rfl, hmore⟩ := hext
              rw [outer_of_dollars (fun d hd => hmore d (hsuffix.subset hd)) hrest]
              exact List.append_ne_nil_of_right_ne_nil _ hbase
          | some y =>
            obtain ⟨s₂, rest₂⟩ := y
            have hle := (step?_suffix halone).length_le
            have hpos : 0 < fuel := by omega
            rw [halone] at h
            replace h : s₂.run? fuel rest₂ = none := h
            rw [halone] at hcarries
            cases hcarries with
            | kept eq =>
              have hwithin : s.step? c (rest ++ ext) = some (s₂, rest₂ ++ ext) := eq ext hext
              obtain ⟨rfl, rfl⟩ := Prod.mk.inj (Option.some.inj (hwithin.symm.trans hstep))
              exact ih (by omega) h (fun hmore => hover (.later hskip halone hmore)) hrest
            | lost eq =>
              rw [run?_nil hpos (skip_nil _)] at h
              cases h

/-! ## Whole patterns -/

theorem read?_eq_some {pattern : Text} {whole : Item} :
    read? pattern = some whole ↔
      ∃ s, State.start.run? (pattern.length + 1) pattern = some s ∧ s.outer = [] ∧ s.top.close = whole := by
  constructor
  · intro h
    obtain ⟨s, hrun, hclose⟩ := Option.bind_eq_some_iff.mp h
    split_ifs at hclose with houter
    exact ⟨s, hrun, List.isEmpty_iff.mp houter, Option.some.inj hclose⟩
  · rintro ⟨s, hrun, houter, rfl⟩
    simp [read?, hrun, houter]

theorem not_overcloses_of_read? {pattern : Text} (h : (read? pattern).isSome = true) : ¬ Overcloses .start pattern := by
  intro hover
  simp [read?, run?_of_overcloses hover] at h

theorem parse?_eq_some {pattern : Text} {whole : Item} (h : read? pattern = some whole) (hfits : whole.Fits pattern) :
    parse? pattern = some whole.regex := by
  simp [parse?, h, hfits]

end Dialogue.Regex
