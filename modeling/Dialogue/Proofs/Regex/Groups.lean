import Dialogue.Proofs.Regex.Brackets
import Dialogue.Regex.Pattern

/-!
# Reading the parts of a pattern

Groups, flags and repetitions are put together from readers that carry over, and so is any part of a pattern but an
escape that breaks off.

* `markedGroup`, `readFlags`, `Local.group?`: groups and flags;
* `inRange`, `upperBound`, `Local.counted?`: repetitions;
* `Local.step?`, **`carries_step?`**: any part.
-/

namespace Dialogue.Regex

/-! ## Groups -/

/-- Whether a group may have a name. -/
def isName : Text → Bool
  | [] => false
  | c :: more => (c == '_' || Unicode.isAlphabetic c) &&
      more.all fun c => c == '_' || c == '.' || c == '[' || c == ']' || Unicode.isAlphanumeric c

theorem groupName?_eq (cs : Text) :
    groupName? cs = (upTo '>' cs).bind fun y => if isName y.1 then some (y.1, y.2) else none := by
  unfold groupName? upTo
  cases cs.dropWhile (· != '>') with
  | nil => simp
  | cons d rest => cases cs.takeWhile (· != '>') <;> simp [isName]

theorem Local.groupName? : Local groupName? := by
  have hname : ∀ name : Text, Local fun cs => if isName name then some (name, cs) else none := by
    intro name
    split
    · exact done name
    · exact fail
  exact ((Exact.upTo (by decide) (by decide)).toLocal.bind hname).congr groupName?_eq

theorem Local.namedGroup? (s : State) : Local (namedGroup? s) := by
  have hopen : ∀ name : Text, Local fun cs =>
      if s.names.contains name then none
      else some ({ s with names := name :: s.names }.openGroup s.top.flags, cs) := by
    intro name
    split
    · exact fail
    · exact done _
  exact groupName?.bind hopen

/-- Flag letters up to a colon or a parenthesis. -/
def readFlags (f : Flags) (seen : Text) (last : Option Char) (cs : Text) : Option ((Flags × Bool × Char) × Text) :=
  (f.read? seen last cs).map fun y => ((y.1, y.2.1, y.2.2.1), y.2.2.2)

theorem readFlags_cons (f : Flags) (seen : Text) (last : Option Char) (c : Char) (rest : Text) :
    readFlags f seen last (c :: rest) =
      if c == ':' || c == ')' then
        if last == some '-' then none else some ((f, !seen.isEmpty, c), rest)
      else if seen.contains c then none
      else if c == '-' then readFlags f (c :: seen) (some c) rest
      else (f.set? c (!seen.contains '-')).bind fun f => readFlags f (c :: seen) (some c) rest := by
  unfold readFlags
  rw [Flags.read?]
  split_ifs
  · rfl
  · rfl
  · rfl
  · rfl
  · exact Option.map_bind ..

theorem readFlags_suffix {f : Flags} {seen : Text} {last : Option Char} {cs rest : Text} {a : Flags × Bool × Char}
    (h : readFlags f seen last cs = some (a, rest)) : rest <:+ cs := by
  induction cs generalizing f seen last with
  | nil => cases h
  | cons c more ih =>
    rw [readFlags_cons] at h
    split_ifs at h
    · exact (Local.done _).suffix h |>.trans (List.suffix_cons c more)
    · exact (ih h).trans (List.suffix_cons c more)
    · obtain ⟨f', -, hrest⟩ := Option.bind_eq_some_iff.mp h
      exact (ih hrest).trans (List.suffix_cons c more)

theorem Local.readFlags (f : Flags) (seen : Text) (last : Option Char) : Local (readFlags f seen last) where
  suffix := readFlags_suffix
  carries cs := by
    induction cs generalizing f seen last with
    | nil =>
      refine .cut fun ext a rest hext h => ?_
      obtain ⟨more, rfl, -⟩ := hext
      rw [List.nil_append, readFlags_cons, if_pos (by decide)] at h
      split_ifs at h
      exact (Local.done _).suffix h
    | cons c rest ih =>
      simp only [List.cons_append, readFlags_cons]
      split_ifs
      · exact .same fun _ _ h => nomatch h
      · exact .kept fun _ _ => rfl
      · exact .same fun _ _ h => nomatch h
      · exact ih f (c :: seen) (some c)
      · cases f.set? c (!seen.contains '-') with
        | none => exact .same fun _ _ h => nomatch h
        | some f' => exact ih f' (c :: seen) (some c)

/-- Flags for a group or for the rest of the group around them. -/
def flagGroup (s : State) (cs : Text) : Option (State × Text) :=
  (readFlags s.top.flags [] none cs).bind fun y =>
    if y.1.2.2 == ':' then some (s.openGroup y.1.1, y.2)
    else if y.1.2.1 then
      let s := s.push ⟨.empty, 0, false⟩
      some ({ s with top := { s.top with flags := y.1.1 } }, y.2)
    else none

theorem Local.flagGroup (s : State) : Local (flagGroup s) := by
  have hopen : ∀ a : Flags × Bool × Char, Local fun cs =>
      if a.2.2 == ':' then some (s.openGroup a.1, cs)
      else if a.2.1 then
        let s := s.push ⟨.empty, 0, false⟩
        some ({ s with top := { s.top with flags := a.1 } }, cs)
      else none := by
    intro a
    split_ifs
    · exact done _
    · exact done _
    · exact fail
  exact (readFlags s.top.flags [] none).bind hopen

theorem flagGroup_capital (s : State) (cs : Text) : flagGroup s ('P' :: cs) = none := rfl

/-- What follows the question mark of a group. -/
def markedGroup (s : State) : Text → Option (State × Text) :=
  ifChar 'P' (ifChar '<' (namedGroup? s) fun _ => none)
    (ifChar '<' (ifChar '=' (fun _ => none) (ifChar '!' (fun _ => none) (namedGroup? s))) (flagGroup s))

theorem markedGroup_flags {s : State} {cs : Text} (hname : ∀ rest, cs ≠ 'P' :: '<' :: rest)
    (hangle : ∀ rest, cs ≠ '<' :: rest) : markedGroup s cs = flagGroup s cs := by
  by_cases hcapital : ∃ rest, cs = 'P' :: rest
  · obtain ⟨rest, rfl⟩ := hcapital
    have hrest : ∀ more, rest ≠ '<' :: more := fun more h => hname more (by rw [h])
    rw [markedGroup, ifChar_self, ifChar_of_ne hrest, flagGroup_capital]
  · rw [markedGroup, ifChar_of_ne fun rest h => hcapital ⟨rest, h⟩, ifChar_of_ne hangle]

theorem group?_eq (s : State) (cs : Text) :
    group? s cs = ifChar '?' (markedGroup s) (fun cs => some (s.openGroup s.top.flags, cs)) (s.top.flags.skip cs) := by
  unfold group?
  dsimp only
  split
  · rename_i rest hskip
    rw [hskip]
    rfl
  · rename_i rest hskip
    rw [hskip]
    split
    · rfl
    · rfl
    · rename_i hequal hbang
      rw [ifChar_self, markedGroup, ifChar_of_ne (by simp), ifChar_self, ifChar_of_ne hequal, ifChar_of_ne hbang]
  · rename_i rest hname hangle hskip
    rw [hskip, ifChar_self, markedGroup_flags hname hangle, flagGroup, readFlags]
    cases s.top.flags.read? [] none rest <;> rfl
  · rename_i hname hangle hflags
    rw [ifChar_of_ne hflags]

theorem Local.markedGroup (s : State) : Local (markedGroup s) :=
  ifChar (by decide) (ifChar (by decide) (namedGroup? s) fail)
    (ifChar (by decide) (ifChar (by decide) fail (ifChar (by decide) fail (namedGroup? s))) (flagGroup s))

theorem Local.group? (s : State) : Local (group? s) :=
  ((ifChar (by decide) (markedGroup s) (done _)).skipped s.top.flags).congr (group?_eq s)

/-! ## Repetitions -/

/-- A number, unless it is too large. -/
def inRange (n : Option Nat) (cs : Text) : Option (Option Nat × Text) :=
  if n.getD 0 < 0x100000000 then some (n, cs) else none

theorem Local.inRange (n : Option Nat) : Local (inRange n) := by
  unfold Regex.inRange
  split
  · exact done n
  · exact fail

variable {f : Flags}

theorem decimal?_nil {fuel : Nat} (acc : Option Nat) (h : 0 < fuel) : decimal? f fuel acc [] = inRange acc [] := by
  cases fuel with
  | zero => cases h
  | succ fuel => rfl

theorem decimal?_digit {fuel : Nat} {acc : Option Nat} {c : Char} {rest : Text} (hc : c.isDigit = true) :
    decimal? f (fuel + 1) acc (c :: rest) =
      decimal? f fuel (some (acc.getD 0 * 10 + (c.toNat - '0'.toNat))) (f.skip rest) := by
  rw [decimal?, if_pos hc]

theorem decimal?_end {fuel : Nat} {acc : Option Nat} {cs : Text} (hcs : ∀ c ∈ cs.head?, c.isDigit = false) :
    decimal? f (fuel + 1) acc cs = inRange acc (f.skip (cs.dropWhile Unicode.isWhite)) := by
  cases cs with
  | nil => simp [decimal?, inRange, skip_nil]
  | cons c rest => rw [decimal?, if_neg (by simp [hcs c rfl]), inRange]

theorem Local.numberEnd (f : Flags) (acc : Option Nat) :
    Local fun cs => Regex.inRange acc (f.skip (cs.dropWhile Unicode.isWhite)) where
  suffix h := (((inRange acc).suffix h).trans (skip_suffix f _)).trans (List.dropWhile_suffix _)
  carries cs := (((inRange acc).skipped f).carries (cs.dropWhile Unicode.isWhite)).congr fun ext hext => by
    rw [dropWhile_isWhite_append hext]

theorem decimal?_suffix (fuel : Nat) (acc : Option Nat) (cs : Text) (n : Option Nat) (rest : Text)
    (h : decimal? f fuel acc cs = some (n, rest)) : rest <:+ cs := by
  induction fuel generalizing acc cs n rest with
  | zero => cases h
  | succ fuel ih =>
    by_cases hdigit : ∃ c more, cs = c :: more ∧ c.isDigit = true
    · obtain ⟨c, more, rfl, hc⟩ := hdigit
      rw [decimal?_digit hc] at h
      exact ((ih _ _ _ _ h).trans (skip_suffix f more)).trans (List.suffix_cons c more)
    · rw [decimal?_end (by cases cs <;> simp_all)] at h
      exact (Local.numberEnd f acc).suffix h

theorem carries_decimal? {fuel : Nat} (acc : Option Nat) {cs : Text} (h : cs.length < fuel) :
    Carries (decimal? f fuel acc cs) fun ext => decimal? f (fuel + ext.length) acc (cs ++ ext) := by
  induction fuel generalizing acc cs with
  | zero => exact absurd h (Nat.not_lt_zero _)
  | succ fuel ih =>
    by_cases hdigit : ∃ c more, cs = c :: more ∧ c.isDigit = true
    · obtain ⟨c, rest, rfl, hc⟩ := hdigit
      have hlt : rest.length < fuel := Nat.lt_of_succ_lt_succ h
      have hpos : 0 < fuel := Nat.lt_of_le_of_lt (Nat.zero_le _) hlt
      rw [decimal?_digit hc]
      refine (((Local.skip f).carries rest).bind
        (fun _ => decimal? f fuel (some (acc.getD 0 * 10 + (c.toNat - '0'.toNat))))
        (fun ext _ => decimal? f (fuel + ext.length) (some (acc.getD 0 * 10 + (c.toNat - '0'.toNat))))
        (fun _ more hmore => ih _ ?_) (fun _ _ => ?_) fun ext _ _ _ _ => decimal?_suffix _ _ _ _ _).congr
        fun ext _ => by rw [Nat.succ_add, List.cons_append, decimal?_digit hc]; rfl
      · exact Nat.lt_of_le_of_lt ((Local.skip f).suffix hmore).length_le hlt
      · rw [decimal?_nil _ hpos]
        refine (Carries.same fun _ _ => (Local.inRange _).of_nil).congr fun ext _ => ?_
        exact decimal?_nil _ (Nat.lt_of_lt_of_le hpos (Nat.le_add_right _ _))
    · have hhead : ∀ c ∈ cs.head?, c.isDigit = false := by cases cs <;> simp_all
      rw [decimal?_end hhead]
      refine ((Local.numberEnd f acc).carries cs).congr fun ext hext => ?_
      rw [Nat.succ_add, decimal?_end (hext.of_head? (by decide) hhead)]

theorem Local.count? (f : Flags) : Local (count? f) where
  suffix h := (decimal?_suffix _ _ _ _ _ h).trans (List.dropWhile_suffix _)
  carries cs := by
    have hle := (List.dropWhile_suffix (l := cs) Unicode.isWhite).length_le
    refine (carries_decimal? none (Nat.lt_succ_of_le hle)).congr fun ext hext => ?_
    rw [Regex.count?, dropWhile_isWhite_append hext, List.length_append, Nat.add_right_comm]

/-- The bounds of a counted repetition and what follows them. -/
def readBounds (f : Flags) (cs : Text) : Option ((Nat × Option Nat) × Text) :=
  (bounds? f cs).map fun y => ((y.1, y.2.1), y.2.2)

/-- The upper bound after a comma, and the closing brace. -/
def upperBound (f : Flags) (min : Option Nat) : Text → Option ((Nat × Option Nat) × Text) :=
  ifChar '\x7d' (fun rest => min.bind fun m => some ((m, none), rest)) fun cs =>
    (count? f cs).bind fun y => min.bind fun m => y.1.bind fun n =>
      ifChar '\x7d' (fun rest => if m ≤ n then some ((m, some n), rest) else none) (fun _ => none) y.2

theorem readBounds_eq (f : Flags) (cs : Text) :
    readBounds f cs = (count? f (f.skip cs)).bind fun y =>
      ifChar ',' (fun rest => upperBound f y.1 (f.skip rest))
        (ifChar '\x7d' (fun rest => y.1.bind fun m => some ((m, some m), rest)) fun _ => none) y.2 := by
  unfold readBounds bounds?
  rcases count? f (f.skip cs) with _ | ⟨min, more⟩
  · rfl
  · simp only [Option.bind_eq_bind, Option.bind_some]
    split
    · rename_i rest
      rw [ifChar_self]
      generalize f.skip rest = rest
      unfold upperBound
      split
      · rw [ifChar_self]
        cases min <;> rfl
      · rename_i hbrace
        rw [ifChar_of_ne hbrace]
        rcases count? f rest with _ | ⟨max, tail⟩
        · rfl
        · rcases min with _ | m
          · rfl
          · rcases max with _ | n
            · rfl
            · simp only [Option.bind_some]
              split
              · rw [ifChar_self]
                by_cases hle : m ≤ n <;> simp [hle]
              · rename_i hend
                rw [ifChar_of_ne hend]
                rfl
    · cases min <;> rfl
    · rename_i hcomma hbrace
      rw [ifChar_of_ne hcomma, ifChar_of_ne hbrace]
      rfl

theorem Local.upperBound (f : Flags) (min : Option Nat) : Local (upperBound f min) := by
  have hrange : ∀ m n : Nat, Local fun cs : Text => if m ≤ n then some ((m, some n), cs) else none := by
    intro m n
    split
    · exact done _
    · exact fail
  exact ifChar (by decide) (given min fun m => done (m, none)) ((count? f).bind fun n =>
    given min fun m => given n fun n => ifChar (by decide) (hrange m n) fail)

theorem Local.readBounds (f : Flags) : Local (readBounds f) :=
  (((count? f).skipped f).bind fun min => ifChar (by decide) ((upperBound f min).skipped f)
    (ifChar (by decide) (given min fun m => done (m, some m)) fail)).congr (readBounds_eq f)

theorem Local.reluctant : Local fun cs => some (reluctant cs) := by
  refine (ifChar (c := '?') (by decide) (done true) (done false)).congr fun cs => ?_
  cases cs with
  | nil => rfl
  | cons c rest =>
    by_cases hc : c = '?'
    · subst hc
      rfl
    · simp [Regex.reluctant, Regex.ifChar, hc]

theorem Local.uncounted? (s : State) (min : Nat) (max : Option Nat) : Local (uncounted? s min max) :=
  reluctant.bind fun mark => given (s.repeatLast? min max mark) fun s => done s

theorem Local.counted? (s : State) : Local (counted? s) := by
  have hrepeat : ∀ a : Nat × Option Nat, Local fun cs => Regex.uncounted? s a.1 a.2 (s.top.flags.skip cs) :=
    fun a => (uncounted? s a.1 a.2).skipped s.top.flags
  refine ((readBounds s.top.flags).bind hrepeat).congr fun cs => ?_
  unfold Regex.counted? Regex.readBounds
  dsimp only
  cases bounds? s.top.flags cs <;> rfl

theorem skip_brace (f : Flags) (cs : Text) : f.skip ('\x7b' :: cs) = '\x7b' :: cs := by
  have hwhite : Unicode.isWhite '\x7b' = false := by decide +kernel
  unfold Flags.skip
  split
  · simp [Flags.skipVerbose, hwhite]
  · rfl

/-- A brace with nothing after it before the parenthesis is no count. -/
theorem counted?_of_closing {s : State} {cs ext : Text} (hext : Closing ext) (hskip : s.top.flags.skip cs = ext) :
    counted? s cs = none := by
  have hcount : count? s.top.flags ext = some (none, ext) := by
    rw [count?, hext.dropWhile_isWhite, decimal?_end, hext.dropWhile_isWhite, hext.skip]
    · rfl
    · obtain ⟨more, rfl, -⟩ := hext
      simp
  obtain ⟨more, rfl, -⟩ := hext
  simp [counted?, bounds?, hskip, hcount]

/-! ## Any part -/

variable [Library]

/-- All parts but escapes are as good as any reader. -/
theorem Local.step? (s : State) {c : Char} (hc : c ≠ '\\') : Local (s.step? c) := by
  have hclass := (class? s.top.flags).bind fun p => given (s.top.flags.checked? p.set) fun set =>
    done (s.push ⟨.set set, p.height, true⟩)
  have hdot := given (dotRegex? s.top.flags) fun r => done (s.pushLeaf r)
  unfold State.step?
  dsimp only
  split
  · exact group? s
  · cases s.outer with
    | nil => exact fail
    | cons parent outer => exact done _
  · exact done _
  · exact hclass
  · exact uncounted? s 0 (some 1)
  · exact uncounted? s 0 none
  · exact uncounted? s 1 none
  · exact counted? s
  · exact absurd rfl hc
  · exact hdot
  · exact done _
  · exact done _
  · exact done _

theorem step?_escape (s : State) (cs : Text) :
    s.step? '\\' cs = (escape? s.top.flags cs).bind fun y =>
      (atomRegex? s.top.flags y.1).bind fun r => some (s.pushLeaf r, y.2) := rfl

theorem step?_suffix {s s' : State} {c : Char} {cs rest : Text} (h : s.step? c cs = some (s', rest)) : rest <:+ cs := by
  by_cases hc : c = '\\'
  · subst hc
    obtain ⟨y, hread, hpush⟩ := Option.bind_eq_some_iff.mp h
    exact ((Local.given _ fun r => Local.done (s.pushLeaf r)).suffix hpush).trans (escape?_suffix hread)
  · exact (Local.step? s hc).suffix h

/-- **A part carries over**, but for an escape that breaks off. -/
theorem carries_step? {s : State} {c : Char} {rest : Text} (h : ¬ (c = '\\' ∧ BreaksOff s.top.flags rest)) :
    Carries (s.step? c rest) fun ext => s.step? c (rest ++ ext) := by
  by_cases hc : c = '\\'
  · subst hc
    have hbreak : ¬ BreaksOff s.top.flags rest := fun hbreak => h ⟨rfl, hbreak⟩
    have hpush : ∀ a, Local fun cs => (atomRegex? s.top.flags a).bind fun r => some (s.pushLeaf r, cs) :=
      fun a => .given _ fun r => .done _
    simp only [step?_escape]
    exact Local.carriesOn hpush (carries_escape? hbreak)
  · exact (Local.step? s hc).carries rest

end Dialogue.Regex
