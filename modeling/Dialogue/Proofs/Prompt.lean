import Dialogue.Prompt
import Dialogue.Proofs.Regex.Patterns
import Dialogue.Proofs.Regex.Search
import Dialogue.Regex.Standard

/-!
# Patterns for whole tokens

A prompt pastes the text of a pattern between the beginning and the end of a token. What that means depends on how the
text is read there. A pattern that closes no group too many is read as it is alone, and then it matches whole tokens
only. One that ends in a comment takes the end of the group in and is refused, as is one that the two assertions
make too large. All of this is so with any sets of characters for the names of properties and with any limit of size.

* `anchoredItem`, `isMatch_anchored`: what a pattern becomes;
* `EndsInComment`, `read?_anchored`, `overcloses_of_read?_anchored`: how it is read;
* **`matches_whole_token`**: what a prompt with a pattern waits for;
* `pasting_changes_patterns`: other patterns.
-/

namespace Dialogue.Prompt

open Regex

/-! ## Between the beginning and the end -/

/-- An expression between the beginning and the end of a text. -/
def anchoredItem (whole : Item) : Item :=
  ⟨.seq (.look .textStart) (.seq whole.regex (.look .textEnd)), whole.height + 2, true⟩

/-- An expression between the beginning and the end of a text matches all of the text or nothing. -/
theorem isMatch_anchored (whole : Item) (t : Text) :
    (Program.ofRegex (anchoredItem whole).regex).isMatch t = true ↔ whole.regex.Matches t 0 t.length := by
  rw [isMatch_ofRegex]
  constructor
  · rintro ⟨i, j, hi, k, ⟨rfl, hstart⟩, l, hr, rfl, hend⟩
    -- the first assertion holds at the beginning only, and the last one at the end
    have hbefore : before t i = none := Option.isNone_iff_eq_none.mp hstart
    have hafter : t[l]? = none := Option.isNone_iff_eq_none.mp hend
    obtain rfl : i = 0 := by
      cases i with
      | zero => rfl
      | succ i => exact absurd (List.getElem?_eq_none_iff.mp hbefore) (Nat.not_le_of_lt hi)
    have hle : t.length ≤ l := List.getElem?_eq_none_iff.mp hafter
    rwa [Nat.le_antisymm (hr.bounds hi).2 hle] at hr
  · intro hr
    have hafter : t[t.length]? = none := List.getElem?_eq_none_iff.mpr (Nat.le_refl _)
    exact ⟨0, t.length, Nat.zero_le _, 0, ⟨rfl, rfl⟩, t.length, hr, rfl, by rw [hafter]; rfl⟩

/-! ## Reading what was pasted -/

/-- What was read before the pattern: the beginning of the token. -/
def pasted : Frame := ⟨.start, [.leaf (.look .textStart)], []⟩

theorem closing_group : Closing (Text.lit ")") := ⟨[], rfl, by simp⟩

theorem closing_anchored : Closing (Text.lit ")$") := ⟨['$'], rfl, by simp⟩

section

variable [Library]

/-- The pattern ends in a comment: a parenthesis after it closes nothing. -/
def EndsInComment (pattern : Text) : Prop := (read? (pattern ++ Text.lit ")")).isSome = true

theorem run?_anchored (pattern : Text) :
    State.start.run? ((anchored pattern).length + 1) (anchored pattern) =
      (State.start.under [pasted]).run? (pattern.length + 5) (pattern ++ Text.lit ")$") := by
  have hlength : (anchored pattern).length + 1 = pattern.length + 5 + 1 + 1 := by
    simp [anchored, Text.lit]
  rw [hlength]
  rfl

theorem run?_closing {s : State} {n : Nat} (houter : s.outer = []) (hn : 2 < n) :
    ∃ s', (s.under [pasted]).run? n (Text.lit ")$") = some s' ∧ s'.outer = [] ∧
      s'.top.close = anchoredItem s.top.close := by
  obtain ⟨n, rfl⟩ : ∃ k, n = k + 3 := ⟨n - 3, by omega⟩
  have hskip : (s.under [pasted]).top.flags.skip (Text.lit ")$") = ')' :: ['$'] := closing_anchored.skip _
  have houter' : (s.under [pasted]).outer = [pasted] := by rw [under_outer, houter, List.nil_append]
  rw [run?_cons hskip]
  simp only [State.step?, houter', Option.bind_some]
  refine ⟨_, rfl, rfl, ?_⟩
  simp [State.pushLeaf, State.push, Item.leaf, Frame.close, Frame.branch, Frame.push, pasted, anchoredItem, dollar,
    Flags.start]

/-- A pattern that can be read alone is read in the same way where it was pasted, unless it takes the end in. -/
theorem read?_anchored {pattern : Text} {whole : Item} (h : read? pattern = some whole) :
    ¬ EndsInComment pattern ∧ read? (anchored pattern) = some (anchoredItem whole) ∨
      EndsInComment pattern ∧ read? (anchored pattern) = none := by
  obtain ⟨s, hrun, houter, rfl⟩ := read?_eq_some.mp h
  have hfuel : pattern.length + 1 + (Text.lit ")").length ≤ (pattern ++ Text.lit ")").length + 1 := by
    simp [Text.lit]
  have hfuel' : pattern.length + 1 + (Text.lit ")$").length ≤ pattern.length + 5 := by
    simp [Text.lit]
  rcases run?_under (Nat.lt_succ_self _) hrun with hgo | hpassed
  · refine .inl ⟨fun hcomment => ?_, ?_⟩
    · -- a parenthesis that is read would close a group, but there is none around the pattern alone
      obtain ⟨whole, hwhole⟩ := Option.isSome_iff_exists.mp hcomment
      obtain ⟨s', hrun', -, -⟩ := read?_eq_some.mp hwhole
      obtain ⟨m, -, heq⟩ := hgo [] _ _ closing_group hfuel
      obtain ⟨parent, hparent⟩ := outer_of_closing closing_group (heq.symm.trans hrun')
      rw [under_outer, houter] at hparent
      cases hparent
    · obtain ⟨m, hm, heq⟩ := hgo [pasted] _ _ closing_anchored hfuel'
      obtain ⟨s', hs', hnil, hwhole⟩ := run?_closing houter hm
      exact read?_eq_some.mpr ⟨s', by rw [run?_anchored, heq, hs'], hnil, hwhole⟩
  · refine .inr ⟨?_, ?_⟩
    · have hread := hpassed [] _ _ closing_group hfuel
      exact Option.isSome_iff_exists.mpr ⟨_, read?_eq_some.mpr ⟨_, hread, by rw [under_outer, houter]; rfl, rfl⟩⟩
    · have hread := hpassed [pasted] _ _ closing_anchored hfuel'
      simp [read?, run?_anchored, hread]

/-- A pattern that can be read only where it was pasted closes a group too many. -/
theorem overcloses_of_read?_anchored {pattern : Text} {item : Item} (h : read? pattern = none)
    (hread : read? (anchored pattern) = some item) : Overcloses .start pattern := by
  obtain ⟨s, hrun, houter, -⟩ := read?_eq_some.mp hread
  rw [run?_anchored] at hrun
  by_contra hover
  cases halone : State.start.run? (pattern.length + 1) pattern with
  | none =>
    exact outer_of_run?_eq_none (Nat.lt_succ_self _) halone hover (List.cons_ne_nil _ _) closing_anchored hrun houter
  | some s' =>
    have hopen : s'.outer ≠ [] := fun hnil => by simp [read?, halone, hnil] at h
    have hfuel : pattern.length + 1 + (Text.lit ")$").length ≤ pattern.length + 5 := by
      simp [Text.lit]
    rcases run?_under (Nat.lt_succ_self _) halone with hgo | hpassed
    · obtain ⟨m, -, heq⟩ := hgo [pasted] _ _ closing_anchored hfuel
      obtain ⟨parent, hparent⟩ := outer_of_closing closing_anchored (heq.symm.trans hrun)
      rw [under_outer, houter] at hparent
      cases houter' : s'.outer with
      | nil => exact hopen houter'
      | cons k outer => simp [houter'] at hparent
    · obtain rfl := Option.some.inj ((hpassed [pasted] _ _ closing_anchored hfuel).symm.trans hrun)
      simp at houter

/-! ## Whole tokens -/

theorem ofPattern_eq_ok {pattern : Text} {p : Prompt} :
    ofPattern pattern = .ok p ↔ ∃ item, read? (anchored pattern) = some item ∧ item.Fits (anchored pattern) ∧
      p = .pattern (anchored pattern) (.ofRegex item.regex) := by
  unfold ofPattern parse?
  cases hread : read? (anchored pattern) with
  | none => simp
  | some item =>
    by_cases hfits : item.Fits (anchored pattern)
    · simp [hfits, eq_comm]
    · simp [hfits]

theorem height_le_of_anchoredItem {whole : Item} {text : Text} (h : (anchoredItem whole).Fits text) :
    whole.height ≤ maxHeight :=
  (Nat.le_add_right _ 2).trans h.1

/-- **A prompt with a pattern waits for the tokens that the pattern matches as a whole**, when the pattern does not
close a group too many. There is such a prompt if the pattern is well formed, does not end in a comment and is not too
large with the two assertions added; and then a token is waited for if some match of the pattern goes from its
beginning to its end. The pattern alone has the same expression, if it fits. -/
theorem matches_whole_token (pattern : Text) (hclosed : ¬ Overcloses .start pattern) :
    ((∃ p, ofPattern pattern = .ok p) ↔
      ∃ whole, read? pattern = some whole ∧ ¬ EndsInComment pattern ∧
        (anchoredItem whole).Fits (anchored pattern)) ∧
    ∀ p, ofPattern pattern = .ok p → ∃ whole, read? pattern = some whole ∧
      (Library.fits pattern whole.regex = true → parse? pattern = some whole.regex) ∧
      ∀ token, ∃ answer, p.accepts token = .ok answer ∧
        (answer = true ↔ whole.regex.Matches token 0 token.length) := by
  have hok : ∀ p, ofPattern pattern = .ok p → ∃ whole, read? pattern = some whole ∧ ¬ EndsInComment pattern ∧
      (anchoredItem whole).Fits (anchored pattern) ∧
      p = .pattern (anchored pattern) (.ofRegex (anchoredItem whole).regex) := by
    intro p hp
    obtain ⟨item, hitem, hfits, rfl⟩ := ofPattern_eq_ok.mp hp
    cases hread : read? pattern with
    | none => exact absurd (overcloses_of_read?_anchored hread hitem) hclosed
    | some whole =>
      rcases read?_anchored hread with ⟨hcomment, hwhole⟩ | ⟨-, hnone⟩
      · obtain rfl := Option.some.inj (hwhole.symm.trans hitem)
        exact ⟨whole, rfl, hcomment, hfits, rfl⟩
      · rw [hnone] at hitem
        cases hitem
  refine ⟨⟨?_, ?_⟩, ?_⟩
  · rintro ⟨p, hp⟩
    obtain ⟨whole, hread, hcomment, hfits, -⟩ := hok p hp
    exact ⟨whole, hread, hcomment, hfits⟩
  · rintro ⟨whole, hread, hcomment, hfits⟩
    rcases read?_anchored hread with ⟨-, hwhole⟩ | ⟨hends, -⟩
    · exact ⟨_, ofPattern_eq_ok.mpr ⟨_, hwhole, hfits, rfl⟩⟩
    · exact absurd hends hcomment
  · intro p hp
    obtain ⟨whole, hread, -, hfits, rfl⟩ := hok p hp
    have halone : Library.fits pattern whole.regex = true → parse? pattern = some whole.regex := fun hsize =>
      parse?_eq_some hread ⟨height_le_of_anchoredItem hfits, hsize⟩
    exact ⟨whole, hread, halone, fun token => ⟨_, rfl, isMatch_anchored whole token⟩⟩

end

/-- Of two branches the longer one counts, when only that matches the whole token. -/
theorem matches_whole_token_of_longer_branch :
    ¬ Overcloses .start (Text.lit "a|ab") ∧ ∃ p r, ofPattern (Text.lit "a|ab") = .ok p ∧
      parse? (Text.lit "a|ab") = some r ∧
      p.accepts (Text.lit "ab") = .ok true ∧ r.Matches (Text.lit "ab") 0 2 ∧
      p.accepts (Text.lit "abc") = .ok false ∧ ¬ r.Matches (Text.lit "abc") 0 3 := by
  have hclosed : ¬ Overcloses .start (Text.lit "a|ab") := not_overcloses_of_read? rfl
  obtain ⟨whole, hread, halone, hwhole⟩ := (matches_whole_token (Text.lit "a|ab") hclosed).2 _ rfl
  obtain rfl := Option.some.inj hread
  refine ⟨hclosed, _, _, rfl, halone rfl, rfl, ?_, rfl, ?_⟩
  · obtain ⟨answer, hanswer, hiff⟩ := hwhole (Text.lit "ab")
    exact hiff.mp (Except.ok.inj hanswer).symm
  · obtain ⟨answer, hanswer, hiff⟩ := hwhole (Text.lit "abc")
    obtain rfl : false = answer := Except.ok.inj hanswer
    exact fun h => Bool.false_ne_true (hiff.mpr h)

/-- A pattern that is none alone makes a prompt for tokens of which it matches a part, and one that ends in a comment
makes no prompt. -/
theorem pasting_changes_patterns :
    (parse? (Text.lit "a)|(?:b") = none ∧
      ∃ p, ofPattern (Text.lit "a)|(?:b") = .ok p ∧ p.accepts (Text.lit "ax") = .ok true) ∧
    (parse? (Text.lit "(?x)a # c")).isSome = true ∧
      ofPattern (Text.lit "(?x)a # c") = .error (.matching .invalidPattern) :=
  ⟨⟨rfl, _, rfl, rfl⟩, rfl, rfl⟩

end Dialogue.Prompt
