import Dialogue.Delimiter
import Mathlib.Tactic.Common

/-!
# Cutting a text loses nothing

Whatever the program of a delimiter is, the matches it finds lie inside the text, follow one another and do not
overlap. So the tokens, the delimiter texts between them and the text after the last one make up the text that was
cut.

* `search_within`: a match ends where the search has come to, and begins before;
* `InOrder`, **`inOrder_spans`**: the matches of a program are in order;
* `Split.text`, **`Delimiter.text_split`**: the parts of a cut text make up the text.
-/

namespace Dialogue

namespace Regex.Program

variable (p : Program)

/-! ## One match -/

/-- Following threads makes up no new beginning. -/
theorem origin_le_of_mem_follow {before after : Option Char} {pos fuel seen : Nat} {threads live : List Thread}
    (hthreads : ∀ t ∈ threads, t.origin ≤ pos) (hlive : ∀ t ∈ live, t.origin ≤ pos) :
    ∀ t ∈ p.follow before after fuel threads seen live, t.origin ≤ pos := by
  fun_induction follow p before after fuel threads seen live with
  | case1 => simpa using hlive
  | case2 => simpa using hlive
  | case3 _ _ _ _ _ _ ih => exact ih (List.forall_mem_cons.mp hthreads).2 hlive
  | case4 _ _ _ _ _ _ _ _ ih => exact ih (List.forall_mem_cons.mp hthreads).2 hlive
  | case5 _ t rest _ _ _ _ a b _ ih =>
    obtain ⟨ht, hrest⟩ := List.forall_mem_cons.mp hthreads
    exact ih (List.forall_mem_cons.mpr ⟨ht, List.forall_mem_cons.mpr ⟨ht, hrest⟩⟩) hlive
  | case6 _ t rest _ _ _ _ l next _ _ ih =>
    obtain ⟨ht, hrest⟩ := List.forall_mem_cons.mp hthreads
    exact ih (List.forall_mem_cons.mpr ⟨ht, hrest⟩) hlive
  | case7 _ _ _ _ _ _ _ _ _ _ _ ih => exact ih (List.forall_mem_cons.mp hthreads).2 hlive
  | case8 _ t rest _ _ _ _ _ _ _ ih =>
    obtain ⟨ht, hrest⟩ := List.forall_mem_cons.mp hthreads
    exact ih hrest (List.forall_mem_cons.mpr ⟨ht, hlive⟩)
  | case9 =>
    have ht := (List.forall_mem_cons.mp hthreads).1
    simp only [List.mem_reverse]
    exact List.forall_mem_cons.mpr ⟨ht, hlive⟩

theorem origin_le_of_mem_followAll {before after : Option Char} {pos : Nat} {threads : List Thread}
    (hthreads : ∀ t ∈ threads, t.origin ≤ pos) : ∀ t ∈ p.followAll before after threads, t.origin ≤ pos :=
  p.origin_le_of_mem_follow hthreads (fun _ h => nomatch h)

/-- A place where a search has come to: no match ends later, and none begins after its end. -/
def Within (pos : Nat) (span : Span) : Prop := span.1 ≤ span.2 ∧ span.2 ≤ pos

theorem Within.mono {pos pos' : Nat} {span : Span} (h : Within pos span) (hle : pos ≤ pos') : Within pos' span :=
  ⟨h.1, Nat.le_trans h.2 hle⟩

theorem improve_within {pos : Nat} {live : List Thread} {best : Option Span}
    (hlive : ∀ t ∈ live, t.origin ≤ pos) (hbest : ∀ b ∈ best, Within pos b) :
    ∀ b ∈ p.improve pos live best, Within pos b := by
  unfold improve
  split
  · next t hlast =>
    split_ifs
    · rintro b ⟨⟩
      exact ⟨hlive t (List.mem_of_getLast? hlast), Nat.le_refl pos⟩
    · exact hbest
  · exact hbest

theorem origin_le_of_mem_restart {pos : Nat} {threads : List Thread} {best : Option Span}
    (hthreads : ∀ t ∈ threads, t.origin ≤ pos) :
    ∀ t ∈ (if best.isNone then threads ++ [⟨p.start, pos⟩] else threads), t.origin ≤ pos := by
  split_ifs
  · rw [List.forall_mem_append, List.forall_mem_singleton]
    exact ⟨hthreads, Nat.le_refl pos⟩
  · exact hthreads

theorem origin_pass {c : Char} {t u : Thread} (h : p.pass c t = some u) : u.origin = t.origin := by
  unfold pass at h
  split at h
  · split_ifs at h
    obtain rfl := Option.some.inj h
    rfl
  · cases h

/-- A search ends no match after the place that it has come to. -/
theorem search_within {before : Option Char} {pos : Nat} {threads : List Thread} {best : Option Span} {cs : Text}
    (hthreads : ∀ t ∈ threads, t.origin ≤ pos) (hbest : ∀ b ∈ best, Within pos b) :
    ∀ b ∈ p.search before pos threads best cs, Within (pos + cs.length) b := by
  induction cs generalizing before pos threads best with
  | nil =>
    exact p.improve_within (p.origin_le_of_mem_followAll (p.origin_le_of_mem_restart hthreads)) hbest
  | cons c rest ih =>
    have hrestart : ∀ t ∈ (if best.isNone then threads ++ [⟨p.start, pos⟩] else threads), t.origin ≤ pos :=
      p.origin_le_of_mem_restart hthreads
    rw [search]
    generalize (if best.isNone then threads ++ [⟨p.start, pos⟩] else threads) = restarted at hrestart ⊢
    have hlive : ∀ t ∈ p.followAll before (some c) restarted, t.origin ≤ pos :=
      p.origin_le_of_mem_followAll hrestart
    have himproved := p.improve_within hlive hbest
    split_ifs
    · exact fun b hb => (himproved b hb).mono (Nat.le_add_right _ _)
    · rw [List.length_cons, Nat.add_comm rest.length, ← Nat.add_assoc]
      refine ih (fun u hu => ?_) (fun b hb => (himproved b hb).mono (Nat.le_succ pos))
      obtain ⟨t, ht, hpass⟩ := List.mem_filterMap.mp hu
      rw [p.origin_pass hpass]
      exact Nat.le_succ_of_le (hlive t ht)

theorem find?_within {before : Option Char} {cs : Text} {span : Span} (h : p.find? before cs = some span) :
    Within cs.length span := by
  have hwithin : Within (0 + cs.length) span :=
    p.search_within (List.forall_mem_nil _) (by rintro _ ⟨⟩) span h
  rwa [Nat.zero_add] at hwithin

theorem findNext?_within {before : Option Char} {afterMatch : Bool} {cs : Text} {span : Span}
    (h : p.findNext? before afterMatch cs = some span) : Within cs.length span := by
  unfold findNext? at h
  split at h
  · next hfind =>
    cases afterMatch with
    | false =>
      obtain rfl := Option.some.inj h
      exact ⟨Nat.le_refl 0, Nat.zero_le _⟩
    | true =>
      cases cs with
      | nil => cases h
      | cons c rest =>
        obtain ⟨found, hfound, rfl⟩ := Option.map_eq_some_iff.mp h
        obtain ⟨hle, hin⟩ := p.find?_within hfound
        exact ⟨Nat.succ_le_succ hle, Nat.succ_le_succ hin⟩
  · exact p.find?_within h

/-! ## All matches -/

/-- Parts of a text from place `pos` to place `n`, each beginning where the one before it ended, or later. -/
def InOrder (n : Nat) : Nat → List Span → Prop
  | pos, [] => pos ≤ n
  | pos, (i, j) :: more => pos ≤ i ∧ i ≤ j ∧ InOrder n j more

theorem spansFrom_eq_append (fuel : Nat) (before : Option Char) (pos : Nat) (afterMatch : Bool) (acc : List Span)
    (cs : Text) : p.spansFrom fuel before pos afterMatch acc cs =
      acc.reverse ++ p.spansFrom fuel before pos afterMatch [] cs := by
  induction fuel generalizing before pos afterMatch acc cs with
  | zero => simp [spansFrom]
  | succ fuel ih =>
    simp only [spansFrom]
    split
    · simp
    · next i j _ =>
      rw [ih _ _ _ ((pos + i, pos + j) :: acc), ih _ _ _ [(pos + i, pos + j)], List.reverse_cons,
        List.append_assoc, List.reverse_singleton]

theorem inOrder_spansFrom (fuel : Nat) (before : Option Char) (pos : Nat) (afterMatch : Bool) (cs : Text) :
    InOrder (pos + cs.length) pos (p.spansFrom fuel before pos afterMatch [] cs) := by
  induction fuel generalizing before pos afterMatch cs with
  | zero => exact Nat.le_add_right _ _
  | succ fuel ih =>
    rw [spansFrom]
    split
    · exact Nat.le_add_right _ _
    · next i j hnext =>
      obtain ⟨hle, hin⟩ := p.findNext?_within hnext
      simp only at hle hin
      rw [spansFrom_eq_append]
      refine ⟨Nat.le_add_right _ _, Nat.add_le_add_left hle pos, ?_⟩
      have hrest := ih (if j = 0 then before else cs[j - 1]?) (pos + j) true (cs.drop j)
      rwa [List.length_drop, Nat.add_assoc, Nat.add_sub_cancel' hin] at hrest

/-- **The matches of a program are in order**, inside the text and without overlaps; some of them may be empty. -/
theorem inOrder_spans (cs : Text) : InOrder cs.length 0 (p.spans cs) := by
  have horder := p.inOrder_spansFrom (cs.length + 2) none 0 false cs
  rwa [Nat.zero_add] at horder

theorem InOrder.le {n pos : Nat} {spans : List Span} (h : InOrder n pos spans) : pos ≤ n := by
  induction spans generalizing pos with
  | nil => exact h
  | cons span more ih =>
    obtain ⟨hpos, hspan, hmore⟩ := h
    exact Nat.le_trans hpos (Nat.le_trans hspan (ih hmore))

end Regex.Program

/-! ## The parts of a cut text -/

/-- The parts of a cut text put together again. -/
def Split.text (s : Split) : Text := (s.pieces.flatMap fun p => p.1 ++ p.2) ++ s.rest

theorem Split.text_ofSpansFrom {n : Nat} (spans : List Regex.Program.Span) (acc : List (Text × Text)) (pos : Nat)
    (cs : Text) (h : Regex.Program.InOrder n pos spans) (hn : n = pos + cs.length) :
    (ofSpansFrom spans acc pos cs).text = (acc.reverse.flatMap fun p => p.1 ++ p.2) ++ cs := by
  induction spans generalizing acc pos cs with
  | nil => rfl
  | cons span more ih =>
    obtain ⟨i, j⟩ := span
    obtain ⟨hpos, hspan, hmore⟩ := h
    have hj := hmore.le
    rw [ofSpansFrom, ih _ _ _ hmore (by rw [List.length_drop]; omega), List.reverse_cons, List.flatMap_append,
      List.flatMap_singleton, List.append_assoc, List.append_assoc]
    congr 1
    -- the token, the delimiter text and what follows are one text cut at two places
    have hsplit : cs.drop (i - pos) = (cs.drop (i - pos)).take (j - i) ++ cs.drop (j - pos) := by
      conv_lhs => rw [← List.take_append_drop (j - i) (cs.drop (i - pos))]
      rw [List.drop_drop, show i - pos + (j - i) = j - pos by omega]
    rw [← hsplit, List.take_append_drop]

/-- **Cutting loses nothing**: the tokens and the delimiter texts, in their order, make up the text. -/
theorem Delimiter.text_split (d : Delimiter) (cs : Text) : (d.split cs).text = cs := by
  rw [Delimiter.split, Split.ofSpans, Split.text_ofSpansFrom _ _ _ _ (d.program.inOrder_spans cs) (Nat.zero_add _).symm]
  rfl

end Dialogue
