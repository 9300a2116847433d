import Dialogue.Proofs.Delimiter.Split
import Mathlib.Tactic.Common

/-!
# Lines

What the delimiter of lines leaves of a text, in terms of the text itself.

* `isLineEnd`, `lines`: the characters that end lines, and the lines of a text that are not empty;
* `cut`, `closed`, `opened`: a text cut at every such character, its lines that have ended, and the one that has not;
* `closed_append`, `opened_append`, `lines_eq`: a text may be cut part by part;
* `firstLineEnd`, **`find?_line`**: the first match of the delimiter of lines;
* **`tokens_split_line`**, **`rest_split_line`**: the tokens of a text are its lines, up to empty tokens between them.
-/

namespace Dialogue

/-- CR or LF. -/
def isLineEnd (c : Char) : Bool := c = '\r' || c = '\n'

/-- The lines of a text: the maximal parts without CR and LF that are not empty. -/
def lines (cs : Text) : List Text := (cs.splitOnP isLineEnd).filter (· ≠ [])

/-- The lines of a text that have ended, of which the first begins with `begun`, and the one that has not. -/
def cut (begun : Text) : Text → List Text × Text
  | [] => ([], begun)
  | c :: cs => if isLineEnd c then (begun :: (cut [] cs).1, (cut [] cs).2) else cut (begun ++ [c]) cs

/-- The lines that have ended and are not empty. -/
def closed (cs : Text) : List Text := (cut [] cs).1.filter (· ≠ [])

/-- The line that has not ended yet. -/
def opened (cs : Text) : Text := (cut [] cs).2

/-! ## Cutting in parts -/

theorem cut_append (begun as bs : Text) :
    cut begun (as ++ bs) = ((cut begun as).1 ++ (cut (cut begun as).2 bs).1, (cut (cut begun as).2 bs).2) := by
  induction as generalizing begun with
  | nil => rfl
  | cons c as ih =>
    rw [List.cons_append, cut, cut]
    split_ifs
    · rw [ih]
      rfl
    · exact ih _

theorem cut_plain_append (begun : Text) {plain : Text} (h : ∀ c ∈ plain, ¬ isLineEnd c) (cs : Text) :
    cut begun (plain ++ cs) = cut (begun ++ plain) cs := by
  induction plain generalizing begun with
  | nil => rw [List.nil_append, List.append_nil]
  | cons c plain ih =>
    obtain ⟨hc, hplain⟩ := List.forall_mem_cons.mp h
    rw [List.cons_append, cut, if_neg hc, ih _ hplain, List.append_assoc, List.singleton_append]

theorem not_isLineEnd_of_mem_cut {begun cs : Text} (h : ∀ c ∈ begun, ¬ isLineEnd c) :
    ∀ c ∈ (cut begun cs).2, ¬ isLineEnd c := by
  induction cs generalizing begun with
  | nil => exact h
  | cons c cs ih =>
    rw [cut]
    split_ifs with hc
    · exact ih (List.forall_mem_nil _)
    · exact ih (List.forall_mem_append.mpr ⟨h, List.forall_mem_singleton.mpr hc⟩)

theorem not_isLineEnd_of_mem_opened {cs : Text} : ∀ c ∈ opened cs, ¬ isLineEnd c :=
  not_isLineEnd_of_mem_cut (List.forall_mem_nil _)

theorem cut_opened (cs new : Text) : cut [] (opened cs ++ new) = cut (opened cs) new :=
  cut_plain_append [] not_isLineEnd_of_mem_opened new

theorem closed_append (cs new : Text) : closed (cs ++ new) = closed cs ++ closed (opened cs ++ new) := by
  rw [closed, cut_append, List.filter_append, closed, closed, cut_opened]
  rfl

theorem opened_append (cs new : Text) : opened (cs ++ new) = opened (opened cs ++ new) := by
  rw [opened, cut_append, opened, cut_opened]
  rfl

theorem exists_prefix_of_cut (begun cs : Text) : ∃ l ∈ (cut begun cs).1 ++ [(cut begun cs).2], begun <+: l := by
  induction cs generalizing begun with
  | nil => exact ⟨begun, List.mem_singleton_self _, List.prefix_rfl⟩
  | cons c cs ih =>
    rw [cut]
    split_ifs
    · exact ⟨begun, List.mem_cons_self .., List.prefix_rfl⟩
    · obtain ⟨l, hl, hprefix⟩ := ih (begun ++ [c])
      exact ⟨l, hl, (List.prefix_append _ _).trans hprefix⟩

/-! ## Lines as parts between line ends -/

theorem splitOnP_isLineEnd (begun cs : Text) :
    (cs.splitOnP isLineEnd).modifyHead (begun ++ ·) = (cut begun cs).1 ++ [(cut begun cs).2] := by
  induction cs generalizing begun with
  | nil => rw [List.splitOnP_nil, List.modifyHead_cons, List.append_nil, cut, List.nil_append]
  | cons c cs ih =>
    rw [List.splitOnP_cons_eq_if_modifyHead, cut]
    split_ifs
    · have hrest := ih []
      rw [show (fun l : Text => [] ++ l) = id from rfl, List.modifyHead_id] at hrest
      rw [List.modifyHead_cons, List.append_nil, List.cons_append, ← hrest]
      rfl
    · rw [List.modifyHead_modifyHead, ← ih]
      congr 1
      funext l
      rw [Function.comp_apply, List.append_assoc, List.singleton_append]

theorem lines_eq (cs : Text) : lines cs = closed cs ++ [opened cs].filter (· ≠ []) := by
  have hsplit := splitOnP_isLineEnd [] cs
  rw [show (fun l : Text => [] ++ l) = id from rfl, List.modifyHead_id] at hsplit
  rw [lines, ← id_eq (cs.splitOnP isLineEnd), hsplit, List.filter_append]
  rfl

theorem lines_of_opened_eq_nil {cs : Text} (h : opened cs = []) : lines cs = closed cs := by
  rw [lines_eq, h]
  exact List.append_nil _

theorem lines_of_opened_ne_nil {cs : Text} (h : opened cs ≠ []) : lines cs = closed cs ++ [opened cs] := by
  rw [lines_eq, List.filter_cons_of_pos (by simpa using h), List.filter_nil]

theorem lines_append (cs new : Text) : lines (cs ++ new) = closed cs ++ lines (opened cs ++ new) := by
  rw [lines_eq, lines_eq, closed_append, ← opened_append, List.append_assoc]

theorem closed_plain_append {plain : Text} (hplain : ∀ c ∈ plain, ¬ isLineEnd c) {c : Char} (hc : isLineEnd c)
    (cs : Text) : closed (plain ++ c :: cs) = [plain].filter (· ≠ []) ++ closed cs := by
  rw [closed, cut_plain_append [] hplain, cut, if_pos hc, List.nil_append, closed, ← List.filter_append]
  rfl

theorem opened_plain_append {plain : Text} (hplain : ∀ c ∈ plain, ¬ isLineEnd c) {c : Char} (hc : isLineEnd c)
    (cs : Text) : opened (plain ++ c :: cs) = opened cs := by
  rw [opened, cut_plain_append [] hplain, cut, if_pos hc]
  rfl

section LineEnd

variable {c : Char} (hc : isLineEnd c) (cs rest : Text)

include hc

theorem closed_append_lineEnd : closed (cs ++ c :: rest) = lines cs ++ closed rest := by
  rw [closed_append, closed_plain_append not_isLineEnd_of_mem_opened hc, lines_eq, List.append_assoc]

theorem opened_append_lineEnd : opened (cs ++ c :: rest) = opened rest := by
  rw [opened_append, opened_plain_append not_isLineEnd_of_mem_opened hc]

theorem lines_append_lineEnd : lines (cs ++ c :: rest) = lines cs ++ lines rest := by
  rw [lines_eq (cs ++ c :: rest), closed_append_lineEnd hc, opened_append_lineEnd hc, lines_eq rest,
    List.append_assoc]

end LineEnd

theorem exists_line_of_not_isLineEnd (cs : Text) {c : Char} (hc : ¬ isLineEnd c) (more : Text) :
    ∃ l ∈ lines (cs ++ c :: more), opened cs ++ [c] <+: l := by
  obtain ⟨l, hl, hprefix⟩ := exists_prefix_of_cut (opened cs ++ [c]) more
  have hne : l ≠ [] := by
    rintro rfl
    exact absurd (List.prefix_nil.mp hprefix) (List.append_ne_nil_of_right_ne_nil _ (List.cons_ne_nil _ _))
  have hcut : cut [] (opened cs ++ c :: more) = cut (opened cs ++ [c]) more := by
    rw [cut_plain_append [] not_isLineEnd_of_mem_opened, List.nil_append, cut, if_neg hc]
  refine ⟨l, ?_, hprefix⟩
  rw [lines_append, lines_eq]
  refine List.mem_append_right _ ?_
  change l ∈ (cut [] (opened cs ++ c :: more)).1.filter (· ≠ []) ++
    [(cut [] (opened cs ++ c :: more)).2].filter (· ≠ [])
  rw [hcut, ← List.filter_append]
  exact List.mem_filter.mpr ⟨hl, decide_eq_true hne⟩

/-! ## Matches of the delimiter of lines -/

namespace Regex.Program

/-- The instructions: CR and LF together are preferred to CR, and CR to LF. -/
theorem program_line : Delimiter.line.program =
    ⟨#[.accept, .set (.single '\n') 0, .set (.single '\r') 0, .fork 2 1, .set (.single '\n') 0,
      .set (.single '\r') 4, .fork 5 3], 6⟩ := rfl

theorem start_line : Delimiter.line.program.start = 6 := rfl

theorem contains_single {c d : Char} : (CharSet.single c).contains d = decide (d = c) := by
  have h : c = d ↔ c.toNat = d.toNat := Char.toNat_inj.symm
  simp only [CharSet.single, CharSet.contains, CharSet.has]
  grind

theorem pass_line (c : Char) (o : Nat) :
    Delimiter.line.program.pass c ⟨0, o⟩ = none ∧
      Delimiter.line.program.pass c ⟨1, o⟩ = (if c = '\n' then some ⟨0, o⟩ else none) ∧
      Delimiter.line.program.pass c ⟨2, o⟩ = (if c = '\r' then some ⟨0, o⟩ else none) ∧
      Delimiter.line.program.pass c ⟨4, o⟩ = (if c = '\n' then some ⟨0, o⟩ else none) ∧
      Delimiter.line.program.pass c ⟨5, o⟩ = if c = '\r' then some ⟨4, o⟩ else none := by
  simp [program_line, pass, contains_single]

theorem accepts_line (o : Nat) :
    Delimiter.line.program.accepts ⟨0, o⟩ = true ∧ Delimiter.line.program.accepts ⟨1, o⟩ = false := by
  simp [program_line, accepts]

/-- A thread that begins waits for CR, for CR once more, and for LF. -/
theorem followAll_line_start (before after : Option Char) (o : Nat) :
    Delimiter.line.program.followAll before after [⟨6, o⟩] = [⟨5, o⟩, ⟨2, o⟩, ⟨1, o⟩] := by
  simp [program_line, followAll, follow, Nat.testBit]

theorem followAll_line_accept (before after : Option Char) (o : Nat) (more : List Thread) :
    Delimiter.line.program.followAll before after (⟨0, o⟩ :: more) = [⟨0, o⟩] := by
  simp [program_line, followAll, follow]

/-- After CR a match may end, but LF after it is preferred. -/
theorem followAll_line_cr (before after : Option Char) (o : Nat) (more : List Thread) :
    Delimiter.line.program.followAll before after (⟨4, o⟩ :: ⟨0, o⟩ :: more) = [⟨4, o⟩, ⟨0, o⟩] := by
  simp [program_line, followAll, follow, Nat.testBit]

variable (before : Option Char) (pos : Nat)

theorem search_line_nil : Delimiter.line.program.search before pos [] none [] = none := by
  simp [search, start_line, followAll_line_start, improve, accepts_line]

theorem search_line_plain {c : Char} (cs : Text) (hcr : c ≠ '\r') (hlf : c ≠ '\n') :
    Delimiter.line.program.search before pos [] none (c :: cs) =
      Delimiter.line.program.search (some c) (pos + 1) [] none cs := by
  simp [search, start_line, followAll_line_start, improve, accepts_line, pass_line, hcr, hlf]

theorem search_line_accept (o : Nat) (best : Option Span) (cs : Text) :
    Delimiter.line.program.search before pos [⟨0, o⟩] best cs = some (o, pos) := by
  cases cs <;> cases best <;> simp [search, followAll_line_accept, improve, accepts_line, pass_line]

theorem search_line_lf (cs : Text) :
    Delimiter.line.program.search before pos [] none ('\n' :: cs) = some (pos, pos + 1) := by
  simp [search, start_line, followAll_line_start, improve, accepts_line, pass_line, search_line_accept]

theorem search_line_cr_lf (cs : Text) :
    Delimiter.line.program.search before pos [] none ('\r' :: '\n' :: cs) = some (pos, pos + 2) := by
  simp [search, start_line, followAll_line_start, improve, accepts_line, pass_line, search_line_accept,
    followAll_line_cr]

theorem search_line_cr {cs : Text} (h : cs.head? ≠ some '\n') :
    Delimiter.line.program.search before pos [] none ('\r' :: cs) = some (pos, pos + 1) := by
  cases cs with
  | nil => simp [search, start_line, followAll_line_start, improve, accepts_line, pass_line, followAll_line_cr]
  | cons c cs =>
    have hc : c ≠ '\n' := fun hc => h (congrArg some hc)
    simp [search, start_line, followAll_line_start, improve, accepts_line, pass_line, followAll_line_cr, hc]

end Regex.Program

/-- The first line end in a text: CR and LF together, or either of them. -/
def firstLineEnd : Text → Option Regex.Program.Span
  | [] => none
  | c :: cs =>
    if c = '\r' then some (0, if cs.head? = some '\n' then 2 else 1)
    else if c = '\n' then some (0, 1)
    else (firstLineEnd cs).map fun (i, j) => (i + 1, j + 1)

theorem search_line (before : Option Char) (pos : Nat) (cs : Text) :
    Delimiter.line.program.search before pos [] none cs =
      (firstLineEnd cs).map fun (i, j) => (pos + i, pos + j) := by
  induction cs generalizing before pos with
  | nil => exact Regex.Program.search_line_nil before pos
  | cons c cs ih =>
    rw [firstLineEnd]
    split_ifs with hcr hhead hlf
    · obtain ⟨cs, rfl⟩ := List.head?_eq_some_iff.mp hhead
      rw [hcr, Regex.Program.search_line_cr_lf]
      rfl
    · rw [hcr, Regex.Program.search_line_cr before pos hhead]
      rfl
    · rw [hlf, Regex.Program.search_line_lf]
      rfl
    · rw [Regex.Program.search_line_plain before pos cs hcr hlf, ih, Option.map_map]
      congr 1
      funext ⟨i, j⟩
      simp only [Function.comp_apply, Nat.add_assoc, Nat.add_comm 1]

theorem find?_line (before : Option Char) (cs : Text) :
    Delimiter.line.program.find? before cs = firstLineEnd cs := by
  rw [Regex.Program.find?, search_line]
  simp only [Nat.zero_add]
  exact Option.map_id'

theorem firstLineEnd_eq_some {cs : Text} {i j : Nat} (h : firstLineEnd cs = some (i, j)) :
    ∃ plain ends rest, cs = plain ++ (ends ++ rest) ∧ plain.length = i ∧ i + ends.length = j ∧
      (∀ c ∈ plain, ¬ isLineEnd c) ∧ (ends = ['\r', '\n'] ∨ ends = ['\r'] ∨ ends = ['\n']) := by
  induction cs generalizing i j with
  | nil => cases h
  | cons c cs ih =>
    rw [firstLineEnd] at h
    split_ifs at h with hcr hhead hlf
    · obtain ⟨rest, rfl⟩ := List.head?_eq_some_iff.mp hhead
      cases h
      exact ⟨[], ['\r', '\n'], rest, by rw [hcr]; rfl, rfl, rfl, List.forall_mem_nil _, .inl rfl⟩
    · cases h
      exact ⟨[], ['\r'], cs, by rw [hcr]; rfl, rfl, rfl, List.forall_mem_nil _, .inr (.inl rfl)⟩
    · cases h
      exact ⟨[], ['\n'], cs, by rw [hlf]; rfl, rfl, rfl, List.forall_mem_nil _, .inr (.inr rfl)⟩
    · obtain ⟨⟨i', j'⟩, hmore, heq⟩ := Option.map_eq_some_iff.mp h
      cases heq
      obtain ⟨plain, ends, rest, rfl, rfl, rfl, hplain, hends⟩ := ih hmore
      refine ⟨c :: plain, ends, rest, rfl, rfl, Nat.add_right_comm _ _ _, List.forall_mem_cons.mpr ⟨?_, hplain⟩, hends⟩
      simp [isLineEnd, hcr, hlf]

theorem firstLineEnd_eq_none {cs : Text} (h : firstLineEnd cs = none) : ∀ c ∈ cs, ¬ isLineEnd c := by
  induction cs with
  | nil => exact List.forall_mem_nil _
  | cons c cs ih =>
    rw [firstLineEnd] at h
    split_ifs at h with hcr hlf
    refine List.forall_mem_cons.mpr ⟨by simp [isLineEnd, hcr, hlf], ih (Option.map_eq_none_iff.mp h)⟩

/-! ## Tokens of a text -/

theorem cut_of_lineEnd {plain ends : Text} (hplain : ∀ c ∈ plain, ¬ isLineEnd c)
    (hends : ends = ['\r', '\n'] ∨ ends = ['\r'] ∨ ends = ['\n']) (rest : Text) :
    closed (plain ++ (ends ++ rest)) = [plain].filter (· ≠ []) ++ closed rest ∧
      opened (plain ++ (ends ++ rest)) = opened rest := by
  rcases hends with rfl | rfl | rfl
  · -- between CR and LF there is an empty line, which does not count
    have hempty := closed_plain_append (List.forall_mem_nil _) (c := '\n') rfl rest
    have hopened := opened_plain_append (List.forall_mem_nil _) (c := '\n') rfl rest
    rw [List.cons_append, closed_plain_append hplain rfl, opened_plain_append hplain rfl]
    exact ⟨congrArg _ hempty, hopened⟩
  · exact ⟨closed_plain_append hplain rfl rest, opened_plain_append hplain rfl rest⟩
  · exact ⟨closed_plain_append hplain rfl rest, opened_plain_append hplain rfl rest⟩

theorem findNext?_line (before : Option Char) (afterMatch : Bool) (cs : Text) :
    Delimiter.line.program.findNext? before afterMatch cs = firstLineEnd cs := by
  unfold Regex.Program.findNext?
  rw [find?_line]
  split
  · next h =>
    -- a line end is not empty
    obtain ⟨plain, ends, rest, -, hi, hj, -, hends⟩ := firstLineEnd_eq_some h
    rcases hends with rfl | rfl | rfl <;> simp at hj
  · rfl

/-- The tokens in the pieces of a cut text, those that are empty left out. -/
def Split.tokens (s : Split) : List Text := (s.pieces.map Prod.fst).filter (· ≠ [])

theorem ofSpansFrom_line (fuel : Nat) (before : Option Char) (pos : Nat) (afterMatch : Bool)
    (acc : List (Text × Text)) (cs : Text) (h : cs.length < fuel) :
    (Split.ofSpansFrom (Delimiter.line.program.spansFrom fuel before pos afterMatch [] cs) acc pos cs).tokens =
        (acc.reverse.map Prod.fst).filter (· ≠ []) ++ closed cs ∧
      (Split.ofSpansFrom (Delimiter.line.program.spansFrom fuel before pos afterMatch [] cs) acc pos cs).rest =
        opened cs := by
  induction fuel generalizing before pos afterMatch acc cs with
  | zero => exact absurd h (Nat.not_lt_zero _)
  | succ fuel ih =>
    rw [Regex.Program.spansFrom, findNext?_line]
    rcases hfirst : firstLineEnd cs with _ | ⟨i, j⟩
    · have hplain := cut_plain_append [] (firstLineEnd_eq_none hfirst) []
      rw [List.append_nil, List.nil_append] at hplain
      simp only [List.reverse_nil, Split.ofSpansFrom, Split.tokens, closed, opened, hplain, cut, List.filter_nil,
        List.append_nil, and_self]
    · obtain ⟨plain, ends, rest, rfl, rfl, rfl, hplain, hends⟩ := firstLineEnd_eq_some hfirst
      have hlength : 0 < ends.length := by rcases hends with rfl | rfl | rfl <;> simp
      have hdrop : (plain ++ (ends ++ rest)).drop (plain.length + ends.length) = rest := by
        rw [← List.append_assoc, ← List.length_append, List.drop_left]
      simp only
      rw [Regex.Program.spansFrom_eq_append, List.reverse_singleton, List.singleton_append, Split.ofSpansFrom,
        Nat.add_sub_cancel_left, Nat.add_sub_cancel_left, hdrop, List.take_left]
      obtain ⟨hclosed, hopened⟩ := cut_of_lineEnd hplain hends rest
      have hacc : ∀ text, (((plain, text) :: acc).reverse.map Prod.fst).filter (· ≠ []) ++ closed rest =
          (acc.reverse.map Prod.fst).filter (· ≠ []) ++ ([plain].filter (· ≠ []) ++ closed rest) := fun text => by
        rw [List.reverse_cons, List.map_append, List.filter_append, List.append_assoc]
        rfl
      rw [hclosed, hopened, ← hacc]
      simp only [List.length_append] at h
      exact ih _ _ _ _ _ (by omega)

/-- **The tokens of a text are the lines that have ended**, up to empty tokens. -/
theorem tokens_split_line (cs : Text) : (Delimiter.line.split cs).tokens = closed cs :=
  (ofSpansFrom_line _ none 0 false [] cs (by omega)).1

/-- **The line that has not ended follows the last delimiter text.** -/
theorem rest_split_line (cs : Text) : (Delimiter.line.split cs).rest = opened cs :=
  (ofSpansFrom_line _ none 0 false [] cs (by omega)).2

end Dialogue
