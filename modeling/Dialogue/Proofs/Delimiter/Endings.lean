import Dialogue.Proofs.Delimiter.Lines

/-!
# Lines with their ends

The lines of a text that have ended, empty ones among them: every CR and every LF ends one, but an LF right after a CR
belongs to the same line end. A text that is cut into parts has the same lines as its parts, up to an empty line for
every line end that is cut in the middle.

* `endedLines`: the lines of a text that have ended;
* **`fst_pieces_split_line`**: they are the tokens of the text;
* `cutsLineEnd`, `cutLineEnds`: the line ends that are cut in the middle;
* `partLines`, **`endedLines_sublist_partLines`**, `length_partLines`, `filter_partLines`: the lines of the parts.
-/

namespace Dialogue

/-- The lines of a text that have ended, when the character `before` and the beginning `begun` of a line stand in
front of it. -/
def endedLines (before : Option Char) (begun : Text) : Text → List Text
  | [] => []
  | c :: cs =>
    if c = '\n' ∧ before = some '\r' then endedLines (some c) [] cs
    else if isLineEnd c then begun :: endedLines (some c) [] cs
    else endedLines (some c) (begun ++ [c]) cs

/-! ## What stands in front of a text -/

/-- The character in front matters to an LF, and only whether it is CR. -/
theorem endedLines_congr {before before' : Option Char} {cs : Text}
    (h : cs.head? = some '\n' → (before = some '\r' ↔ before' = some '\r')) (begun : Text) :
    endedLines before begun cs = endedLines before' begun cs := by
  cases cs with
  | nil => rfl
  | cons c cs =>
    by_cases hc : c = '\n'
    · have hsame : (c = '\n' ∧ before = some '\r') = (c = '\n' ∧ before' = some '\r') := by
        rw [h (congrArg some hc)]
      simp only [endedLines, hsame]
    · simp only [endedLines, hc, false_and]

theorem endedLines_plain_append {plain : Text} (h : ∀ c ∈ plain, ¬ isLineEnd c) {before : Option Char}
    (hbefore : before ≠ some '\r') (begun cs : Text) :
    endedLines before begun (plain ++ cs) = endedLines none (begun ++ plain) cs := by
  induction plain generalizing before begun with
  | nil =>
    rw [List.nil_append, List.append_nil]
    exact endedLines_congr (fun _ => by simp [hbefore]) begun
  | cons c plain ih =>
    obtain ⟨hc, hplain⟩ := List.forall_mem_cons.mp h
    have hcr : c ≠ '\r' := by rintro rfl; exact hc rfl
    have hlf : c ≠ '\n' := by rintro rfl; exact hc rfl
    rw [List.cons_append, endedLines, if_neg (fun hboth => hlf hboth.1), if_neg hc,
      ih hplain (fun heq => hcr (Option.some.inj heq)), List.append_assoc, List.singleton_append]

theorem endedLines_append (before : Option Char) (begun as bs : Text) :
    endedLines before begun (as ++ bs) =
      endedLines before begun as ++ endedLines (as.getLast?.or before) (cut begun as).2 bs := by
  induction as generalizing before begun with
  | nil => rfl
  | cons c as ih =>
    have hlast : (c :: as).getLast?.or before = as.getLast?.or (some c) := by
      rw [List.getLast?_cons]
      cases as.getLast? <;> rfl
    rw [List.cons_append, endedLines, endedLines, cut, hlast]
    split_ifs with hboth hend hend
    · exact ih (some c) []
    · exact absurd (by rw [hboth.1]; rfl) hend
    · rw [ih, List.cons_append]
    · exact ih (some c) _

/-! ## The tokens of a text -/

theorem endedLines_of_firstLineEnd {before : Option Char} (hbefore : before ≠ some '\r') (begun : Text) {cs : Text}
    {i j : Nat} (h : firstLineEnd cs = some (i, j)) :
    endedLines before begun cs = (begun ++ cs.take i) :: endedLines none [] (cs.drop j) := by
  induction cs generalizing before begun i j with
  | nil => cases h
  | cons c cs ih =>
    rw [firstLineEnd] at h
    split_ifs at h with hcr hhead hlf
    · obtain ⟨rest, rfl⟩ := List.head?_eq_some_iff.mp hhead
      cases h
      have hrest : endedLines (some '\n') [] rest = endedLines none [] rest :=
        endedLines_congr (fun _ => by simp) []
      simp [endedLines, hcr, isLineEnd, hrest]
    · cases h
      have hrest : endedLines (some '\r') [] cs = endedLines none [] cs :=
        endedLines_congr (fun hlf => absurd hlf hhead) []
      simp [endedLines, hcr, isLineEnd, hrest]
    · cases h
      have hrest : endedLines (some '\n') [] cs = endedLines none [] cs := endedLines_congr (fun _ => by simp) []
      simp [endedLines, hlf, isLineEnd, hrest, hbefore]
    · obtain ⟨⟨i', j'⟩, hmore, heq⟩ := Option.map_eq_some_iff.mp h
      cases heq
      rw [endedLines, if_neg (fun hboth => hlf hboth.1), if_neg (by simp [isLineEnd, hcr, hlf]),
        ih (fun heq => hcr (Option.some.inj heq)) _ hmore, List.append_assoc]
      rfl

theorem fst_pieces_ofSpansFrom_line (fuel : Nat) (before : Option Char) (pos : Nat) (afterMatch : Bool)
    (acc : List (Text × Text)) (cs : Text) (h : cs.length < fuel) :
    (Split.ofSpansFrom (Delimiter.line.program.spansFrom fuel before pos afterMatch [] cs) acc pos cs).pieces.map
        Prod.fst = acc.reverse.map Prod.fst ++ endedLines none [] cs := by
  induction fuel generalizing before pos afterMatch acc cs with
  | zero => exact absurd h (Nat.not_lt_zero _)
  | succ fuel ih =>
    rw [Regex.Program.spansFrom, findNext?_line]
    rcases hfirst : firstLineEnd cs with _ | ⟨i, j⟩
    · have hplain : endedLines none [] (cs ++ []) = endedLines none ([] ++ cs) [] :=
        endedLines_plain_append (firstLineEnd_eq_none hfirst) (Option.some_ne_none _).symm [] []
      rw [List.append_nil, endedLines] at hplain
      simp only [List.reverse_nil, Split.ofSpansFrom, hplain, List.append_nil]
    · have hlines : endedLines none [] cs = ([] ++ cs.take i) :: endedLines none [] (cs.drop j) :=
        endedLines_of_firstLineEnd (Option.some_ne_none _).symm [] hfirst
      -- a line end is not empty, so less text is left
      have hshort : (cs.drop j).length < fuel := by
        obtain ⟨plain, ends, rest, rfl, rfl, rfl, -, hends⟩ := firstLineEnd_eq_some hfirst
        have hlength : 0 < ends.length := by rcases hends with rfl | rfl | rfl <;> simp
        simp only [List.length_append, List.length_drop] at h ⊢
        omega
      simp only
      rw [Regex.Program.spansFrom_eq_append, List.reverse_singleton, List.singleton_append, Split.ofSpansFrom,
        Nat.add_sub_cancel_left, Nat.add_sub_cancel_left, ih _ _ _ _ _ hshort, hlines, List.reverse_cons,
        List.map_append, List.append_assoc]
      rfl

/-- **The tokens of a text are its lines that have ended.** -/
theorem fst_pieces_split_line (cs : Text) : (Delimiter.line.split cs).pieces.map Prod.fst = endedLines none [] cs :=
  fst_pieces_ofSpansFrom_line _ none 0 false [] cs (by omega)

/-! ## Texts in parts -/

/-- A line end is cut in the middle when CR stands before the cut and LF after it. -/
def cutsLineEnd (part new : Text) : Prop := part.getLast? = some '\r' ∧ new.head? = some '\n'

instance (part new : Text) : Decidable (cutsLineEnd part new) := inferInstanceAs (Decidable (_ ∧ _))

/-- The number of line ends that are cut in the middle where the texts `news` come one after another, after the text
`part`. -/
def cutLineEnds (part : Text) : List Text → Nat
  | [] => 0
  | new :: news => (if cutsLineEnd part new then 1 else 0) + cutLineEnds (part ++ new) news

/-- The lines that end in each of some texts, which come one after another, after the text `part`; a line goes on, but
it is forgotten what stood last. -/
def partLines (part : Text) : List Text → List Text
  | [] => []
  | new :: news => endedLines none (opened part) new ++ partLines (part ++ new) news

theorem opened_of_getLast?_cr {part : Text} (h : part.getLast? = some '\r') : opened part = [] := by
  obtain ⟨front, rfl⟩ := List.getLast?_eq_some_iff.mp h
  exact opened_append_lineEnd rfl front []

/-- What is forgotten matters to a line end that is cut: there is an empty line in the middle of it. -/
theorem endedLines_forgotten (part new : Text) :
    endedLines none (opened part) new =
      (if cutsLineEnd part new then [[]] else []) ++ endedLines part.getLast? (opened part) new := by
  by_cases hcut : cutsLineEnd part new
  · obtain ⟨hcr, hlf⟩ := hcut
    obtain ⟨rest, rfl⟩ := List.head?_eq_some_iff.mp hlf
    rw [if_pos ⟨hcr, hlf⟩, opened_of_getLast?_cr hcr, hcr]
    simp [endedLines, isLineEnd]
  · rw [if_neg hcut, List.nil_append]
    exact endedLines_congr (fun hlf => iff_of_false (by simp) fun hcr => hcut ⟨hcr, hlf⟩) _

theorem endedLines_part_append (part new : Text) :
    endedLines none [] (part ++ new) = endedLines none [] part ++ endedLines part.getLast? (opened part) new := by
  rw [endedLines_append, Option.or_none, opened]

section Parts

variable (part : Text) (news : List Text)

theorem endedLines_flatten_cons (new : Text) :
    endedLines part.getLast? (opened part) (new :: news).flatten =
      endedLines part.getLast? (opened part) new ++
        endedLines (part ++ new).getLast? (opened (part ++ new)) news.flatten := by
  have hwhole := endedLines_part_append part (new ++ news.flatten)
  rw [← List.append_assoc, endedLines_part_append (part ++ new), endedLines_part_append part new,
    List.append_assoc] at hwhole
  exact (List.append_cancel_left hwhole).symm

/-- **Cutting drops no line**, and it changes none. -/
theorem endedLines_sublist_partLines :
    (endedLines part.getLast? (opened part) news.flatten).Sublist (partLines part news) := by
  induction news generalizing part with
  | nil => exact List.Sublist.refl _
  | cons new news ih =>
    rw [endedLines_flatten_cons, partLines, endedLines_forgotten, List.append_assoc]
    exact (List.Sublist.append_left (ih _) _).trans (List.sublist_append_right _ _)

/-- Cutting adds a line for every line end that is cut. -/
theorem length_partLines : (partLines part news).length =
    (endedLines part.getLast? (opened part) news.flatten).length + cutLineEnds part news := by
  induction news generalizing part with
  | nil => rfl
  | cons new news ih =>
    rw [endedLines_flatten_cons, partLines, endedLines_forgotten, cutLineEnds, List.length_append,
      List.length_append, List.length_append, ih]
    split_ifs <;> simp <;> omega

/-- The lines that cutting adds are empty. -/
theorem filter_partLines : (partLines part news).filter (· ≠ []) =
    (endedLines part.getLast? (opened part) news.flatten).filter (· ≠ []) := by
  induction news generalizing part with
  | nil => rfl
  | cons new news ih =>
    rw [endedLines_flatten_cons, partLines, endedLines_forgotten, List.filter_append, List.filter_append,
      List.filter_append, ih]
    split_ifs <;> rfl

end Parts

end Dialogue
