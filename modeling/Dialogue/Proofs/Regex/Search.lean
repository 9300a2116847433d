import Mathlib.Data.Finset.Card
import Dialogue.Proofs.Regex.Compile
import Dialogue.Regex.Search

/-!
# What searching finds

Threads are followed with a record of the instructions that were seen. Whatever such an instruction leads to without
passing a character was seen itself or is still on the list, so that in the end nothing is missing, unless a match
ended before. The fuel is enough because no instruction is followed twice.

* `Ends`: an end of a match can be reached;
* `follow_cons`: what becomes of one thread;
* `mem_follow`: threads that come through come from those that were given;
* `Followed`, `unseen`, **`follow_covers`**: none is missing, unless a match ended;
* `isSome_search`, **`isMatch_ofRegex`**: a search finds out whether some part of the text matches.
-/

namespace Dialogue.Regex

variable {p : Program} {t : Text} {i : Nat}

/-- An end of a match can be reached from an instruction and a place. -/
def Ends (p : Program) (t : Text) (x : Nat × Nat) : Prop :=
  ∃ n a j, p.code[a]? = some .accept ∧ Rounds (Step p.code t) n x (a, j)

theorem Ends.of_rounds {x y : Nat × Nat} {n : Nat} (hn : Rounds (Step p.code t) n x y) (h : Ends p t y) :
    Ends p t x := by
  obtain ⟨m, a, j, ha, hm⟩ := h
  exact ⟨n + m, a, j, ha, hn.trans hm⟩

/-! ## One thread -/

theorem testBit_mark {seen a b : Nat} : (seen ||| 1 <<< a).testBit b = true ↔ seen.testBit b = true ∨ b = a := by
  rw [Nat.testBit_or, Bool.or_eq_true, Nat.one_shiftLeft, Nat.testBit_two_pow, decide_eq_true_iff, eq_comm (a := a)]

/-- What becomes of a thread at an instruction that was not seen: a match ends there, or those of `more` take its
place, and it comes through itself if a character has to be passed. -/
theorem follow_cons (p : Program) (t : Text) (i fuel : Nat) {seen : Nat} {u : Thread} (rest live : List Thread)
    (hseen : seen.testBit u.inst = false) :
    (p.code[u.inst]? = some .accept ∧
      p.follow (before t i) t[i]? (fuel + 1) (u :: rest) seen live = (u :: live).reverse) ∨
    ∃ more kept, p.follow (before t i) t[i]? (fuel + 1) (u :: rest) seen live =
        p.follow (before t i) t[i]? fuel (more ++ rest) (seen ||| 1 <<< u.inst) (kept ++ live) ∧
      p.code[u.inst]? ≠ some .accept ∧
      (∀ b, Step p.code t (u.inst, i) (b, i) ↔ ∃ v ∈ more, v.inst = b) ∧
      (∀ v ∈ kept, v = u) ∧ (∀ s next, p.code[u.inst]? = some (.set s next) → u ∈ kept) ∧
      more.length ≤ 2 ∧ (u.inst < p.code.size ∨ more = []) := by
  have hlt : ∀ inst, p.code[u.inst]? = some inst → u.inst < p.code.size :=
    fun inst h => (Array.getElem?_eq_some_iff.mp h).1
  rw [Program.follow]
  simp only [hseen, Bool.false_eq_true, if_false]
  cases hinst : p.code[u.inst]? with
  | none =>
    refine .inr ⟨[], [], rfl, by simp, fun b => ?_, by simp, by simp, by simp, .inr rfl⟩
    simp [Step, hinst]
  | some inst =>
    have hstep : ∀ b, Step p.code t (u.inst, i) (b, i) ↔ inst.Leads t i (b, i) := fun b => step_iff hinst
    have hin := hlt inst hinst
    cases inst with
    | accept => exact .inl ⟨rfl, rfl⟩
    | fork a b =>
      refine .inr ⟨[⟨a, u.origin⟩, ⟨b, u.origin⟩], [], rfl, by simp, fun c => ?_, by simp, by simp, by simp, .inl hin⟩
      simp [hstep, Inst.Leads, eq_comm]
    | set s next =>
      refine .inr ⟨[], [u], rfl, by simp, fun c => ?_, by simp, by simp, by simp, .inr rfl⟩
      simp [hstep, Inst.Leads]
    | look l next =>
      by_cases hl : l.holds (before t i) t[i]? = true
      · refine .inr ⟨[⟨next, u.origin⟩], [], by simp [hl], by simp, fun c => ?_, by simp, by simp, by simp, .inl hin⟩
        simp [hstep, Inst.Leads, hl, eq_comm]
      · refine .inr ⟨[], [], by simp [hl], by simp, fun c => ?_, by simp, by simp, by simp, .inr rfl⟩
        simp [hstep, Inst.Leads, hl]

theorem follow_cons_of_seen {fuel seen : Nat} {u : Thread} {rest live : List Thread} (b a : Option Char)
    (hseen : seen.testBit u.inst = true) :
    p.follow b a (fuel + 1) (u :: rest) seen live = p.follow b a fuel rest seen live := by
  rw [Program.follow, if_pos hseen]

/-! ## All threads -/

/-- A thread that comes through was through already, or one of the threads came to its instruction. -/
theorem mem_follow {fuel seen : Nat} {threads live : List Thread} {u : Thread}
    (hu : u ∈ p.follow (before t i) t[i]? fuel threads seen live) :
    u ∈ live ∨ ∃ s ∈ threads, ∃ n, Rounds (Step p.code t) n (s.inst, i) (u.inst, i) := by
  induction fuel generalizing threads seen live with
  | zero => exact .inl (List.mem_reverse.mp hu)
  | succ fuel ih =>
    cases threads with
    | nil => exact .inl (List.mem_reverse.mp hu)
    | cons v rest =>
      cases hseen : seen.testBit v.inst with
      | true =>
        rw [follow_cons_of_seen _ _ hseen] at hu
        rcases ih hu with hlive | ⟨s, hs, hn⟩
        · exact .inl hlive
        · exact .inr ⟨s, List.mem_cons_of_mem v hs, hn⟩
      | false =>
        rcases follow_cons p t i fuel rest live hseen with
          ⟨-, heq⟩ | ⟨more, kept, heq, -, hmore, hkept, -⟩
        · rw [heq, List.mem_reverse, List.mem_cons] at hu
          rcases hu with rfl | hlive
          · exact .inr ⟨u, List.mem_cons_self, 0, rfl⟩
          · exact .inl hlive
        · rw [heq] at hu
          rcases ih hu with hlive | ⟨s, hs, n, hn⟩
          · rcases List.mem_append.mp hlive with hv | hlive
            · obtain rfl := hkept u hv
              exact .inr ⟨u, List.mem_cons_self, 0, rfl⟩
            · exact .inl hlive
          · rcases List.mem_append.mp hs with hs | hs
            · exact .inr ⟨v, List.mem_cons_self, n + 1, _, (hmore s.inst).mpr ⟨s, hs, rfl⟩, hn⟩
            · exact .inr ⟨s, List.mem_cons_of_mem v hs, n, hn⟩

/-- **What was followed**, of the instructions that were seen: none ends a match, those that pass a character came
through, and those that they lead to were seen or are next. -/
structure Followed (p : Program) (t : Text) (i : Nat) (threads : List Thread) (seen : Nat) (live : List Thread) :
    Prop where
  going : ∀ a, seen.testBit a = true → p.code[a]? ≠ some .accept
  through : ∀ a s next, seen.testBit a = true → p.code[a]? = some (.set s next) → ∃ u ∈ live, u.inst = a
  closed : ∀ a b, seen.testBit a = true → Step p.code t (a, i) (b, i) →
    seen.testBit b = true ∨ ∃ u ∈ threads, u.inst = b

theorem followed_start {threads : List Thread} : Followed p t i threads 0 [] where
  going a ha := by simp at ha
  through a s next ha := by simp at ha
  closed a b ha := by simp at ha

theorem Followed.drop {u : Thread} {rest live : List Thread} {seen : Nat}
    (h : Followed p t i (u :: rest) seen live) (hseen : seen.testBit u.inst = true) :
    Followed p t i rest seen live where
  going := h.going
  through := h.through
  closed a b ha hab := by
    rcases h.closed a b ha hab with hb | ⟨v, hv, rfl⟩
    · exact .inl hb
    · rcases List.mem_cons.mp hv with rfl | hv
      · exact .inl hseen
      · exact .inr ⟨v, hv, rfl⟩

theorem Followed.replace {u : Thread} {rest live more kept : List Thread} {seen : Nat}
    (h : Followed p t i (u :: rest) seen live) (hne : p.code[u.inst]? ≠ some .accept)
    (hmore : ∀ b, Step p.code t (u.inst, i) (b, i) → ∃ v ∈ more, v.inst = b)
    (hkept : ∀ s next, p.code[u.inst]? = some (.set s next) → u ∈ kept) :
    Followed p t i (more ++ rest) (seen ||| 1 <<< u.inst) (kept ++ live) where
  going a ha := by
    rcases testBit_mark.mp ha with ha | rfl
    · exact h.going a ha
    · exact hne
  through a s next ha hinst := by
    rcases testBit_mark.mp ha with ha | rfl
    · obtain ⟨v, hv, hva⟩ := h.through a s next ha hinst
      exact ⟨v, List.mem_append_right kept hv, hva⟩
    · exact ⟨u, List.mem_append_left live (hkept s next hinst), rfl⟩
  closed a b ha hab := by
    rw [testBit_mark]
    rcases testBit_mark.mp ha with ha | rfl
    · rcases h.closed a b ha hab with hb | ⟨v, hv, rfl⟩
      · exact .inl (.inl hb)
      · rcases List.mem_cons.mp hv with rfl | hv
        · exact .inl (.inr rfl)
        · exact .inr ⟨v, List.mem_append_right more hv, rfl⟩
    · obtain ⟨v, hv, rfl⟩ := hmore b hab
      exact .inr ⟨v, List.mem_append_left rest hv, rfl⟩

theorem Followed.reverse {threads live : List Thread} {seen : Nat} (h : Followed p t i threads seen live) :
    Followed p t i threads seen live.reverse where
  going := h.going
  through a s next ha hinst := by
    obtain ⟨u, hu, hua⟩ := h.through a s next ha hinst
    exact ⟨u, List.mem_reverse.mpr hu, hua⟩
  closed := h.closed

theorem Followed.seen_of_step {live : List Thread} {seen a b : Nat} (h : Followed p t i [] seen live)
    (ha : seen.testBit a = true) (hab : Step p.code t (a, i) (b, i)) : seen.testBit b = true :=
  (h.closed a b ha hab).resolve_right (by simp)

/-- How many instructions were not seen yet. -/
def unseen (p : Program) (seen : Nat) : Nat := ((Finset.range p.code.size).filter fun a => seen.testBit a = false).card

theorem unseen_le (seen : Nat) : unseen p seen ≤ p.code.size := by
  have := Finset.card_filter_le (Finset.range p.code.size) fun a => seen.testBit a = false
  rwa [Finset.card_range] at this

theorem testBit_mark_eq_false {seen a b : Nat} :
    (seen ||| 1 <<< a).testBit b = false ↔ seen.testBit b = false ∧ b ≠ a := by
  rw [← Bool.not_eq_true, testBit_mark, not_or, Bool.not_eq_true]

theorem filter_unseen_mark {seen a : Nat} :
    ((Finset.range p.code.size).filter fun b => (seen ||| 1 <<< a).testBit b = false) ⊆
      (Finset.range p.code.size).filter fun b => seen.testBit b = false := by
  intro b hb
  obtain ⟨hrange, hmark⟩ := Finset.mem_filter.mp hb
  exact Finset.mem_filter.mpr ⟨hrange, (testBit_mark_eq_false.mp hmark).1⟩

theorem unseen_mark_le (seen a : Nat) : unseen p (seen ||| 1 <<< a) ≤ unseen p seen :=
  Finset.card_le_card filter_unseen_mark

theorem unseen_mark_lt {seen a : Nat} (hseen : seen.testBit a = false) (ha : a < p.code.size) :
    unseen p (seen ||| 1 <<< a) < unseen p seen := by
  refine Finset.card_lt_card ((Finset.ssubset_iff_of_subset filter_unseen_mark).mpr ⟨a, ?_, fun h => ?_⟩)
  · exact Finset.mem_filter.mpr ⟨Finset.mem_range.mpr ha, hseen⟩
  · exact (testBit_mark_eq_false.mp (Finset.mem_filter.mp h).2).2 rfl

/-- **Following threads leaves none out**: the last one to come through is at the end of a match, or there are
instructions, the given ones among them, that nothing leads out of and none of which ends a match; those that pass a
character came through. -/
theorem follow_covers {fuel seen : Nat} {threads live : List Thread} (h : Followed p t i threads seen live)
    (hfuel : threads.length + 2 * unseen p seen ≤ fuel) :
    (∃ u, (p.follow (before t i) t[i]? fuel threads seen live).getLast? = some u ∧
      p.code[u.inst]? = some .accept) ∨
    ∃ S, Followed p t i [] S (p.follow (before t i) t[i]? fuel threads seen live) ∧
      (∀ a, seen.testBit a = true → S.testBit a = true) ∧ ∀ u ∈ threads, S.testBit u.inst = true := by
  induction fuel generalizing threads seen live with
  | zero =>
    obtain rfl : threads = [] := List.length_eq_zero_iff.mp (by omega)
    exact .inr ⟨seen, h.reverse, fun _ => id, by simp⟩
  | succ fuel ih =>
    cases threads with
    | nil => exact .inr ⟨seen, h.reverse, fun _ => id, by simp⟩
    | cons u rest =>
      rw [List.length_cons] at hfuel
      cases hseen : seen.testBit u.inst with
      | true =>
        rw [follow_cons_of_seen _ _ hseen]
        rcases ih (h.drop hseen) (by omega) with hend | ⟨S, hS, hsub, hrest⟩
        · exact .inl hend
        · exact .inr ⟨S, hS, hsub, List.forall_mem_cons.mpr ⟨hsub _ hseen, hrest⟩⟩
      | false =>
        rcases follow_cons p t i fuel rest live hseen with
          ⟨hacc, heq⟩ | ⟨more, kept, heq, hne, hmore, -, hkept, hlen, hin⟩
        · exact .inl ⟨u, by simp [heq], hacc⟩
        · -- an instruction that leads on to two others is one less to be seen
          have hfuel' : (more ++ rest).length + 2 * unseen p (seen ||| 1 <<< u.inst) ≤ fuel := by
            rw [List.length_append]
            rcases hin with hin | rfl
            · have := unseen_mark_lt hseen hin
              omega
            · have := unseen_mark_le (p := p) seen u.inst
              simp only [List.length_nil]
              omega
          rw [heq]
          rcases ih (h.replace hne (fun b hb => (hmore b).mp hb) hkept) hfuel' with hend | ⟨S, hS, hsub, hrest⟩
          · exact .inl hend
          · refine .inr ⟨S, hS, fun a ha => hsub a (testBit_mark.mpr (.inl ha)), List.forall_mem_cons.mpr ⟨?_, ?_⟩⟩
            · exact hsub _ (testBit_mark.mpr (.inr rfl))
            · exact fun v hv => hrest v (List.mem_append_right more hv)

/-! ## From one character to the next -/

theorem step_of_pass {c : Char} {u v : Thread} (hc : t[i]? = some c) (h : p.pass c u = some v) :
    Step p.code t (u.inst, i) (v.inst, i + 1) := by
  unfold Program.pass at h
  split at h
  · rename_i s next hinst
    split at h
    · rename_i hmem
      obtain rfl := Option.some.inj h
      exact (step_iff hinst).mpr ⟨⟨c, hc, hmem⟩, rfl⟩
    · cases h
  · cases h

/-- An end of a match that threads can reach is reached right there, or by a thread that passes the next character. -/
theorem improve_or_pass {threads : List Thread} {u : Thread} (hu : u ∈ threads) (h : Ends p t (u.inst, i)) :
    (∀ best, (p.improve i (p.followAll (before t i) t[i]? threads) best).isSome = true) ∨
      ∃ c, t[i]? = some c ∧
        ∃ v ∈ (p.followAll (before t i) t[i]? threads).filterMap (p.pass c), Ends p t (v.inst, i + 1) := by
  have hfuel : threads.length + 2 * unseen p 0 ≤ threads.length + 2 * p.code.size + 1 := by
    have := unseen_le (p := p) 0
    omega
  rcases follow_covers (followed_start (i := i) (t := t)) hfuel with ⟨v, hv, hacc⟩ | ⟨S, hS, -, hthreads⟩
  · refine .inl fun best => ?_
    simp [Program.improve, Program.followAll, hv, Program.accepts, hacc]
  · obtain ⟨n, a, j, hacc, hn⟩ := h
    have hin := hthreads u hu
    clear hu
    -- the way to the end stays among the instructions that were seen until it passes a character
    generalize u.inst = b at hn hin
    induction n generalizing b with
    | zero =>
      obtain rfl : b = a := congrArg Prod.fst hn
      exact absurd hacc (hS.going b hin)
    | succ n ih =>
      obtain ⟨y, hstep, hrest⟩ := hn
      obtain ⟨inst, hinst, hleads⟩ := hstep
      cases inst with
      | accept => exact hleads.elim
      | set s next =>
        obtain ⟨⟨c, hc, hmem⟩, rfl⟩ := hleads
        obtain ⟨v, hv, rfl⟩ := hS.through b s next hin hinst
        refine .inr ⟨c, hc, ⟨next, v.origin⟩, List.mem_filterMap.mpr ⟨v, hv, ?_⟩, n, a, j, hacc, hrest⟩
        simp only at hinst
        simp only [Program.pass, hinst, hmem, if_true]
      | look l next =>
        obtain ⟨hl, rfl⟩ := hleads
        exact ih next hrest (hS.seen_of_step hin ⟨_, hinst, hl, rfl⟩)
      | fork first second =>
        rcases hleads with rfl | rfl
        · exact ih first hrest (hS.seen_of_step hin ⟨_, hinst, .inl rfl⟩)
        · exact ih second hrest (hS.seen_of_step hin ⟨_, hinst, .inr rfl⟩)

theorem ends_of_improve {threads : List Thread}
    (h : (p.improve i (p.followAll (before t i) t[i]? threads) none).isSome = true) :
    ∃ u ∈ threads, Ends p t (u.inst, i) := by
  unfold Program.improve at h
  split at h
  · rename_i v hlast
    split at h
    · rename_i hacc
      rcases mem_follow (List.mem_of_getLast? hlast) with hv | ⟨s, hs, n, hn⟩
      · cases hv
      · refine ⟨s, hs, n, v.inst, i, ?_, hn⟩
        unfold Program.accepts at hacc
        split at hacc
        · assumption
        · cases hacc
    · cases h
  · cases h

theorem ends_of_pass {threads : List Thread} {c : Char} {v : Thread} (hc : t[i]? = some c)
    (hv : v ∈ (p.followAll (before t i) t[i]? threads).filterMap (p.pass c)) (h : Ends p t (v.inst, i + 1)) :
    ∃ u ∈ threads, Ends p t (u.inst, i) := by
  obtain ⟨w, hw, hpass⟩ := List.mem_filterMap.mp hv
  rcases mem_follow hw with hw | ⟨s, hs, n, hn⟩
  · cases hw
  · exact ⟨s, hs, .of_rounds (hn.trans (rounds_one.mpr (step_of_pass hc hpass))) h⟩

/-! ## The whole search -/

theorem isSome_improve {pos : Nat} {live : List Thread} {best : Option Program.Span} (h : best.isSome = true) :
    (p.improve pos live best).isSome = true := by
  unfold Program.improve
  split
  · split
    · rfl
    · exact h
  · exact h

theorem exists_ends_concat (threads : List Thread) :
    (∃ u ∈ threads ++ [⟨p.start, i⟩], Ends p t (u.inst, i)) ↔
      (∃ u ∈ threads, Ends p t (u.inst, i)) ∨ Ends p t (p.start, i) := by
  simp only [List.mem_append, List.mem_singleton, or_and_right, exists_or, exists_eq_left]

theorem exists_ends_succ {n : Nat} : (∃ j ≤ n + 1, Ends p t (p.start, i + j)) ↔
    Ends p t (p.start, i) ∨ ∃ j ≤ n, Ends p t (p.start, i + 1 + j) := by
  constructor
  · rintro ⟨_ | j, hj, h⟩
    · exact .inl h
    · exact .inr ⟨j, Nat.le_of_succ_le_succ hj, by rwa [Nat.add_right_comm]⟩
  · rintro (h | ⟨j, hj, h⟩)
    · exact ⟨0, Nat.zero_le _, h⟩
    · exact ⟨j + 1, Nat.succ_le_succ hj, by rwa [Nat.add_right_comm] at h⟩

/-- **A search finds a match** when it had one, or when one ends that a thread can reach or that begins further on. -/
theorem isSome_search {cs : Text} {pos : Nat} (threads : List Thread) (best : Option Program.Span)
    (hcs : t.drop pos = cs) :
    (p.search (before t pos) pos threads best cs).isSome = true ↔ best.isSome = true ∨
      (∃ u ∈ threads, Ends p t (u.inst, pos)) ∨ ∃ j ≤ cs.length, Ends p t (p.start, pos + j) := by
  induction cs generalizing pos threads best with
  | nil =>
    have hend : t[pos]? = none := by rw [← List.head?_drop, hcs, List.head?_nil]
    rw [Program.search]
    cases best with
    | some span => simp [isSome_improve]
    | none =>
      -- no thread can pass a character any more
      have hiff := exists_ends_concat (p := p) (t := t) (i := pos) threads
      simp only [Option.isNone_none, if_true, Option.isSome_none, Bool.false_eq_true, false_or, List.length_nil,
        Nat.le_zero, exists_eq_left, Nat.add_zero]
      rw [← hiff, ← hend]
      refine ⟨ends_of_improve, fun ⟨u, hu, hends⟩ => ?_⟩
      rcases improve_or_pass hu hends with hfound | ⟨c, hc, -⟩
      · exact hfound none
      · rw [hend] at hc
        cases hc
  | cons c rest ih =>
    have hc : t[pos]? = some c := by rw [← List.head?_drop, hcs, List.head?_cons]
    have hrest : t.drop (pos + 1) = rest := by rw [← List.drop_drop, hcs, List.drop_one, List.tail_cons]
    rw [Program.search, ← hc]
    generalize hlive : p.followAll (before t pos) t[pos]?
      (if best.isNone = true then threads ++ [⟨p.start, pos⟩] else threads) = live
    -- the search goes on, or is done because nothing is left to go on with
    have hgo : ∀ b : Option Program.Span,
        (if ((live.filterMap (p.pass c)).isEmpty && b.isSome) = true then b
          else p.search t[pos]? (pos + 1) (live.filterMap (p.pass c)) b rest).isSome = true ↔
        b.isSome = true ∨ (∃ v ∈ live.filterMap (p.pass c), Ends p t (v.inst, pos + 1)) ∨
          ∃ j ≤ rest.length, Ends p t (p.start, pos + 1 + j) := by
      intro b
      split
      · rename_i hdone
        have hb := (Bool.and_eq_true _ _ ▸ hdone).2
        simp [hb]
      · exact ih (live.filterMap (p.pass c)) b hrest
    refine (hgo _).trans ?_
    cases best with
    | some span => simp [isSome_improve]
    | none =>
      simp only [Option.isNone_none, if_true] at hlive
      have hiff := exists_ends_concat (p := p) (t := t) (i := pos) threads
      rw [List.length_cons, exists_ends_succ, ← or_assoc (a := ∃ u ∈ threads, _), ← hiff, Option.isSome_none]
      simp only [Bool.false_eq_true, false_or, ← or_assoc]
      refine or_congr_left ⟨?_, ?_⟩
      · rintro (hfound | ⟨v, hv, hends⟩)
        · exact ends_of_improve (hlive ▸ hfound)
        · exact ends_of_pass hc (hlive ▸ hv) hends
      · rintro ⟨u, hu, hends⟩
        rcases improve_or_pass hu hends with hfound | ⟨d, hd, hpass⟩
        · exact .inl (hlive ▸ hfound none)
        · obtain rfl : c = d := Option.some.inj (hc.symm.trans hd)
          exact .inr (hlive ▸ hpass)

/-- **The program of an expression matches in a text** if some part of the text is a match of the expression. -/
theorem isMatch_ofRegex (r : Regex) (t : Text) :
    (Program.ofRegex r).isMatch t = true ↔ ∃ i j, i ≤ t.length ∧ r.Matches t i j := by
  have hends : ∀ i, Ends (Program.ofRegex r) t ((Program.ofRegex r).start, i) ↔ ∃ j, r.Matches t i j := by
    intro i
    constructor
    · rintro ⟨n, a, j, ha, hn⟩
      obtain rfl := (accept_ofRegex r a).mp ha
      exact ⟨j, (leads_ofRegex r i j).mp ⟨n, hn⟩⟩
    · rintro ⟨j, h⟩
      obtain ⟨n, hn⟩ := (leads_ofRegex r i j).mpr h
      exact ⟨n, 0, j, (accept_ofRegex r 0).mpr rfl, hn⟩
  have hsearch := isSome_search (p := Program.ofRegex r) (t := t) [] none (List.drop_zero (l := t))
  simp only [Nat.zero_add, hends] at hsearch
  refine hsearch.trans ⟨?_, ?_⟩
  · rintro (h | ⟨u, hu, -⟩ | ⟨i, hi, j, h⟩)
    · cases h
    · cases hu
    · exact ⟨i, j, hi, h⟩
  · rintro ⟨i, j, hi, h⟩
    exact .inr (.inr ⟨i, hi, j, h⟩)

end Dialogue.Regex
