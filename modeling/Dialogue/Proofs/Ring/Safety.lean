import Dialogue.Proofs.Ring.History

/-!
# A ring never breaks off

The cursors of a ring are slots that follow one another, whatever was written and read. So no operation leaves the
word or the block of memory, the rule of growth is asked only for what it answers, and bytes are put only into slots
that are free. A write breaks off in one case: the ring cannot grow.

* `CursorsInOrder`: the cursors are slots, and the read cursor is on the way from the start to the write cursor;
* `writeFromBy`: a write that asks some other rule for the new length;
* `ensureRoom`: the first half of a write; `Represents.copyIn_spares`: the second half spares what the window holds;
* **`never_breaks_off`**: all this after any calls.
-/

namespace Dialogue.Ring

/-- The cursors are slots, and going round from the start one comes to the read cursor before the write cursor. -/
structure CursorsInOrder (r : Ring) : Prop where
  start_lt : r.start < r.data.length
  read_lt : r.read < r.data.length
  write_lt : r.write < r.data.length
  on_the_way : ∃ consumed kept, consumed ≤ kept ∧ kept < r.data.length ∧
    r.read = (r.start + consumed) % r.data.length ∧ r.write = (r.start + kept) % r.data.length

variable {r : Ring} {h : History} {lo : Nat}

theorem Represents.cursorsInOrder (hr : r.Represents h lo) : r.CursorsInOrder := by
  obtain ⟨free, hold⟩ := hr.holds
  have hlength := hold.length_eq
  have hfree := hold.length_free_pos
  refine ⟨hold.start_lt, hold.read_lt, hold.write_lt, _, _, ?_, ?_, hold.read_eq, hold.write_eq⟩
  · rw [List.length_append]
    exact Nat.le_add_right _ _
  · omega

/-! ## The rule of growth -/

/-- A rule that gives the new length for the free slots, the bytes needed and the length; it may break off. -/
abbrev Rule := Nat → Nat → Nat → Op (Option Nat)

section Rule

variable [Memory] (rule : Rule)

def resizeBy (needed : Nat) : Op Unit := do
  let size ← length
  match (← rule (← room) needed size).filter Memory.grants with
  | none => throw (.full needed size)
  | some newSize =>
    let kept ← buffered
    let pending ← unread
    let bytes ← copyOut (← get).start kept
    let read ← minus kept pending
    let data ← splice (List.replicate newSize 0) 0 bytes
    modify ({ · with data, start := 0, read, write := kept })

def makeSpaceBy (needed : Nat) : Op Unit := do
  let capacity ← minus (← length) 1
  if needed < capacity ∧ capacity > (← get).window then
    advanceStart (← minus needed (← room))
  else resizeBy rule needed

/-- A write that asks `rule` for the new length when the ring has to grow. -/
def writeFromBy (src : Bytes) : Op Unit := do
  let r ← get
  if src.isEmpty || r.window == 0 then return ()
  let src ← if src.length > r.window then pure (src.drop (← minus src.length r.window)) else pure src
  if src.length > (← room) then makeSpaceBy rule src.length
  store r.window src

theorem writeFromBy_grow? : writeFromBy (fun available needed length => pure (grow? available needed length)) =
    writeFrom := rfl

/-- The rule answers like the rule of growth, as long as fewer slots are free than are needed and than there are. -/
def Agrees : Prop := ∀ available needed length, available < needed → available < length →
  rule available needed length = pure (grow? available needed length)

variable {rule}

theorem Represents.run_makeSpaceBy (hr : r.Represents h lo) (hrule : Agrees rule) {needed : Nat}
    (hneed : r.data.length - 1 - (h.bytes.length - lo) < needed) :
    (makeSpaceBy rule needed).run r = (makeSpace needed).run r := by
  have hroom := hr.room_lt
  rw [makeSpaceBy, makeSpace, run_bind_of_ok run_length, run_bind_of_ok run_length,
    run_bind_of_ok (run_minus (by omega)), run_bind_of_ok (run_minus (by omega)), run_bind_of_ok run_get,
    run_bind_of_ok run_get]
  by_cases hslide : needed < r.data.length - 1 ∧ r.data.length - 1 > r.window
  · rw [if_pos hslide, if_pos hslide]
  · rw [if_neg hslide, if_neg hslide, resizeBy, resize, run_bind_of_ok run_length, run_bind_of_ok run_length,
      run_bind_of_ok hr.run_room, run_bind_of_ok hr.run_room, hrule _ _ _ hneed (by omega)]
    exact congrArg (EStateM.run · r) (pure_bind _ _)

/-- A write that asks another rule is made of the same parts. -/
def fitBy (rule : Rule) (w : Nat) (src : Bytes) : Op Unit := do
  if src.length > (← room) then makeSpaceBy rule src.length
  store w src

theorem run_writeFromBy_fitBy {src : Bytes} (hsrc : src ≠ []) (hw : r.window ≠ 0) :
    (writeFromBy rule src).run r = (fitBy rule r.window (src.drop (src.length - r.window))).run r := by
  rw [writeFromBy, run_bind_of_ok run_get, if_neg (by simp [hsrc, hw])]
  by_cases hbig : src.length > r.window
  · simp only [hbig, if_true]
    rw [run_bind_of_ok (run_minus (Nat.le_of_lt hbig))]
    rfl
  · simp only [hbig, if_false]
    rw [Nat.sub_eq_zero_of_le (Nat.le_of_not_lt hbig), List.drop_zero]
    rfl

/-- **A write asks the rule of growth only within its contract**, so that any rule that agrees there would do. -/
theorem Represents.run_writeFromBy (hr : r.Represents h lo) (hrule : Agrees rule) (src : Bytes) :
    (writeFromBy rule src).run r = (writeFrom src).run r := by
  by_cases hnothing : src = [] ∨ r.window = 0
  · rw [run_writeFrom_nothing hnothing, writeFromBy, run_bind_of_ok run_get, if_pos (by simpa using hnothing)]
    rfl
  · rw [not_or] at hnothing
    rw [run_writeFromBy_fitBy hnothing.1 hnothing.2, run_writeFrom_fit hnothing.1 hnothing.2, fitBy, fit,
      run_bind_of_ok hr.run_room, run_bind_of_ok hr.run_room]
    generalize src.drop (src.length - r.window) = kept
    by_cases hbig : kept.length > r.data.length - 1 - (h.bytes.length - lo)
    · simp only [hbig, if_true]
      rw [EStateM.run_bind, EStateM.run_bind, hr.run_makeSpaceBy hrule hbig]
    · simp only [hbig, if_false]

end Rule

/-! ## The two halves of a write -/

/-- Makes space for `needed` bytes unless there is enough. -/
def ensureRoom [Memory] (needed : Nat) : Op Unit := do
  if needed > (← room) then makeSpace needed

theorem fit_eq [Memory] (w : Nat) (src : Bytes) : fit w src = (do ensureRoom src.length; store w src) := by
  rw [fit, ensureRoom, bind_assoc]
  congr 1
  funext available
  by_cases hbig : src.length > available
  · simp only [hbig, if_true]
  · simp only [hbig, if_false]
    rfl

/-- **Space that was made is enough**, or the ring cannot grow. -/
theorem Represents.run_ensureRoom [Memory] (hr : r.Represents h (h.bytes.length - r.window)) {needed : Nat}
    (hfits : needed ≤ r.window) :
    (∃ r' h' lo', (ensureRoom needed).run r = .ok () r' ∧ r'.Represents h' lo' ∧
      h'.bytes.length - lo' + needed < r'.data.length) ∨
    (ensureRoom needed).run r = .error (.full needed r.data.length) r := by
  have hroom := hr.room_lt
  rw [ensureRoom, run_bind_of_ok hr.run_room]
  by_cases hbig : needed > r.data.length - 1 - (h.bytes.length - (h.bytes.length - r.window))
  · rw [if_pos hbig]
    refine (hr.run_makeSpace hbig hfits rfl).imp_left ?_
    rintro ⟨r', lo', hrun, hr', hspace, -, -⟩
    exact ⟨r', _, lo', hrun, hr', hspace⟩
  · rw [if_neg hbig]
    exact .inl ⟨r, h, _, rfl, hr, by omega⟩

/-- **Bytes put into free slots spare what the ring holds**, as long as the write cursor stays where it is. -/
theorem Represents.copyIn_spares (hr : r.Represents h lo) {src : Bytes}
    (hspace : h.bytes.length - lo + src.length < r.data.length) :
    ∃ r', (copyIn r.write src).run r = .ok () r' ∧ r'.Represents h lo := by
  obtain ⟨free, hold⟩ := hr.holds
  have hsum := hold.length_eq
  rw [hr.length_split] at hsum
  have hsrc : src.length ≤ r.data.length := by omega
  have hfree : src.length < free.length := by omega
  have hlength := length_overwritten hold.write_lt hsrc
  have hstored := hold.append hfree
  refine ⟨_, run_copyIn hold.write_lt hsrc, ⟨src ++ free.drop src.length, ?_⟩, hr.lo_le, hr.next_le⟩
  refine ⟨hstored.length_lt, hstored.start_lt, ?_, ?_, hstored.read_eq, ?_⟩
  · -- what was written is still among the free slots
    rw [hstored.circle]
    simp only [List.append_assoc]
  · intro hnil
    exact hstored.free_ne_nil (List.append_eq_nil_iff.mp hnil).2
  · simp only [hlength]
    exact hold.write_eq

/-! ## Calls -/

/-- **A ring never breaks off**, unless it cannot grow. After any calls, whatever the window and the first length
(memory has no block of `2 ^ 63` bytes):
* the cursors are slots, and the read cursor is on the way from the start to the write cursor;
* reads and snapshots succeed; a write succeeds, or the ring cannot grow;
* a write asks the rule of growth only when fewer slots are free than are needed and than there are;
* it first makes room for the bytes that it keeps, and then as many slots are free; the bytes that are put there spare
  those that the window holds. -/
theorem never_breaks_off [Memory] (w size : Nat) (hsize : size < 2 ^ 63) (calls : List Call) :
    let r := (calls.foldl (serve w) ((Channel.ofSize w size).ring, .empty)).1
    r.CursorsInOrder ∧
    (∀ n, ∃ out r', (readInto n).run r = .ok out r') ∧
    (∃ out, snapshot.run r = .ok out r) ∧
    (∀ src, (∃ r', (writeFrom src).run r = .ok () r') ∨
      ∃ needed length, (writeFrom src).run r = .error (.full needed length) r) ∧
    (∀ rule : Rule, (∀ available needed length, available < needed → available < length →
        rule available needed length = pure (grow? available needed length)) →
      ∀ src, (writeFromBy rule src).run r = (writeFrom src).run r) ∧
    ∀ src, src ≠ [] → w ≠ 0 →
      let kept := src.drop (src.length - w)
      (writeFrom src).run r = (do ensureRoom kept.length; store w kept).run r ∧
      ((∃ needed length, (ensureRoom kept.length).run r = .error (.full needed length) r) ∨
        ∃ r₁ r₂ free held, (ensureRoom kept.length).run r = .ok () r₁ ∧ room.run r₁ = .ok free r₁ ∧
          kept.length ≤ free ∧ snapshot.run r₁ = .ok held r₁ ∧ (copyIn r₁.write kept).run r₁ = .ok () r₂ ∧
          snapshot.run r₂ = .ok held r₂) := by
  intro r
  obtain ⟨hwindow, hr⟩ : r.window = w ∧ ∃ h : History, r.Represents h (h.bytes.length - w) := by
    obtain ⟨hwindow, hr⟩ := represents_run calls (s := (_, .empty)) rfl (represents_ofSize w hsize)
    exact ⟨hwindow, _, hr⟩
  obtain ⟨h, hr⟩ := hr
  rw [← hwindow] at hr ⊢
  refine ⟨hr.cursorsInOrder, fun n => ?_, ⟨_, hr.run_snapshot⟩, fun src => ?_, fun rule hrule src => ?_, ?_⟩
  · obtain ⟨r', hrun, -⟩ := hr.run_readInto n
    exact ⟨_, r', hrun⟩
  · refine (hr.run_writeFrom src).imp ?_ ?_
    · rintro ⟨r', hrun, -⟩
      exact ⟨r', hrun⟩
    · rintro ⟨needed, hfull⟩
      exact ⟨needed, _, hfull⟩
  · exact hr.run_writeFromBy hrule src
  · intro src hsrc hw kept
    refine ⟨by rw [run_writeFrom_fit hsrc hw, fit_eq], ?_⟩
    have hfits : kept.length ≤ r.window := by
      rw [List.length_drop]
      omega
    refine (hr.run_ensureRoom hfits).symm.imp (fun hfull => ⟨_, _, hfull⟩) ?_
    rintro ⟨r₁, h₁, lo₁, hrun, hr₁, hspace⟩
    obtain ⟨r₂, hcopy, hr₂⟩ := hr₁.copyIn_spares hspace
    exact ⟨r₁, r₂, _, _, hrun, hr₁.run_room, by omega, hr₁.run_snapshot, hcopy, hr₂.run_snapshot⟩

/-- The cursors have gone round and the window overtakes the reader; a rule that breaks off outside its contract is
not heard of. -/
theorem never_breaks_off_going_round :
    let memory := Memory.plenty
    let calls := [Call.write memory [1, 2], .read 1, .write memory [3, 4, 5], .write memory [6, 7, 8], .read 1]
    let r := (calls.foldl (serve 3) ((Channel.ofSize 3 6).ring, .empty)).1
    let asserted : Rule := fun available needed length =>
      if available < needed ∧ available < length then pure (grow? available needed length) else throw .underflow
    6 < 2 ^ 63 ∧ (r.start = 5 ∧ r.read = 0 ∧ r.write = 2) ∧ r.CursorsInOrder ∧
      (writeFromBy asserted [9, 10, 11, 12]).run r = (writeFrom [9, 10, 11, 12]).run r ∧
      (writeFrom [9, 10, 11, 12]).run r = (do ensureRoom 3; store 3 [10, 11, 12]).run r := by
  intro memory calls r asserted
  obtain ⟨hcursors, -, -, -, hrule, hhalves⟩ := never_breaks_off 3 6 (by decide) calls
  refine ⟨by decide, by decide, hcursors, hrule asserted (fun available needed length hneeded hlength => ?_) _,
    (hhalves [9, 10, 11, 12] (by decide) (by decide)).1⟩
  exact if_pos ⟨hneeded, hlength⟩

end Dialogue.Ring
