import Dialogue.Channel
import Dialogue.Proofs.Ring.Layout

/-!
# A ring is a window on a history

What a ring does can be told from the bytes written to it so far and the index of the next one to be read, whatever
its length is, wherever its cursors stand and however often it grew.

* `History`: the bytes written and the next one to be read;
* `Represents`: the ring holds the bytes of a history from an index on;
* `Represents.run_readInto`, `Represents.run_writeFrom`: what one operation does;
* **`refines_history`**: what every sequence of reads and writes does.
-/

namespace Dialogue.Ring

/-! ## Histories -/

/-- The bytes written so far, and the index of the next one to be read; those before it were read or are lost. -/
structure History where
  bytes : Bytes
  next : Nat

namespace History

/-- Nothing was written. -/
def empty : History := ⟨[], 0⟩

/-- Some bytes were written; an unread byte that is not among the newest `w` is lost. -/
def written (h : History) (w : Nat) (src : Bytes) : History :=
  ⟨h.bytes ++ src, max h.next ((h.bytes ++ src).length - w)⟩

/-- Some bytes were read. -/
def taken (h : History) (n : Nat) : History := { h with next := h.next + n }

/-- Bytes given up early are lost in the end if they are among those that leave the window. -/
theorem written_of_dropped {h : History} {w lo : Nat} {src : Bytes} (hlo : lo ≤ (h.bytes ++ src).length - w) :
    written ⟨h.bytes, max h.next lo⟩ w src = h.written w src := by
  rw [written, written, Nat.max_assoc, Nat.max_eq_right hlo]

/-- The bytes to be read. -/
def pending (h : History) : Bytes := h.bytes.drop h.next

end History

/-- The ring holds the bytes of a history from the index `lo` on. -/
structure Represents (r : Ring) (h : History) (lo : Nat) : Prop where
  holds : ∃ free, r.Holds ((h.bytes.take h.next).drop lo) h.pending free
  lo_le : lo ≤ h.next
  next_le : h.next ≤ h.bytes.length

/-! ## The end of a write -/

/-- Puts bytes into free slots and drops those that leave the window. -/
def store (w : Nat) (src : Bytes) : Op Unit := do
  copyIn (← get).write src
  let write ← advance (← get).write src.length
  modify ({ · with write })
  let kept ← buffered
  if kept > w then advanceStart (← minus kept w)

/-- Makes space for bytes, unless they fit, and stores them. -/
def fit [Memory] (w : Nat) (src : Bytes) : Op Unit := do
  if src.length > (← room) then makeSpace src.length
  store w src

variable {r : Ring} {h : History} {lo : Nat}

theorem run_writeFrom_nothing [Memory] {src : Bytes} (hsrc : src = [] ∨ r.window = 0) :
    (writeFrom src).run r = .ok () r := by
  rw [writeFrom, run_bind_of_ok run_get, if_pos (by rcases hsrc with rfl | hw <;> simp [*])]
  rfl

theorem run_writeFrom_fit [Memory] {src : Bytes} (hsrc : src ≠ []) (hw : r.window ≠ 0) :
    (writeFrom src).run r = (fit r.window (src.drop (src.length - r.window))).run r := by
  rw [writeFrom, run_bind_of_ok run_get, if_neg (by simp [hsrc, hw])]
  by_cases hbig : src.length > r.window
  · simp only [hbig, if_true]
    rw [run_bind_of_ok (run_minus (Nat.le_of_lt hbig))]
    rfl
  · simp only [hbig, if_false]
    rw [Nat.sub_eq_zero_of_le (Nat.le_of_not_lt hbig), List.drop_zero]
    rfl

namespace Represents

/-! ## What a ring shows of a history -/

theorem split_bytes (hr : r.Represents h lo) :
    (h.bytes.take h.next).drop lo ++ h.pending = h.bytes.drop lo := by
  have := hr.lo_le
  have := hr.next_le
  rw [History.pending, ← List.drop_append_of_le_length (by rw [List.length_take]; omega), List.take_append_drop]

theorem length_split (hr : r.Represents h lo) :
    ((h.bytes.take h.next).drop lo ++ h.pending).length = h.bytes.length - lo := by
  rw [hr.split_bytes, List.length_drop]

theorem length_old (hr : r.Represents h lo) : ((h.bytes.take h.next).drop lo).length = h.next - lo := by
  rw [List.length_drop, List.length_take, Nat.min_eq_left hr.next_le]

theorem room_lt (hr : r.Represents h lo) : h.bytes.length - lo < r.data.length := by
  obtain ⟨free, hold⟩ := hr.holds
  have := hold.length_eq
  have := hold.length_free_pos
  rw [← hr.length_split]; omega

theorem run_room (hr : r.Represents h lo) :
    room.run r = .ok (r.data.length - 1 - (h.bytes.length - lo)) r := by
  obtain ⟨free, hold⟩ := hr.holds
  rw [hold.run_room, ← hr.length_split, hold.length_eq]
  congr 1; omega

theorem run_buffered (hr : r.Represents h lo) : buffered.run r = .ok (h.bytes.length - lo) r := by
  obtain ⟨free, hold⟩ := hr.holds
  rw [hold.run_buffered, hr.length_split]

theorem run_snapshot (hr : r.Represents h lo) : snapshot.run r = .ok (h.bytes.drop lo) r := by
  obtain ⟨free, hold⟩ := hr.holds
  rw [hold.run_snapshot, hr.split_bytes]

/-- **Reading** takes the next bytes of the history. -/
theorem run_readInto (hr : r.Represents h lo) (n : Nat) :
    ∃ r', (readInto n).run r = .ok (h.pending.take n) r' ∧
      r'.Represents (h.taken (h.pending.take n).length) lo ∧ r'.window = r.window := by
  obtain ⟨free, hold⟩ := hr.holds
  obtain ⟨r', hrun, hold', -, hwindow⟩ := hold.run_readInto n
  have hlo := hr.lo_le
  have hnext := hr.next_le
  have htaken : h.pending.take n = h.pending.take (h.pending.take n).length := by
    rw [List.take_eq_take_iff, List.length_take]; omega
  have hle : (h.pending.take n).length ≤ h.bytes.length - h.next := by
    rw [List.length_take, History.pending, List.length_drop]; omega
  have hdrop : h.pending.drop n = h.pending.drop (h.pending.take n).length := by
    rw [List.drop_eq_drop_iff, List.length_take]; omega
  refine ⟨r', hrun, ⟨⟨free, ?_⟩, ?_, ?_⟩, hwindow⟩
  · convert hold' using 1
    · change (h.bytes.take (h.next + (h.pending.take n).length)).drop lo = _
      rw [List.take_add, List.drop_append_of_le_length (by rw [List.length_take]; omega), ← History.pending, ← htaken]
    · change h.bytes.drop (h.next + (h.pending.take n).length) = _
      rw [← List.drop_drop, ← History.pending, hdrop]
  · simp only [History.taken]; omega
  · simp only [History.taken]; omega

/-- **Dropping** moves the beginning of the window. -/
theorem run_advanceStart (hr : r.Represents h lo) {n : Nat} (hn : n ≤ h.bytes.length - lo) :
    ∃ r', (advanceStart n).run r = .ok () r' ∧ r'.Represents ⟨h.bytes, max h.next (lo + n)⟩ (lo + n) ∧
      r'.data.length = r.data.length ∧ r'.window = r.window := by
  obtain ⟨free, hold⟩ := hr.holds
  obtain ⟨r', hrun, hold', hdata, hwindow⟩ := hold.run_advanceStart (n := n) (by rw [hr.length_split]; exact hn)
  have hlo := hr.lo_le
  have hnext := hr.next_le
  have hold : ((h.bytes.take h.next).drop lo).drop n = (h.bytes.take (max h.next (lo + n))).drop (lo + n) := by
    rw [List.drop_drop]
    rcases Nat.le_total (lo + n) h.next with hle | hle
    · rw [Nat.max_eq_left hle]
    · rw [Nat.max_eq_right hle, List.drop_eq_nil_of_le (by rw [List.length_take]; omega),
        List.drop_eq_nil_of_le (by rw [List.length_take]; omega)]
  have hnew : h.pending.drop (n - ((h.bytes.take h.next).drop lo).length) = h.bytes.drop (max h.next (lo + n)) := by
    rw [History.pending, List.drop_drop, hr.length_old]
    congr 1; omega
  rw [hold, hnew] at hold'
  exact ⟨r', hrun, ⟨⟨_, hold'⟩, Nat.le_max_right _ _, by simp only; omega⟩, by rw [hdata], hwindow⟩

/-- **Making space** gives up bytes that are about to leave the window, or grows the ring. -/
theorem run_makeSpace [Memory] (hr : r.Represents h lo) {needed : Nat}
    (hneed : r.data.length - 1 - (h.bytes.length - lo) < needed) (hfits : needed ≤ r.window)
    (hlo : lo = h.bytes.length - r.window) :
    (∃ r' lo', (makeSpace needed).run r = .ok () r' ∧ r'.Represents ⟨h.bytes, max h.next lo'⟩ lo' ∧
      h.bytes.length - lo' + needed < r'.data.length ∧ lo' ≤ h.bytes.length + needed - r.window ∧
      r'.window = r.window) ∨
    (makeSpace needed).run r = .error (.full needed r.data.length) r := by
  have hroom := hr.room_lt
  rw [makeSpace, run_bind_of_ok run_length, run_bind_of_ok (run_minus (by omega)), run_bind_of_ok run_get]
  split_ifs with hslide
  · left
    rw [run_bind_of_ok hr.run_room, run_bind_of_ok (run_minus (Nat.le_of_lt hneed))]
    obtain ⟨r', hrun, hr', hlen, hwindow⟩ :=
      hr.run_advanceStart (n := needed - (r.data.length - 1 - (h.bytes.length - lo))) (by omega)
    exact ⟨r', _, hrun, hr', by omega, by omega, hwindow⟩
  · obtain ⟨free, hold⟩ := hr.holds
    cases hgrow : granted? (free.length - 1) needed r.data.length with
    | none => exact .inr (hold.run_resize_full hgrow)
    | some size =>
      obtain ⟨r', hrun, hold', hsize, hlen, hwindow⟩ := hold.run_resize hgrow
      rw [hr.length_split] at hsize
      refine .inl ⟨r', lo, hrun, ?_, by omega, by omega, hwindow⟩
      rw [Nat.max_eq_left hr.lo_le]
      exact ⟨⟨_, hold'⟩, hr.lo_le, hr.next_le⟩

/-- **Storing** bytes for which there is space. -/
theorem run_store (hr : r.Represents h lo) {src : Bytes}
    (hspace : h.bytes.length - lo + src.length < r.data.length) (hlo : lo ≤ (h.bytes ++ src).length - r.window) :
    ∃ r', (store r.window src).run r = .ok () r' ∧
      r'.Represents (h.written r.window src) ((h.bytes ++ src).length - r.window) ∧ r'.window = r.window := by
  have hle := hr.lo_le
  have hnext := hr.next_le
  have happend : (h.bytes ++ src).length = h.bytes.length + src.length := List.length_append
  obtain ⟨free, hold⟩ := hr.holds
  have hsrc : src.length < free.length := by
    have hlen := hold.length_eq
    rw [hr.length_split] at hlen
    omega
  set stored : Ring := { r with
    data := overwritten r.data r.write src
    write := (r.write + src.length) % r.data.length } with hstored
  have hr' : stored.Represents ⟨h.bytes ++ src, h.next⟩ lo := by
    refine ⟨⟨free.drop src.length, ?_⟩, hle, by simp only; omega⟩
    change Holds stored (((h.bytes ++ src).take h.next).drop lo) ((h.bytes ++ src).drop h.next) _
    rw [List.take_append_of_le_length hnext, List.drop_append_of_le_length hnext]
    exact hold.append hsrc
  have hrun : (store r.window src).run r = (do
      let kept ← buffered
      if kept > r.window then advanceStart (← minus kept r.window) : Op Unit).run stored := by
    have hlength := length_overwritten hold.write_lt (by omega : src.length ≤ r.data.length)
    rw [store, run_bind_of_ok run_get, run_bind_of_ok (run_copyIn hold.write_lt (by omega)), run_bind_of_ok run_get,
      run_bind_of_ok (run_advance (by rw [hlength]; exact hold.length_lt) (by rw [hlength]; exact hold.write_lt)
        (by rw [hlength]; omega)), run_bind_of_ok run_modify]
    simp only [hlength, hstored]
  rw [hrun, run_bind_of_ok hr'.run_buffered]
  split_ifs with hover
  · rw [run_bind_of_ok (run_minus (Nat.le_of_lt hover))]
    obtain ⟨r', hrun', hr'', -, hwindow⟩ :=
      hr'.run_advanceStart (n := (h.bytes ++ src).length - lo - r.window) (Nat.sub_le _ _)
    refine ⟨r', hrun', ?_, hwindow⟩
    rw [show lo + ((h.bytes ++ src).length - lo - r.window) = (h.bytes ++ src).length - r.window by omega] at hr''
    exact hr''
  · refine ⟨stored, rfl, ?_, rfl⟩
    simp only at hover
    rw [show (h.bytes ++ src).length - r.window = lo by omega, History.written,
      show max h.next ((h.bytes ++ src).length - r.window) = h.next by omega]
    exact hr'

/-- A ring does not tell histories apart that end in the same bytes. -/
theorem congr (hr : r.Represents h lo) {h' : History} {lo' : Nat} (hlo : lo' ≤ h'.next)
    (hnext : h'.next ≤ h'.bytes.length) (hold : (h'.bytes.take h'.next).drop lo' = (h.bytes.take h.next).drop lo) (hnew : h'.pending = h.pending) :
    r.Represents h' lo' := by
  obtain ⟨free, hfree⟩ := hr.holds
  exact ⟨⟨free, by rw [hold, hnew]; exact hfree⟩, hlo, hnext⟩

theorem of_next_eq (hr : r.Represents h lo) (heq : h.next = lo) {bytes : Bytes} {n : Nat} (hn : n ≤ bytes.length)
    (hdrop : bytes.drop n = h.bytes.drop lo) : r.Represents ⟨bytes, n⟩ n := by
  refine hr.congr (Nat.le_refl n) hn ?_ ?_
  · rw [heq, List.drop_eq_nil_of_le (List.length_take_le _ _), List.drop_eq_nil_of_le (List.length_take_le _ _)]
  · rw [History.pending, History.pending, heq]; exact hdrop

theorem run_fit [Memory] (hr : r.Represents h (h.bytes.length - r.window)) {src : Bytes}
    (hsrc : src.length ≤ r.window) :
    (∃ r', (fit r.window src).run r = .ok () r' ∧
      r'.Represents (h.written r.window src) ((h.bytes ++ src).length - r.window) ∧ r'.window = r.window) ∨
    (fit r.window src).run r = .error (.full src.length r.data.length) r := by
  have hroom := hr.room_lt
  have happend : (h.bytes ++ src).length = h.bytes.length + src.length := List.length_append
  rw [fit, run_bind_of_ok hr.run_room]
  split_ifs with hbig
  · rcases hr.run_makeSpace hbig hsrc rfl with ⟨r₁, lo, hrun, hr₁, hspace, hlo, hwindow₁⟩ | herror
    · left
      obtain ⟨r', hstore, hr', hwindow⟩ := hr₁.run_store hspace (by rw [hwindow₁, happend]; exact hlo)
      rw [hwindow₁] at hstore hr' hwindow
      refine ⟨r', by rw [run_bind_of_ok hrun]; exact hstore, ?_, hwindow⟩
      rw [History.written_of_dropped (by rw [happend]; exact hlo)] at hr'
      exact hr'
    · right
      rw [EStateM.run_bind, herror]
  · exact .inl (hr.run_store (by omega) (by omega))

/-- **Writing** adds to the history, or breaks off because the ring cannot grow and leaves everything as it was. -/
theorem run_writeFrom [Memory] (hr : r.Represents h (h.bytes.length - r.window)) (src : Bytes) :
    (∃ r', (writeFrom src).run r = .ok () r' ∧
      r'.Represents (h.written r.window src) ((h.bytes ++ src).length - r.window) ∧ r'.window = r.window) ∨
    ∃ needed, (writeFrom src).run r = .error (.full needed r.data.length) r := by
  have hlo := hr.lo_le
  have hnext := hr.next_le
  have happend : (h.bytes ++ src).length = h.bytes.length + src.length := List.length_append
  rcases eq_or_ne src [] with rfl | hsrc
  · refine .inl ⟨r, run_writeFrom_nothing (.inl rfl), ?_, rfl⟩
    rw [History.written, List.append_nil, Nat.max_eq_left hlo]
    exact hr
  rcases eq_or_ne r.window 0 with hw | hw
  · refine .inl ⟨r, run_writeFrom_nothing (.inr hw), ?_, rfl⟩
    rw [hw, Nat.sub_zero] at hr hlo
    rw [History.written, hw, Nat.sub_zero, Nat.max_eq_right (by omega)]
    exact hr.of_next_eq (Nat.le_antisymm hnext hlo) (Nat.le_refl _) (by rw [List.drop_length, List.drop_length])
  set kept := src.drop (src.length - r.window) with hkept
  have hlength : kept.length = min src.length r.window := by rw [hkept, List.length_drop]; omega
  rw [run_writeFrom_fit hsrc hw]
  have hfits : kept.length ≤ r.window := by omega
  rcases hr.run_fit hfits with ⟨r', hrun, hr', hwindow⟩ | herror
  · refine .inl ⟨r', hrun, ?_, hwindow⟩
    by_cases hbig : src.length ≤ r.window
    · rw [Nat.sub_eq_zero_of_le hbig, List.drop_zero] at hkept
      rw [← hkept]
      exact hr'
    · -- an oversized write takes the whole window
      have hfull : (h.bytes ++ kept).length - r.window = h.bytes.length := by rw [List.length_append]; omega
      rw [hfull] at hr'
      rw [History.written, Nat.max_eq_right (by omega)]
      refine hr'.of_next_eq ?_ (Nat.sub_le _ _) ?_
      · rw [History.written, hfull, Nat.max_eq_right hnext]
      · rw [History.written, List.drop_left, List.drop_append, List.drop_eq_nil_of_le (by omega), List.nil_append, hkept]
        congr 1; omega
  · exact .inr ⟨_, herror⟩

end Represents

/-! ## Runs -/

/-- A call of a ring: bytes are appended, with memory as it is then, or at most `n` bytes are read. -/
inductive Call where
  | write (memory : Memory) (src : Bytes)
  | read (n : Nat)

/-- Answers a call and keeps the history; a write that breaks off is no part of it. -/
def serve (w : Nat) (s : Ring × History) : Call → Ring × History
  | .write _ src =>
    match (writeFrom src).run s.1 with
    | .ok _ r => (r, s.2.written w src)
    | .error _ r => (r, s.2)
  | .read n =>
    match (readInto n).run s.1 with
    | .ok out r => (r, s.2.taken out.length)
    | .error _ r => (r, s.2)

/-- The bytes not read yet, where they stand. -/
def unreadBytes : Op Bytes := do copyOut (← get).read (← unread)

theorem Represents.run_unreadBytes (hr : r.Represents h lo) : unreadBytes.run r = .ok h.pending r := by
  obtain ⟨free, hold⟩ := hr.holds
  have hlen := hold.length_eq
  rw [List.length_append] at hlen
  rw [unreadBytes, run_bind_of_ok run_get, run_bind_of_ok hold.run_unread, run_copyOut hold.read_lt (by omega),
    hold.rotate_read, List.append_assoc, List.take_left]

theorem represents_new {w size : Nat} (hpos : 0 < size) (hsize : size < 2 ^ 63) :
    (new w size).Represents .empty 0 := by
  refine ⟨⟨List.replicate size 0, ⟨?_, ?_, ?_, ?_, ?_, ?_⟩⟩, Nat.le_refl _, Nat.le_refl _⟩
  · simpa [new] using hsize
  · simpa [new] using hpos
  · simp [new, History.empty, History.pending]
  · rw [ne_eq, List.replicate_eq_nil_iff]; omega
  · simp [new, History.empty]
  · simp [new, History.empty, History.pending]

theorem represents_ofSize (w : Nat) {size : Nat} (hsize : size < 2 ^ 63) :
    (Channel.ofSize w size).ring.Represents .empty (History.empty.bytes.length - w) := by
  rw [show History.empty.bytes.length - w = 0 from Nat.zero_sub w]
  exact represents_new (by omega) (by omega)

theorem represents_serve {w : Nat} {s : Ring × History} (hw : s.1.window = w)
    (hr : s.1.Represents s.2 (s.2.bytes.length - w)) (call : Call) :
    (serve w s call).1.window = w ∧
      (serve w s call).1.Represents (serve w s call).2 ((serve w s call).2.bytes.length - w) := by
  subst hw
  cases call with
  | write _ src =>
    rcases hr.run_writeFrom src with ⟨r', hrun, hr', hwindow⟩ | ⟨needed, herror⟩
    · simp only [serve, hrun]
      exact ⟨hwindow, hr'⟩
    · simp only [serve, herror, true_and]
      exact hr
  | read n =>
    obtain ⟨r', hrun, hr', hwindow⟩ := hr.run_readInto n
    simp only [serve, hrun]
    exact ⟨hwindow, hr'⟩

theorem represents_run {w : Nat} (calls : List Call) {s : Ring × History} (hw : s.1.window = w)
    (hr : s.1.Represents s.2 (s.2.bytes.length - w)) :
    (calls.foldl (serve w) s).1.window = w ∧
      (calls.foldl (serve w) s).1.Represents (calls.foldl (serve w) s).2
        ((calls.foldl (serve w) s).2.bytes.length - w) := by
  induction calls generalizing s with
  | nil => exact ⟨hw, hr⟩
  | cons call calls ih =>
    obtain ⟨hw', hr'⟩ := represents_serve hw hr call
    exact ih hw' hr'

/-- A write that fails leaves a channel as it was, with its flags and its waiting reader. -/
theorem Represents.write_eq_self [Memory] {c : Channel}
    (hr : c.ring.Represents h (h.bytes.length - c.ring.window)) {src : Bytes} {e : BufferError} (herror : (c.write src).1 = .error e) : (c.write src).2 = c := by
  unfold Channel.write Channel.onRing at *
  split_ifs at * with hclosed
  · rfl
  · rcases hr.run_writeFrom src with ⟨r', hrun, -, -⟩ | ⟨needed, hfull⟩
    · simp only [hrun] at herror
      cases herror
    · simp only [hfull]

/-- **A ring refines the history of its stream.** After any calls, whatever the window and the first length (memory has
no block of `2 ^ 63` bytes): the snapshot is the newest `w` bytes of the history; the unread bytes are those from the
next index on, and a read takes the first of them and leaves the snapshot alone; a write succeeds, or the ring cannot
grow, be it for want of memory, and nothing at all is changed. -/
theorem refines_history [Memory] (w size : Nat) (hsize : size < 2 ^ 63) (calls : List Call) :
    let s := calls.foldl (serve w) ((Channel.ofSize w size).ring, .empty)
    let p := s.2.next
    p ≤ s.2.bytes.length ∧
    snapshot.run s.1 = .ok (s.2.bytes.drop (s.2.bytes.length - w)) s.1 ∧
    unreadBytes.run s.1 = .ok (s.2.bytes.drop p) s.1 ∧
    (∀ m, ∃ r, (readInto m).run s.1 = .ok ((s.2.bytes.drop p).take (min m (s.2.bytes.length - p))) r ∧
      snapshot.run r = .ok (s.2.bytes.drop (s.2.bytes.length - w)) r) ∧
    (∀ src, (∃ r, (writeFrom src).run s.1 = .ok () r) ∨
      ∃ needed length, (writeFrom src).run s.1 = .error (.full needed length) s.1) ∧
    ∀ (c : Channel) (src : Bytes) (e : BufferError), c.ring = s.1 → (c.write src).1 = .error e →
      (c.write src).2 = c := by
  intro s p
  obtain ⟨hwindow, hr⟩ : s.1.window = w ∧ s.1.Represents s.2 (s.2.bytes.length - w) :=
    represents_run calls rfl (represents_ofSize w hsize)
  refine ⟨hr.next_le, hr.run_snapshot, hr.run_unreadBytes, fun m => ?_, fun src => ?_, fun c src e hc herror => ?_⟩
  · obtain ⟨r, hrun, hr', -⟩ := hr.run_readInto m
    refine ⟨r, ?_, hr'.run_snapshot⟩
    rw [hrun, ← List.length_drop, ← List.take_eq_take_min]
    rfl
  · rw [← hwindow] at hr
    rcases hr.run_writeFrom src with ⟨r, hrun, -⟩ | ⟨needed, hfull⟩
    · exact .inl ⟨r, hrun⟩
    · exact .inr ⟨needed, _, hfull⟩
  · rw [← hwindow, ← hc] at hr
    exact hr.write_eq_self herror

/-- Six slots hold a window of three bytes while the writes go round and overtake the reader. -/
theorem refines_history_going_round :
    let calls := [Call.write .plenty [1, 2], .read 1, .write .plenty [3, 4, 5], .write .plenty [6, 7, 8], .read 1]
    let s := calls.foldl (serve 3) ((Channel.ofSize 3 6).ring, .empty)
    6 < 2 ^ 63 ∧ snapshot.run s.1 = .ok [6, 7, 8] s.1 ∧ unreadBytes.run s.1 = .ok [7, 8] s.1 := by
  intro calls s
  obtain ⟨-, hsnapshot, hunread, -⟩ := @refines_history .plenty 3 6 (by decide) calls
  exact ⟨by decide, hsnapshot, hunread⟩

end Dialogue.Ring
