import Dialogue.Proofs.Ring.History

/-!
# How long a ring gets

Only growing changes the number of slots. A ring grows when neither its free slots nor the bytes that its window is
about to lose make enough space, so its length is bounded by the bytes that it keeps, and these are bounded by the
window and by what was written.

* `left`, `Still`, `Steady`: operations that leave the ring, or its length and its window, alone;
* `Grows`, `Grows.length_le`: a ring that grows is at most twice as long as it has to be;
* **`sameSize_or_grows_writeFrom`**: a write changes the length in one way only;
* `length_run`, `length_run_le`: what calls do to the length;
* **`length_bounded`**: the bound after any calls.
-/

namespace Dialogue.Ring

/-! ## Operations that leave the length alone -/

/-- The ring that an operation leaves, also where it breaks off. -/
def left {α : Type} : EStateM.Result Fault Ring α → Ring
  | .ok _ r => r
  | .error _ r => r

def SameSize (r r' : Ring) : Prop := r'.data.length = r.data.length ∧ r'.window = r.window

theorem SameSize.trans {r r' r'' : Ring} (h : SameSize r r') (h' : SameSize r' r'') : SameSize r r'' :=
  ⟨h'.1.trans h.1, h'.2.trans h.2⟩

section

variable {α β : Type}

/-- The operation only looks at the ring. -/
def Still (op : Op α) : Prop := ∀ r, left (op.run r) = r

/-- The operation keeps the number of slots and the window. -/
def Steady (op : Op α) : Prop := ∀ r, SameSize r (left (op.run r))

variable {x y : Op α} {f : α → Op β} {r : Ring} {c : Prop} [Decidable c]

theorem Still.steady (hx : Still x) : Steady x := by
  intro r
  rw [hx r]
  exact ⟨rfl, rfl⟩

theorem Still.left_bind {P : Ring → Prop} (hx : Still x) (hr : P r)
    (hf : ∀ a, x.run r = .ok a r → P (left ((f a).run r))) : P (left ((x >>= f).run r)) := by
  have hleft := hx r
  rw [EStateM.run_bind]
  cases h : x.run r with
  | ok a r' =>
    rw [h] at hleft
    obtain rfl : r' = r := hleft
    exact hf a h
  | error e r' =>
    rw [h] at hleft
    obtain rfl : r' = r := hleft
    exact hr

theorem Still.bind (hx : Still x) (hf : ∀ a, Still (f a)) : Still (x >>= f) := by
  intro r
  exact hx.left_bind (P := (· = r)) rfl fun a _ => hf a r

theorem Still.ite (hx : Still x) (hy : Still y) : Still (if c then x else y) := by
  split_ifs
  · exact hx
  · exact hy

theorem Steady.bind (hx : Steady x) (hf : ∀ a, Steady (f a)) : Steady (x >>= f) := by
  intro r
  have hleft := hx r
  rw [EStateM.run_bind]
  cases h : x.run r with
  | ok a r' =>
    rw [h] at hleft
    exact hleft.trans (hf a r')
  | error e r' => rwa [h] at hleft

theorem Steady.ite (hx : Steady x) (hy : Steady y) : Steady (if c then x else y) := by
  split_ifs
  · exact hx
  · exact hy

theorem still_pure (a : α) : Still (pure a) := fun _ => rfl

theorem still_throw (e : Fault) : Still (throw e : Op α) := fun _ => rfl

end

theorem still_get : Still (get : Op Ring) := fun _ => rfl

theorem still_length : Still length := fun _ => rfl

theorem still_plus (a b : Nat) : Still (plus a b) := (still_pure _).ite (still_throw _)

theorem still_minus (a b : Nat) : Still (minus a b) := (still_pure _).ite (still_throw _)

theorem still_modulo (a b : Nat) : Still (modulo a b) := (still_throw _).ite (still_pure _)

theorem still_slice (block : Bytes) (i n : Nat) : Still (slice block i n) := (still_pure _).ite (still_throw _)

theorem still_splice (block : Bytes) (i : Nat) (src : Bytes) : Still (splice block i src) :=
  (still_pure _).ite (still_throw _)

theorem still_distance (i j : Nat) : Still (distance i j) := by
  refine (still_minus _ _).ite ?_
  exact still_length.bind fun _ => (still_plus _ _).bind fun _ => still_minus _ _

theorem still_advance (i n : Nat) : Still (advance i n) :=
  (still_plus _ _).bind fun _ => still_length.bind fun _ => still_modulo _ _

theorem still_buffered : Still buffered := still_get.bind fun _ => still_distance _ _

theorem still_unread : Still unread := still_get.bind fun _ => still_distance _ _

theorem still_room : Still room := by
  refine still_get.bind fun r => still_length.bind fun _ => (still_plus _ _).bind fun _ => ?_
  exact (still_minus _ _).bind fun _ => (still_minus _ _).bind fun _ => still_length.bind fun _ => still_modulo _ _

theorem still_copyOut (i n : Nat) : Still (copyOut i n) := by
  refine still_get.bind fun r => (still_minus _ _).bind fun first => (still_slice _ _ _).bind fun front => ?_
  exact (still_minus _ _).bind fun _ => (still_slice _ _ _).bind fun back => still_pure _

theorem steady_modify {f : Ring → Ring} (h : ∀ r, SameSize r (f r)) : Steady (modify f) := fun r => h r

theorem length_of_run_splice {block src data : Bytes} {i : Nat} {r r' : Ring}
    (h : (splice block i src).run r = .ok data r') : data.length = block.length := by
  unfold splice at h
  split_ifs at h with hfit
  · obtain ⟨rfl, -⟩ := EStateM.Result.ok.inj h
    simp only [List.length_append, List.length_take, List.length_drop]
    omega
  · cases h

theorem steady_copyIn (i : Nat) (src : Bytes) : Steady (copyIn i src) := by
  intro r
  have hsame : SameSize r r := ⟨rfl, rfl⟩
  rw [copyIn, run_bind_of_ok run_get]
  refine (still_minus _ _).left_bind hsame fun first _ => ?_
  refine (still_splice _ _ _).left_bind hsame fun front hfront => ?_
  refine (still_splice _ _ _).left_bind hsame fun data hdata => ?_
  exact ⟨(length_of_run_splice hdata).trans (length_of_run_splice hfront), rfl⟩

theorem steady_readInto (n : Nat) : Steady (readInto n) := by
  refine still_unread.steady.bind fun unread => still_get.steady.bind fun r => ?_
  refine (still_copyOut _ _).steady.bind fun out => still_get.steady.bind fun r => ?_
  refine (still_advance _ _).steady.bind fun read => ?_
  exact Steady.bind (steady_modify fun r => ⟨rfl, rfl⟩) fun _ => (still_pure out).steady

theorem steady_advanceStart (n : Nat) : Steady (advanceStart n) := by
  refine still_get.steady.bind fun r => (still_distance _ _).steady.bind fun consumed => ?_
  refine (still_advance _ _).steady.bind fun start => ?_
  refine Steady.bind (steady_modify fun r => ⟨rfl, rfl⟩) fun _ => Steady.ite ?_ (still_pure _).steady
  exact steady_modify fun r => ⟨rfl, rfl⟩

theorem steady_store (w : Nat) (src : Bytes) : Steady (store w src) := by
  refine still_get.steady.bind fun r => (steady_copyIn _ _).bind fun _ => still_get.steady.bind fun r => ?_
  refine (still_advance _ _).steady.bind fun write => Steady.bind (steady_modify fun r => ⟨rfl, rfl⟩) fun _ => ?_
  refine still_buffered.steady.bind fun kept => Steady.ite ?_ (still_pure _).steady
  exact (still_minus _ _).steady.bind fun _ => steady_advanceStart _

/-! ## Growing -/

section Growing

variable {r r' r'' : Ring} {needed : Nat}

/-- The ring grows, because the bytes needed or the window ask for more slots, and gets the length that the rule of
growth gives it. -/
structure Grows (r : Ring) (needed : Nat) (r' : Ring) : Prop where
  window : r'.window = r.window
  rule : ∃ available, room.run r = .ok available r ∧ available < needed ∧
    grow? available needed r.data.length = some r'.data.length
  small : r.capacity ≤ needed ∨ r.capacity ≤ r.window

theorem Grows.trans_sameSize (h : r.Grows needed r') (h' : SameSize r' r'') : r.Grows needed r'' := by
  obtain ⟨available, hroom, hlacking, hgrow⟩ := h.rule
  exact ⟨h'.2.trans h.window, ⟨available, hroom, hlacking, by rw [h'.1, hgrow]⟩, h.small⟩

theorem Grows.lt_length (h : r.Grows needed r') :
    r.data.length < r'.data.length ∧ r'.data.length ≤ maxLength := by
  obtain ⟨available, -, hlacking, hgrow⟩ := h.rule
  obtain ⟨hmax, hroom⟩ := le_of_grow? hgrow
  omega

theorem Grows.capacity_le (h : r.Grows needed r') (hneeded : needed ≤ r.window) : r.capacity ≤ r.window := by
  rcases h.small with hsmall | hsmall
  · exact hsmall.trans hneeded
  · exact hsmall

/-- One doubling less would not have been enough. -/
theorem le_two_mul_of_grow? {available length size : Nat} (hlacking : available < needed) (hlength : available < length)
    (h : grow? available needed length = some size) : size ≤ 2 * (length - 1 - available + needed) := by
  obtain ⟨hmax, hroom⟩ := le_of_grow? h
  obtain ⟨k, hk⟩ : ∃ k, IsLeast (doublings available needed length) k := exists_isLeast_doublings hlength
  obtain ⟨-, -, hgrow⟩ := grow?_eq_some hlacking hlength hk (by omega)
  obtain rfl := Option.some.inj (h.symm.trans hgrow)
  obtain ⟨j, rfl⟩ := Nat.exists_eq_add_of_le' hk.1.1
  have hhalf := lt_needed_of_lt_least hlacking hk (Nat.lt_succ_self j)
  have hdoubled := add_eq_doubled length j
  calc min (length * 2 ^ (j + 1)) maxLength ≤ length * 2 ^ (j + 1) := Nat.min_le_left _ _
    _ = 2 * (length * 2 ^ j) := by rw [Nat.pow_succ, ← Nat.mul_assoc, Nat.mul_comm]
    _ ≤ 2 * (length - 1 - available + needed) := Nat.mul_le_mul_left 2 (by omega)

/-- A ring that grows is at most twice as long as what it kept and what it needs. -/
theorem Grows.length_le {h : History} {lo : Nat} (hr : r.Represents h lo) (hgrows : r.Grows needed r') :
    r'.data.length ≤ 2 * (h.bytes.length - lo + needed) := by
  obtain ⟨available, hroom, hlacking, hgrow⟩ := hgrows.rule
  obtain ⟨rfl, -⟩ := EStateM.Result.ok.inj (hroom.symm.trans hr.run_room)
  have hlength := hr.room_lt
  have hbound := le_two_mul_of_grow? hlacking (by omega) hgrow
  omega

variable [Memory]

theorem sameSize_or_stretched_resize (needed : Nat) :
    SameSize r (left ((resize needed).run r)) ∨ (left ((resize needed).run r)).window = r.window ∧
      ∃ available, room.run r = .ok available r ∧
        granted? available needed r.data.length = some (left ((resize needed).run r)).data.length := by
  have hsame : SameSize r r := ⟨rfl, rfl⟩
  let P : Ring → Prop := fun r' => SameSize r r' ∨ r'.window = r.window ∧ ∃ available,
    room.run r = .ok available r ∧ granted? available needed r.data.length = some r'.data.length
  change P _
  have hstay : P r := .inl hsame
  rw [resize, run_bind_of_ok run_length]
  refine still_room.left_bind hstay fun available hroom => ?_
  cases hgrow : granted? available needed r.data.length with
  | none => exact hstay
  | some size =>
    refine still_buffered.left_bind hstay fun kept _ => still_unread.left_bind hstay fun pending _ => ?_
    rw [run_bind_of_ok run_get]
    refine (still_copyOut _ _).left_bind hstay fun bytes _ => (still_minus _ _).left_bind hstay fun read _ => ?_
    refine (still_splice _ _ _).left_bind hstay fun data hdata => .inr ⟨rfl, available, hroom, ?_⟩
    have hlength := length_of_run_splice hdata
    rw [List.length_replicate] at hlength
    rw [hgrow, ← hlength]
    rfl

theorem sameSize_or_grows_makeSpace {available : Nat} (hroom : room.run r = .ok available r)
    (hlacking : available < needed) :
    SameSize r (left ((makeSpace needed).run r)) ∨ r.Grows needed (left ((makeSpace needed).run r)) := by
  rw [makeSpace, run_bind_of_ok run_length]
  by_cases hempty : 1 ≤ r.data.length
  · rw [run_bind_of_ok (run_minus hempty), run_bind_of_ok run_get]
    by_cases hslide : needed < r.data.length - 1 ∧ r.data.length - 1 > r.window
    · rw [if_pos hslide]
      have hsteady : Steady (do advanceStart (← minus needed (← room)) : Op Unit) :=
        still_room.steady.bind fun _ => (still_minus _ _).steady.bind fun _ => steady_advanceStart _
      exact .inl (hsteady r)
    · rw [if_neg hslide]
      rcases sameSize_or_stretched_resize (r := r) needed with hsame | ⟨hwindow, available', hroom', hgrow⟩
      · exact .inl hsame
      · obtain ⟨rfl, -⟩ := EStateM.Result.ok.inj (hroom.symm.trans hroom')
        refine .inr ⟨hwindow, ⟨available, hroom, hlacking, grow?_of_granted? hgrow⟩, ?_⟩
        unfold capacity
        omega
  · rw [EStateM.run_bind, minus, if_neg hempty]
    exact .inl ⟨rfl, rfl⟩

theorem sameSize_or_grows_fit (w : Nat) (src : Bytes) :
    SameSize r (left ((fit w src).run r)) ∨ r.Grows src.length (left ((fit w src).run r)) := by
  let P : Ring → Prop := fun r' => SameSize r r' ∨ r.Grows src.length r'
  change P _
  rw [fit]
  refine still_room.left_bind (.inl ⟨rfl, rfl⟩) fun available hroom => ?_
  by_cases hbig : src.length > available
  · have hspace := sameSize_or_grows_makeSpace hroom hbig
    simp only [hbig, if_true]
    rw [EStateM.run_bind]
    cases h : (makeSpace src.length).run r with
    | ok _ r₁ =>
      rw [h] at hspace
      exact hspace.imp (·.trans (steady_store w src r₁)) (·.trans_sameSize (steady_store w src r₁))
    | error e r₁ => rwa [h] at hspace
  · simp only [hbig, if_false]
    exact .inl (steady_store w src r)

/-- **A write keeps the length or lets the ring grow**, for no more bytes than are written and than the window
holds. -/
theorem sameSize_or_grows_writeFrom (src : Bytes) : SameSize r (left ((writeFrom src).run r)) ∨
    ∃ needed, needed ≤ src.length ∧ needed ≤ r.window ∧ r.Grows needed (left ((writeFrom src).run r)) := by
  by_cases hnothing : src = [] ∨ r.window = 0
  · rw [run_writeFrom_nothing hnothing]
    exact .inl ⟨rfl, rfl⟩
  · rw [not_or] at hnothing
    rw [run_writeFrom_fit hnothing.1 hnothing.2]
    have hfit := sameSize_or_grows_fit (r := r) r.window (src.drop (src.length - r.window))
    refine hfit.imp_right fun hgrows => ⟨_, ?_, ?_, hgrows⟩
    · rw [List.length_drop]
      omega
    · rw [List.length_drop]
      omega

end Growing

/-! ## Calls -/

section Calls

variable {w : Nat} {s : Ring × History}

theorem fst_serve (w : Nat) (s : Ring × History) (call : Call) : (serve w s call).1 = match call with
    | .write _ src => left ((writeFrom src).run s.1)
    | .read n => left ((readInto n).run s.1) := by
  cases call with
  | write _ src => cases h : (writeFrom src).run s.1 <;> simp only [serve, h, left]
  | read n => cases h : (readInto n).run s.1 <;> simp only [serve, h, left]

theorem length_serve (call : Call) : (serve w s call).1.window = s.1.window ∧
    s.1.data.length ≤ (serve w s call).1.data.length ∧
    (s.1.window < s.1.capacity ∨ maxLength < s.1.data.length → (serve w s call).1.data.length = s.1.data.length) := by
  rw [fst_serve]
  cases call with
  | write _ src =>
    rcases sameSize_or_grows_writeFrom (r := s.1) src with ⟨hlength, hwindow⟩ | ⟨needed, -, hneeded, hgrows⟩
    · exact ⟨hwindow, hlength.ge, fun _ => hlength⟩
    · obtain ⟨hlonger, hmax⟩ := hgrows.lt_length
      have hcapacity := hgrows.capacity_le hneeded
      exact ⟨hgrows.window, hlonger.le, fun hstays => by omega⟩
  | read n =>
    obtain ⟨hlength, hwindow⟩ := steady_readInto n s.1
    exact ⟨hwindow, hlength.ge, fun _ => hlength⟩

theorem length_run (calls : List Call) : (calls.foldl (serve w) s).1.window = s.1.window ∧
    s.1.data.length ≤ (calls.foldl (serve w) s).1.data.length ∧
    (s.1.window < s.1.capacity ∨ maxLength < s.1.data.length →
      (calls.foldl (serve w) s).1.data.length = s.1.data.length) := by
  induction calls generalizing s with
  | nil => exact ⟨rfl, le_rfl, fun _ => rfl⟩
  | cons call calls ih =>
    obtain ⟨hwindow, hle, hstays⟩ := length_serve (w := w) (s := s) call
    obtain ⟨hwindow', hle', hstays'⟩ := ih (s := serve w s call)
    refine ⟨hwindow'.trans hwindow, hle.trans hle', fun hlong => ?_⟩
    have hlength := hstays hlong
    rw [List.foldl_cons, hstays' (by unfold capacity at *; rw [hwindow, hlength]; exact hlong), hlength]

theorem length_serve_le {bound : Nat} (hw : s.1.window = w) (hr : s.1.Represents s.2 (s.2.bytes.length - w))
    (hbound : s.1.data.length ≤ max bound (min (2 * s.2.bytes.length) (4 * w))) (call : Call) :
    (serve w s call).1.data.length ≤ max bound (min (2 * (serve w s call).2.bytes.length) (4 * w)) := by
  subst hw
  cases call with
  | write _ src =>
    have hgrows := sameSize_or_grows_writeFrom (r := s.1) src
    rcases hr.run_writeFrom src with ⟨r', hrun, -, -⟩ | ⟨needed, hfull⟩
    · rw [hrun] at hgrows
      simp only [serve, hrun, History.written, List.length_append]
      -- the ring kept no more than the window and no more than was written
      rcases hgrows with ⟨hlength, -⟩ | ⟨needed, hsrc, hwindow, hgrows⟩
      · rw [left] at hlength
        omega
      · have hle := hgrows.length_le hr
        rw [left] at hle
        omega
    · simp only [serve, hfull]
      exact hbound
  | read n =>
    obtain ⟨r', hrun, -, -⟩ := hr.run_readInto n
    have hlength := (steady_readInto n s.1).1
    rw [hrun, left] at hlength
    simp only [serve, hrun, History.taken, hlength]
    exact hbound

theorem length_run_le {bound : Nat} (hw : s.1.window = w) (hr : s.1.Represents s.2 (s.2.bytes.length - w))
    (hbound : s.1.data.length ≤ max bound (min (2 * s.2.bytes.length) (4 * w))) (calls : List Call) :
    (calls.foldl (serve w) s).1.data.length ≤
      max bound (min (2 * (calls.foldl (serve w) s).2.bytes.length) (4 * w)) := by
  induction calls generalizing s with
  | nil => exact hbound
  | cons call calls ih =>
    obtain ⟨hw', hr'⟩ := represents_serve hw hr call
    exact ih hw' hr' (length_serve_le hw hr hbound call)

end Calls

/-- **The memory of a ring is bounded by its window.** After any calls, whatever the window and the first length, the
ring is at most as long as it was at first, or as twice the bytes written and four times the window, whichever of these
is less. It never gets shorter, and once it can hold more than its window it keeps its length for good. -/
theorem length_bounded (w size : Nat) (calls : List Call) :
    let s := calls.foldl (serve w) ((Channel.ofSize w size).ring, .empty)
    s.1.data.length ≤ max (max size 2) (min (2 * s.2.bytes.length) (4 * w)) ∧
    ∀ more : List Call, s.1.data.length ≤ (more.foldl (serve w) s).1.data.length ∧
      (w < s.1.capacity → (more.foldl (serve w) s).1.data.length = s.1.data.length) := by
  intro s
  have hlength : (Channel.ofSize w size).ring.data.length = max size 2 := List.length_replicate ..
  have hwindow : s.1.window = w := (length_run calls).1
  refine ⟨?_, fun more => ?_⟩
  · by_cases hmemory : max size 2 < 2 ^ 63
    · have hfirst : (Channel.ofSize w size).ring.data.length ≤
          max (max size 2) (min (2 * History.empty.bytes.length) (4 * w)) := by
        rw [hlength]
        exact Nat.le_max_left _ _
      exact length_run_le (s := (_, .empty)) rfl (represents_ofSize w (by omega)) hfirst calls
    · -- such a ring is longer than any to which a ring may grow
      have hstays := (length_run (w := w) (s := ((Channel.ofSize w size).ring, .empty)) calls).2.2
      rw [hstays (.inr (by rw [hlength]; unfold maxLength; omega)), hlength]
      exact Nat.le_max_left _ _
  · obtain ⟨-, hle, hstays⟩ := length_run (w := w) (s := s) more
    exact ⟨hle, fun hlong => hstays (.inl (by rwa [hwindow]))⟩

/-- A ring of two slots is given more than its window of three bytes, doubles twice and is never longer after that. -/
theorem length_bounded_of_small_window :
    let s := [Call.write .plenty [1, 2, 3, 4, 5], .write .plenty [6]].foldl (serve 3) ((Channel.ofSize 3 2).ring, .empty)
    s.1.data.length = 8 ∧ 3 < s.1.capacity ∧ ∀ more : List Call, (more.foldl (serve 3) s).1.data.length = 8 := by
  intro s
  obtain ⟨-, hmore⟩ := length_bounded 3 2 [Call.write .plenty [1, 2, 3, 4, 5], .write .plenty [6]]
  have hlength : s.1.data.length = 8 := by decide +kernel
  exact ⟨hlength, by decide +kernel, fun more => ((hmore more).2 (by decide +kernel)).trans hlength⟩

end Dialogue.Ring
