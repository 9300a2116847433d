import Dialogue.Proofs.Channel

/-!
# A waiting reader is woken

A reader that polls in vain leaves its name. As long as the name is there, polling would be in vain again: whatever
gives the reader something to do, bytes, the end of data or a closed side, takes the name and wakes the reader.

* `Use`, `Channel.use`: what is done to a channel, the reader's going away included;
* `parked`: the names that polls in vain left;
* `Effect`, `effect_use`: all that one use does to the name that is left and to those that were woken;
* `Parks`: what holds of them after any uses;
* **`wakes_readers`**: no wake-up is lost.
-/

namespace Dialogue.Channel

/-- What is done to a channel by its writer, by its reader, who may go away, and by its owner. -/
inductive Use where
  | write (memory : Memory) (src : Bytes)
  | read (n : Nat)
  | poll (n : Nat) (w : Waiter)
  | closeWriter
  | closeReader
  | close

def use (c : Channel) : Use → Answer × Channel
  | .write _ src => (c.write src).map .written id
  | .read n => (c.read n).map .got id
  | .poll n w => (c.poll n w).map .got id
  | .closeWriter => (.done, c.closeWriter)
  | .closeReader => (.done, c.closeReader)
  | .close => (.done, c.close)

/-- The names that polls in vain left, the earliest first. -/
def parked (log : List (Use × Answer)) : List Waiter := log.filterMap fun
  | (.poll _ w, .got .pending) => some w
  | _ => none

theorem parked_append (log more : List (Use × Answer)) : parked (log ++ more) = parked log ++ parked more :=
  List.filterMap_append

variable {c : Channel} {h : Ring.History}

theorem mustWait_iff : c.mustWait = .ok true ↔ c.available = .ok 0 ∧ c.readerOpen = true ∧ c.writerOpen = true := by
  rw [mustWait]
  cases c.available with
  | error e => simp [Except.map]
  | ok unread => simp [Except.map, and_assoc]

theorem mustWait_of_waiting (waiting : Option Waiter) : { c with waiting }.mustWait = c.mustWait := by
  unfold mustWait available onRing
  cases Ring.unread.run c.ring <;> rfl

/-! ## One use -/

/-- All that a use does to the name that is left and to those that were woken: whoever waits is woken, a poll in vain
leaves a name, or nobody is woken, and a reader that had to wait before still has to. -/
inductive Effect (c : Channel) : Use → Answer → Channel → Prop where
  | wakes {u : Use} {answer : Answer} {c' : Channel} (hanswer : parked [(u, answer)] = [])
      (hwaiting : c'.waiting = none) (hwoken : c'.woken = c.waiting.toList ++ c.woken) : Effect c u answer c'
  | parks (n : Nat) (w : Waiter) (hwait : c.mustWait = .ok true) :
      Effect c (.poll n w) (.got .pending) { c with waiting := some w }
  | passes {u : Use} {answer : Answer} {c' : Channel} (hanswer : parked [(u, answer)] = [])
      (hwaiting : c'.waiting = c.waiting) (hwoken : c'.woken = c.woken)
      (hwait : c.mustWait = .ok true → c'.mustWait = .ok true) : Effect c u answer c'

theorem effect_write (hr : c.ring.Represents h (h.bytes.length - c.ring.window)) (memory : Memory) (src : Bytes) :
    Effect c (.write memory src) (.written (c.write src).1) (c.write src).2 := by
  by_cases hopen : c.writerOpen = true
  · rw [write, if_neg (by simp [hopen])]
    unfold onRing
    rcases hr.run_writeFrom src with ⟨r, hrun, -⟩ | ⟨needed, hfull⟩
    · rw [hrun]
      exact .wakes rfl rfl rfl
    · rw [hfull]
      exact .passes rfl rfl rfl id
  · rw [write, if_pos (by simpa using hopen)]
    exact .passes rfl rfl rfl id

theorem exists_ring_read (n : Nat) : ∃ ring, (c.read n).2 = { c with ring } := by
  unfold read take onRing
  split_ifs
  · exact ⟨c.ring, rfl⟩
  · exact ⟨c.ring, rfl⟩
  · cases c.mustWait with
    | error e => exact ⟨c.ring, rfl⟩
    | ok wait =>
      cases wait with
      | true => exact ⟨c.ring, rfl⟩
      | false => cases hrun : (Ring.readInto n).run c.ring <;> exact ⟨_, rfl⟩

/-- A read that answers leaves a channel where a reader would have to wait as it is. -/
theorem effect_of_read {u : Use} {n : Nat} (hwait : c.mustWait = .ok true → n = 0)
    (hu : parked [(u, .got (c.read n).1)] = []) :
    Effect c u (.got (c.read n).1) (c.read n).2 := by
  obtain ⟨ring, hring⟩ := exists_ring_read (c := c) n
  refine .passes hu (by rw [hring]) (by rw [hring]) fun hidle => ?_
  rw [hwait hidle]
  exact hidle

theorem effect_use (hr : c.ring.Represents h (h.bytes.length - c.ring.window)) (u : Use) :
    Effect c u (c.use u).1 (c.use u).2 := by
  cases u with
  | write memory src => exact effect_write hr memory src
  | read n =>
    -- a read that would block leaves no name, so that it does not matter what it answers
    rcases read_poll_cases c n 0 with ⟨-, -, hnot⟩ | ⟨-, hread, -⟩
    · refine effect_of_read (fun hidle => ?_) rfl
      by_contra hn
      exact hnot ⟨hn, mustWait_iff.mp hidle⟩
    · change Effect c (.read n) (.got (c.read n).1) (c.read n).2
      rw [hread]
      exact .passes rfl rfl rfl id
  | poll n w =>
    change Effect c (.poll n w) (.got (c.poll n w).1) (c.poll n w).2
    rcases read_poll_cases c n w with ⟨hsame, hready, hnot⟩ | ⟨⟨-, hidle⟩, -, hpoll⟩
    · rw [hsame]
      refine effect_of_read (fun hidle => ?_) ?_
      · by_contra hn
        exact hnot ⟨hn, mustWait_iff.mp hidle⟩
      · cases hresult : (c.read n).1 with
        | pending => exact absurd hresult hready
        | data bytes => rfl
        | failed e => rfl
    · rw [hpoll]
      exact .parks n w (mustWait_iff.mpr hidle)
  | closeWriter => exact .wakes rfl rfl rfl
  | closeReader => exact .wakes rfl rfl rfl
  | close => exact .wakes rfl rfl rfl

theorem represents_use (hr : c.ring.Represents h (h.bytes.length - c.ring.window)) (u : Use) :
    ∃ h', (c.use u).2.ring.Represents h' (h'.bytes.length - (c.use u).2.ring.window) := by
  have hact : ∀ a : Act, ∃ h', (c.step a).2.ring.Represents h' (h'.bytes.length - (c.step a).2.ring.window) := by
    intro a
    obtain ⟨h', hserved⟩ := served_step hr a
    exact ⟨h', (hserved.represents hr).2⟩
  cases u with
  | write memory src => exact hact (.write memory src)
  | read n =>
    by_cases hn : n = 0
    · subst hn
      exact ⟨h, hr⟩
    · exact hact (.read ⟨n, Nat.pos_of_ne_zero hn⟩)
  | poll n w =>
    by_cases hn : n = 0
    · subst hn
      exact ⟨h, hr⟩
    · exact hact (.poll ⟨n, Nat.pos_of_ne_zero hn⟩ w)
  | closeWriter => exact ⟨h, hr⟩
  | closeReader => exact ⟨h, hr⟩
  | close => exact ⟨h, hr⟩

/-! ## Any uses -/

/-- What holds of the name that is left and of those that were woken: the name is there only while a reader has to
wait, and each name was left by a poll in vain of its own. -/
structure Parks (log : List (Use × Answer)) (c : Channel) : Prop where
  represents : ∃ h, c.ring.Represents h (h.bytes.length - c.ring.window)
  mustWait : c.waiting ≠ none → c.mustWait = .ok true
  names : (c.waiting.toList ++ c.woken).Sublist (parked log).reverse

variable {log : List (Use × Answer)} {u : Use} {answer : Answer} {c' : Channel} {name : Waiter} {woken : List Waiter}

theorem Parks.effect (hp : Parks log c) (he : Effect c u answer c')
    (hr : ∃ h, c'.ring.Represents h (h.bytes.length - c'.ring.window)) : Parks (log ++ [(u, answer)]) c' := by
  have hnames := hp.names
  cases he with
  | wakes hanswer hwaiting hwoken =>
    refine ⟨hr, fun hleft => absurd hwaiting hleft, ?_⟩
    rwa [parked_append, hanswer, List.append_nil, hwaiting, hwoken]
  | parks n w hwait =>
    refine ⟨hr, fun _ => (mustWait_of_waiting _).trans hwait, ?_⟩
    rw [parked_append, List.reverse_append]
    exact ((List.sublist_append_right _ _).trans hnames).cons_cons w
  | passes hanswer hwaiting hwoken hwait =>
    refine ⟨hr, fun hleft => hwait (hp.mustWait (hwaiting ▸ hleft)), ?_⟩
    rwa [parked_append, hanswer, List.append_nil, hwaiting, hwoken]

theorem Parks.use (hp : Parks log c) (u : Use) : Parks (log ++ [(u, (c.use u).1)]) (c.use u).2 := by
  obtain ⟨h, hr⟩ := hp.represents
  exact hp.effect (effect_use hr u) (represents_use hr u)

theorem Parks.ofSize (w : Nat) {size : Nat} (hsize : size < 2 ^ 63) : Parks [] (Channel.ofSize w size) where
  represents := ⟨.empty, Ring.represents_ofSize w hsize⟩
  mustWait := fun hleft => absurd rfl hleft
  names := List.Sublist.refl _

theorem Parks.perform (hp : Parks log c) (uses : List Use) :
    Parks (log ++ (perform Channel.use c uses).1) (perform Channel.use c uses).2 :=
  perform_keeps (I := Parks) (fun _ _ u hp => hp.use u) hp uses

/-! ## The last poll in vain -/

/-- The reader that left its name has to wait, or it was woken, once since the others in `woken`. -/
def WaitsOrWoken (name : Waiter) (woken : List Waiter) (c : Channel) : Prop :=
  c.waiting = some name ∧ c.woken = woken ∧ c.mustWait = .ok true ∨ c.waiting = none ∧ c.woken = name :: woken

theorem WaitsOrWoken.effect (hw : WaitsOrWoken name woken c) (he : Effect c u answer c')
    (hanswer : parked [(u, answer)] = []) : WaitsOrWoken name woken c' := by
  cases he with
  | wakes _ hwaiting hwoken =>
    refine .inr ⟨hwaiting, ?_⟩
    rw [hwoken]
    rcases hw with ⟨hleft, hbefore, -⟩ | ⟨hleft, hbefore⟩
    · rw [hleft, hbefore]
      rfl
    · rw [hleft, hbefore]
      rfl
  | parks n w hwait => cases hanswer
  | passes _ hwaiting hwoken hwait =>
    rw [WaitsOrWoken, hwaiting, hwoken]
    exact hw.imp_left fun ⟨hleft, hbefore, hidle⟩ => ⟨hleft, hbefore, hwait hidle⟩

theorem waitsOrWoken_of_pending {n : Nat} (he : Effect c (.poll n name) (.got .pending) c') :
    WaitsOrWoken name c.woken c' := by
  cases he with
  | wakes hanswer => cases hanswer
  | parks _ _ hwait => exact .inl ⟨rfl, rfl, (mustWait_of_waiting _).trans hwait⟩
  | passes hanswer => cases hanswer

theorem WaitsOrWoken.perform (hp : Parks log c) (hw : WaitsOrWoken name woken c) {uses : List Use}
    (hparked : parked (perform Channel.use c uses).1 = []) :
    WaitsOrWoken name woken (perform Channel.use c uses).2 := by
  induction uses generalizing log c with
  | nil => exact hw
  | cons u uses ih =>
    rw [Dialogue.perform, ← List.singleton_append, parked_append, List.append_eq_nil_iff] at hparked
    obtain ⟨h, hr⟩ := hp.represents
    exact ih (hp.use u) (hw.effect (effect_use hr u) hparked.1) hparked.2

/-- **No wake-up is lost.** Whatever is done to a channel, in whatever order, and whatever the window and the first
length (memory has no block of `2 ^ 63` bytes):
* while the name of a reader is there, nothing is unread and both sides are open, and any poll for a byte would be in
  vain;
* the readers that were woken, and the one whose name is there, left their names in this order, each by a poll in vain
  of its own, so that none is woken twice for one poll;
* since the last poll in vain, either nothing has happened that concerns its reader, who still has to wait and is not
  woken yet, or the name was taken and the reader was woken, once. -/
theorem wakes_readers (w size : Nat) (hsize : size < 2 ^ 63) (uses : List Use) :
    let log := (perform use (ofSize w size) uses).1
    let c := (perform use (ofSize w size) uses).2
    (∀ name, c.waiting = some name →
      (c.available = .ok 0 ∧ c.readerOpen = true ∧ c.writerOpen = true) ∧
        ∀ n name', n ≠ 0 → (c.poll n name').1 = .pending) ∧
    (c.waiting.toList ++ c.woken).Sublist (parked log).reverse ∧
    ∀ before n name after, log = before ++ (.poll n name, .got .pending) :: after → parked after = [] →
      let woken := (perform use (ofSize w size) (before.map Prod.fst)).2.woken
      c.waiting = some name ∧ c.woken = woken ∧ c.mustWait = .ok true ∨
        c.waiting = none ∧ c.woken = name :: woken := by
  intro log c
  have hp : Parks log c := (Parks.ofSize w hsize).perform uses
  refine ⟨fun name hname => ?_, hp.names, fun before n name after hlog hparked => ?_⟩
  · have hidle := mustWait_iff.mp (hp.mustWait (by simp [hname]))
    refine ⟨hidle, fun n name' hn => ?_⟩
    rcases read_poll_cases c n name' with ⟨-, -, hnot⟩ | ⟨-, -, hpoll⟩
    · exact absurd ⟨hn, hidle⟩ hnot
    · rw [hpoll]
  · obtain ⟨hanswer, hafter⟩ := answer_of_perform hlog
    have hp₀ := (Parks.ofSize w hsize).perform (before.map Prod.fst)
    obtain ⟨h, hr⟩ := hp₀.represents
    have heffect := effect_use hr (.poll n name)
    rw [hanswer] at heffect
    have hend := (waitsOrWoken_of_pending heffect).perform (hp₀.use _) (by rwa [hafter])
    rwa [← state_of_perform hlog] at hend

/-- The second of two polls in vain replaces the name that the first one left, and a write of no byte is enough to
wake its reader. -/
theorem wakes_readers_of_replaced_name :
    let uses := [Use.poll 4 7, .poll 4 8, .write .plenty [], .write .plenty [1], .poll 4 9]
    let c := (perform use (ofSize 3 8) uses).2
    8 < 2 ^ 63 ∧ (c.waiting.toList ++ c.woken).Sublist [8, 7] ∧ c.waiting = none ∧ c.woken = [8] := by
  intro uses c
  have hlog : (perform use (ofSize 3 8) uses).1 =
      [(.poll 4 7, .got .pending)] ++ (.poll 4 8, .got .pending) ::
        [(.write .plenty [], .written (.ok ())), (.write .plenty [1], .written (.ok ())),
          (.poll 4 9, .got (.data [1]))] := rfl
  obtain ⟨-, hnames, hlast⟩ := wakes_readers 3 8 (by decide) uses
  rw [hlog] at hnames
  obtain ⟨hwaiting, -⟩ | hwoken := hlast _ _ _ _ hlog rfl
  · exact absurd hwaiting (by decide)
  · exact ⟨by decide, hnames, hwoken⟩

end Dialogue.Channel
