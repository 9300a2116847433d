import Dialogue.Proofs.Perform
import Dialogue.Proofs.Ring.History
import Mathlib.Data.PNat.Basic

/-!
# A channel is a stream

The two endpoints and the owner of a channel act on it in any order. Whatever they do, the reader takes the bytes that
the writer put in, one after another, and is told of the end of data only when there is nothing left to take and
nothing more to come.

* `Channel.resume`: a waiting read that looks again; `Channel.read_poll_cases`: how the two ways to read compare;
* `Act`, `Answer`, `Channel.step`, `Channel.run`: acts on a channel, with a log of the answers;
* `Served`, `Channel.served_step`: all that one act can do;
* `Channel.Tells`: what a log tells of the channel;
* **`Channel.run_delivers`**: no byte is lost, and the end of data is the end.
-/

namespace Dialogue.Channel

/-! ## The two ways to read -/

section Reading

variable (c : Channel) (n : Nat) (w : Waiter)

/-- A waiting read that was woken looks again, but not at its own side. -/
def resume : ReadResult × Channel :=
  match c.mustWait with
  | .error e => (.failed e, c)
  | .ok true => (.pending, c)
  | .ok false => c.take n

theorem read_eq_resume (hn : n ≠ 0) (hopen : c.readerOpen = true) : c.read n = c.resume n := by
  rw [read, if_neg (by simpa using hn), if_neg (by simp [hopen])]
  rfl

theorem take_ne_pending : (c.take n).1 ≠ .pending := by
  unfold take
  rcases c.onRing (Ring.readInto n) with ⟨e | bytes, c'⟩ <;> exact ReadResult.noConfusion

theorem run_unread_eq_ok {r r' : Ring} {unread : Nat} (h : Ring.unread.run r = .ok unread r') : r' = r := by
  rw [Ring.unread, Ring.run_bind_of_ok Ring.run_get, Ring.distance] at h
  by_cases hle : r.read ≤ r.write
  · rw [if_pos hle, Ring.run_minus hle] at h
    exact (EStateM.Result.ok.inj h).2.symm
  · have hlength : Ring.length.run r = .ok r.data.length r := rfl
    rw [if_neg hle, Ring.run_bind_of_ok hlength] at h
    by_cases hsum : r.write + r.data.length < Word.size
    · rw [Ring.run_bind_of_ok (Ring.run_plus hsum), Ring.minus] at h
      split_ifs at h <;> cases h
      rfl
    · rw [Ring.plus, if_neg hsum] at h
      cases h

theorem take_min {unread : Nat} (h : c.available = .ok unread) : c.take (min unread n) = c.take n := by
  have hcount : Ring.unread.run c.ring = .ok unread c.ring := by
    unfold available onRing at h
    rcases hrun : Ring.unread.run c.ring with ⟨u, r⟩ | ⟨e, r⟩ <;> rw [hrun] at h <;> cases h
    rw [run_unread_eq_ok hrun]
  have hread : (Ring.readInto (min unread n)).run c.ring = (Ring.readInto n).run c.ring := by
    rw [Ring.readInto, Ring.readInto, Ring.run_bind_of_ok hcount, Ring.run_bind_of_ok hcount,
      show min (min unread n) unread = min n unread by omega]
  unfold take onRing
  rw [hread]

/-- **A poll and a waiting read do the same** unless nothing is unread and both sides are open; then the one waits,
and the other leaves the name of the reader. -/
theorem read_poll_cases :
    c.poll n w = c.read n ∧ (c.read n).1 ≠ .pending ∧
        ¬(n ≠ 0 ∧ c.available = .ok 0 ∧ c.readerOpen = true ∧ c.writerOpen = true) ∨
      (n ≠ 0 ∧ c.available = .ok 0 ∧ c.readerOpen = true ∧ c.writerOpen = true) ∧
        c.read n = (.pending, c) ∧ c.poll n w = (.pending, { c with waiting := some w }) := by
  by_cases hn : n = 0
  · subst hn
    exact .inl ⟨rfl, ReadResult.noConfusion, by simp⟩
  by_cases hopen : c.readerOpen = true
  · rw [read_eq_resume c n hn hopen, poll, if_neg (by simpa using hn), if_neg (by simp [hopen]), resume, mustWait]
    rcases havailable : c.available with e | unread
    · exact .inl ⟨rfl, ReadResult.noConfusion, by simp⟩
    · by_cases hwait : unread = 0 ∧ c.writerOpen = true
      · obtain ⟨rfl, hwriter⟩ := hwait
        exact .inr (by simp [Except.map, hopen, hwriter, hn])
      · have hready : (unread == 0 && c.readerOpen && c.writerOpen) = false := by
          simpa [hopen] using hwait
        have htake := take_ne_pending c n
        refine .inl ?_
        simp only [Except.map, hready, take_min c n havailable]
        refine ⟨rfl, htake, fun hall => ?_⟩
        exact hwait ⟨Except.ok.inj hall.2.1, hall.2.2.2⟩
  · refine .inl ?_
    have hread : c.read n = (.failed .closed, c) := by simp [read, hn, hopen]
    have hpoll : c.poll n w = (.failed .closed, c) := by simp [poll, hn, hopen]
    rw [hread, hpoll]
    exact ⟨rfl, ReadResult.noConfusion, fun hall => hopen hall.2.2.1⟩

end Reading

/-! ## Acts -/

/-- What can be done to a channel. A write finds memory as it is then. A read asks for at least one byte; one that waits
may look again at any time, which is `resume`. Closing the writer's endpoint, shutting it down and dropping it come to
the same, and `close` closes both sides. -/
inductive Act where
  | write (memory : Memory) (src : Bytes)
  | read (n : ℕ+)
  | resume (n : ℕ+)
  | poll (n : ℕ+) (w : Waiter)
  | closeWriter
  | close

/-- What an act is answered with. -/
inductive Answer where
  | written (result : Except BufferError Unit)
  | got (result : ReadResult)
  | done

/-- Acts with their answers, the earliest first. -/
abbrev Log := List (Act × Answer)

namespace Act

def closesWriter : Act → Bool
  | .closeWriter | .close => true
  | _ => false

def closesReader : Act → Bool
  | .close => true
  | _ => false

def startsRead : Act → Bool
  | .read _ | .poll _ _ => true
  | _ => false

def asked : Act → Nat
  | .read n | .resume n | .poll n _ => n
  | _ => 0

end Act

namespace Log

/-- The bytes of all writes that succeeded. -/
def written (log : Log) : Bytes := log.flatMap fun
  | (.write _ src, .written (.ok _)) => src
  | _ => []

/-- The bytes that the reader was given. -/
def delivered (log : Log) : Bytes := log.flatMap fun
  | (_, .got (.data bytes)) => bytes
  | _ => []

theorem written_append (log more : Log) : written (log ++ more) = log.written ++ written more := List.flatMap_append

theorem delivered_append (log more : Log) : delivered (log ++ more) = log.delivered ++ delivered more :=
  List.flatMap_append

@[simp] theorem written_got (a : Act) (result : ReadResult) : written [(a, .got result)] = [] := by
  cases a <;> rfl

end Log

def step (c : Channel) : Act → Answer × Channel
  | .write _ src => (c.write src).map .written id
  | .read n => (c.read n).map .got id
  | .resume n => (c.resume n).map .got id
  | .poll n w => (c.poll n w).map .got id
  | .closeWriter => (.done, c.closeWriter)
  | .close => (.done, c.close)

/-- Acts one after another: the log and the channel in the end. -/
def run : Channel → List Act → Log × Channel
  | c, [] => ([], c)
  | c, a :: more => ((a, (c.step a).1) :: (run (c.step a).2 more).1, (run (c.step a).2 more).2)

theorem run_eq_perform (c : Channel) (acts : List Act) : c.run acts = perform step c acts := by
  induction acts generalizing c with
  | nil => rfl
  | cons a acts ih => rw [run, perform, ih]

theorem run_eq_append {c : Channel} {acts : List Act} {before after : Log} {a : Act} {answer : Answer}
    (h : (c.run acts).1 = before ++ (a, answer) :: after) :
    (c.run (before.map Prod.fst)).1 = before ∧ ((c.run (before.map Prod.fst)).2.step a).1 = answer ∧
      (((c.run (before.map Prod.fst)).2.step a).2.run (after.map Prod.fst)).1 = after := by
  simp only [run_eq_perform] at h ⊢
  exact ⟨(perform_eq_append h).1, answer_of_perform h⟩

/-! ## What an act can do -/

/-- All that an act can do to a channel with a history. -/
inductive Served (c : Channel) (h : Ring.History) : Act → Answer → Channel → Ring.History → Prop where
  | refused {memory : Memory} {src : Bytes} (hclosed : c.writerOpen = false) :
      Served c h (.write memory src) (.written (.error .closed)) c h
  | full {memory : Memory} {src : Bytes} {needed length : Nat} (hopen : c.writerOpen = true) :
      Served c h (.write memory src) (.written (.error (.capacityExceeded needed length))) c h
  | stored {memory : Memory} {src : Bytes} {r : Ring} (hopen : c.writerOpen = true) (hwindow : r.window = c.ring.window)
      (hr : r.Represents (h.written c.ring.window src) ((h.bytes ++ src).length - c.ring.window)) :
      Served c h (.write memory src) (.written (.ok ())) (notify { c with ring := r }) (h.written c.ring.window src)
  | shut {a : Act} (hstarts : a.startsRead = true) (hclosed : c.readerOpen = false) :
      Served c h a (.got (.failed .closed)) c h
  | waits {a : Act} (waiting : Option Waiter) (hclosed : a.closesWriter = false ∧ a.closesReader = false)
      (hreader : c.readerOpen = true) (hwriter : c.writerOpen = true) (hnothing : h.pending = []) :
      Served c h a (.got .pending) { c with waiting } h
  | takes {a : Act} {r : Ring} (hasked : a.asked ≠ 0) (hstarts : a.startsRead = true → c.readerOpen = true)
      (hready : h.pending = [] → c.readerOpen = false ∨ c.writerOpen = false) (hwindow : r.window = c.ring.window)
      (hr : r.Represents (h.taken (h.pending.take a.asked).length) (h.bytes.length - c.ring.window)) :
      Served c h a (.got (.data (h.pending.take a.asked))) { c with ring := r }
        (h.taken (h.pending.take a.asked).length)
  | closedWriter : Served c h .closeWriter .done c.closeWriter h
  | closed : Served c h .close .done c.close h

variable {c : Channel} {h : Ring.History}

theorem available_eq (hr : c.ring.Represents h (h.bytes.length - c.ring.window)) :
    c.available = .ok h.pending.length := by
  obtain ⟨free, hold⟩ := hr.holds
  unfold available onRing
  rw [hold.run_unread]

theorem take_eq (hr : c.ring.Represents h (h.bytes.length - c.ring.window)) (n : Nat) :
    ∃ r, c.take n = (.data (h.pending.take n), { c with ring := r }) ∧ r.window = c.ring.window ∧
      r.Represents (h.taken (h.pending.take n).length) (h.bytes.length - c.ring.window) := by
  obtain ⟨r, hrun, hr', hwindow⟩ := hr.run_readInto n
  unfold take onRing
  rw [hrun]
  exact ⟨r, rfl, hwindow, hr'⟩

theorem write_cases (hr : c.ring.Represents h (h.bytes.length - c.ring.window)) (memory : Memory) (src : Bytes) :
    ∃ h', Served c h (.write memory src) (.written (c.write src).1) (c.write src).2 h' := by
  by_cases hopen : c.writerOpen = true
  · rw [write, if_neg (by simp [hopen])]
    unfold onRing
    rcases hr.run_writeFrom src with ⟨r, hrun, hr', hwindow⟩ | ⟨needed, hfull⟩
    · rw [hrun]
      exact ⟨_, .stored hopen hwindow hr'⟩
    · rw [hfull]
      exact ⟨_, .full hopen⟩
  · rw [write, if_pos (by simpa using hopen)]
    exact ⟨h, .refused (by simpa using hopen)⟩

theorem resume_cases (hr : c.ring.Represents h (h.bytes.length - c.ring.window)) {a : Act} (hasked : a.asked ≠ 0)
    (hstarts : a.startsRead = true → c.readerOpen = true) :
    ∃ h', Served c h a (.got (c.resume a.asked).1) (c.resume a.asked).2 h' := by
  have hwait : c.mustWait = .ok (h.pending.length == 0 && c.readerOpen && c.writerOpen) := by
    rw [mustWait, available_eq hr]
    rfl
  rw [resume, hwait]
  rcases hready : h.pending.length == 0 && c.readerOpen && c.writerOpen
  · obtain ⟨r, htake, hwindow, hr'⟩ := take_eq hr a.asked
    simp only [htake]
    refine ⟨_, .takes hasked hstarts (fun hnothing => ?_) hwindow hr'⟩
    simpa [hnothing, imp_iff_not_or] using hready
  · simp only [Bool.and_eq_true, beq_iff_eq, List.length_eq_zero_iff] at hready
    exact ⟨h, .waits c.waiting (by cases a <;> simp_all [Act.asked, Act.closesWriter, Act.closesReader]) hready.1.2
      hready.2 hready.1.1⟩

/-- **Every act does one of the things that `Served` lists.** -/
theorem served_step (hr : c.ring.Represents h (h.bytes.length - c.ring.window)) (a : Act) :
    ∃ h', Served c h a (c.step a).1 (c.step a).2 h' := by
  have hread : ∀ {a : Act}, a.startsRead = true → a.asked ≠ 0 →
      ∃ h', Served c h a (.got (c.read a.asked).1) (c.read a.asked).2 h' := by
    intro a hstarts hasked
    by_cases hopen : c.readerOpen = true
    · rw [read_eq_resume c a.asked hasked hopen]
      exact resume_cases hr hasked fun _ => hopen
    · rw [read, if_neg (by simpa using hasked), if_pos (by simpa using hopen)]
      exact ⟨h, .shut hstarts (by simpa using hopen)⟩
  cases a with
  | write memory src => exact write_cases hr memory src
  | read n => exact hread (a := .read n) rfl n.ne_zero
  | resume n => exact resume_cases hr (a := .resume n) n.ne_zero fun hstarts => absurd hstarts Bool.false_ne_true
  | poll n w =>
    change ∃ h', Served c h (.poll n w) (.got (c.poll n w).1) (c.poll n w).2 h'
    rcases read_poll_cases c n w with ⟨hsame, -⟩ | ⟨⟨-, hnothing, hreader, hwriter⟩, -, hpoll⟩
    · rw [hsame]
      exact hread (a := .poll n w) rfl n.ne_zero
    · rw [available_eq hr] at hnothing
      rw [hpoll]
      exact ⟨h, .waits (some w) ⟨rfl, rfl⟩ hreader hwriter (List.length_eq_zero_iff.mp (Except.ok.inj hnothing))⟩
  | closeWriter => exact ⟨h, .closedWriter⟩
  | close => exact ⟨h, .closed⟩

/-! ## What an act changes -/

namespace Served

variable {a : Act} {answer : Answer} {c' : Channel} {h' : Ring.History}

theorem closes_of_asked (ha : a.asked ≠ 0) : a.closesWriter = false ∧ a.closesReader = false := by
  cases a <;> first | exact ⟨rfl, rfl⟩ | exact absurd rfl ha

theorem closes_of_startsRead (ha : a.startsRead = true) : a.closesWriter = false ∧ a.closesReader = false := by
  cases a <;> first | exact ⟨rfl, rfl⟩ | cases ha

theorem flags (hs : Served c h a answer c' h') :
    c'.writerOpen = (c.writerOpen && !a.closesWriter) ∧ c'.readerOpen = (c.readerOpen && !a.closesReader) := by
  cases hs with
  | refused hclosed => simp [Act.closesWriter, Act.closesReader]
  | full hopen => simp [Act.closesWriter, Act.closesReader]
  | stored hopen hwindow hr => simp [Act.closesWriter, Act.closesReader, notify]
  | shut hstarts hclosed => simp [closes_of_startsRead hstarts]
  | waits waiting hclosed hreader hwriter hnothing => simp [hclosed]
  | takes hasked hstarts hready hwindow hr => simp [closes_of_asked hasked]
  | closedWriter => simp [Act.closesWriter, Act.closesReader, closeWriter, notify]
  | closed => simp [Act.closesWriter, Act.closesReader, close, notify]

theorem represents (hs : Served c h a answer c' h')
    (hr : c.ring.Represents h (h.bytes.length - c.ring.window)) :
    c'.ring.window = c.ring.window ∧ c'.ring.Represents h' (h'.bytes.length - c'.ring.window) := by
  cases hs with
  | stored hopen hwindow hr => exact ⟨hwindow, by rw [notify, hwindow]; exact hr⟩
  | takes hasked hstarts hready hwindow hr => exact ⟨hwindow, by rw [hwindow]; exact hr⟩
  | _ => exact ⟨rfl, hr⟩

theorem bytes (hs : Served c h a answer c' h') : h'.bytes = h.bytes ++ Log.written [(a, answer)] := by
  cases hs with
  | stored hopen hwindow hr => simp [Ring.History.written, Log.written]
  | takes hasked hstarts hready hwindow hr => simp [Ring.History.taken]
  | shut hstarts hclosed => simp
  | waits waiting hclosed hreader hwriter hnothing => simp
  | _ => simp [Log.written]

/-- The bytes that are read come next in the history, as long as none is lost. -/
theorem taken (hs : Served c h a answer c' h') (hnext : h.next ≤ h.bytes.length)
    (hkept : h'.bytes.length ≤ c.ring.window) :
    h'.bytes.take h'.next = h.bytes.take h.next ++ Log.delivered [(a, answer)] := by
  cases hs with
  | @stored memory src r hopen hwindow hr =>
    change (h.bytes ++ src).length ≤ _ at hkept
    rw [Ring.History.written, Nat.sub_eq_zero_of_le hkept, Nat.max_zero, List.take_append_of_le_length hnext]
    simp [Log.delivered]
  | takes hasked hstarts hready hwindow hr =>
    have hsame : h.pending.take (h.pending.take a.asked).length = h.pending.take a.asked := by
      rw [List.take_eq_take_iff, List.length_take]; omega
    rw [Ring.History.taken, List.take_add, ← Ring.History.pending, hsame]
    simp [Log.delivered]
  | _ => simp [Log.delivered]

/-- The end of data is reported when there is nothing to read and a side is closed. -/
theorem at_end (hs : Served c h a answer c' h') (hend : answer = .got (.data [])) :
    h.pending = [] ∧ (c.readerOpen = false ∨ c.writerOpen = false) := by
  cases hs with
  | takes hasked hstarts hready hwindow hr =>
    have htake : h.pending.take a.asked = [] := by simpa using hend
    have hnothing : h.pending = [] := (List.take_eq_nil_iff.mp htake).resolve_left hasked
    exact ⟨hnothing, hready hnothing⟩
  | _ => cases hend

/-- A write and the start of a read fail because of a closed side when their side is closed, and only then. -/
theorem closed_iff (hs : Served c h a answer c' h') :
    (∀ result, answer = .written result → (result = .error .closed ↔ c.writerOpen = false)) ∧
      (a.startsRead = true → (answer = .got (.failed .closed) ↔ c.readerOpen = false)) := by
  cases hs with
  | refused hclosed => simp [hclosed, Act.startsRead]
  | full hopen => simp [hopen, Act.startsRead]
  | stored hopen hwindow hr => simp [hopen, Act.startsRead]
  | shut hstarts hclosed => simp [hclosed]
  | waits waiting hclosed hreader hwriter hnothing => simp [hreader]
  | takes hasked hstarts hready hwindow hr => simp +contextual [hstarts]
  | closedWriter => simp [Act.startsRead]
  | closed => simp [Act.startsRead]

theorem ended (hs : Served c h a answer c' h') (hclosed : c.writerOpen = false) (hnothing : h.pending = []) :
    h'.pending = [] ∧ Log.delivered [(a, answer)] = [] ∧ Log.written [(a, answer)] = [] ∧
      ∀ result, answer = .written result → result = .error .closed := by
  cases hs with
  | refused hclosed => simp [hnothing, Log.delivered, Log.written]
  | full hopen => rw [hclosed] at hopen; cases hopen
  | stored hopen hwindow hr => rw [hclosed] at hopen; cases hopen
  | waits waiting hclosed hreader hwriter hnothing => simp [hnothing, Log.delivered]
  | takes hasked hstarts hready hwindow hr =>
    have hsame : (h.taken 0).pending = [] := hnothing
    simp [hnothing, hsame, Log.delivered]
  | shut hstarts hclosed => simp [hnothing, Log.delivered]
  | closedWriter => simp [hnothing, Log.delivered, Log.written]
  | closed => simp [hnothing, Log.delivered, Log.written]

end Served

/-! ## What a log tells -/

/-- What the log tells of a channel with a window of `w` bytes. -/
structure Tells (w : Nat) (log : Log) (c : Channel) (h : Ring.History) : Prop where
  window : c.ring.window = w
  represents : c.ring.Represents h (h.bytes.length - c.ring.window)
  bytes : h.bytes = log.written
  writerOpen : c.writerOpen = !log.any fun e => e.1.closesWriter
  readerOpen : c.readerOpen = !log.any fun e => e.1.closesReader
  delivered : w = unbounded → log.delivered = h.bytes.take h.next

namespace Tells

variable {w : Nat} {log : Log}

theorem ofSize (w : Nat) {size : Nat} (hsize : size < 2 ^ 63) : Tells w [] (ofSize w size) .empty where
  window := rfl
  represents := Ring.represents_ofSize w hsize
  bytes := rfl
  writerOpen := rfl
  readerOpen := rfl
  delivered := fun _ => rfl

theorem writer_closed_iff (ht : Tells w log c h) : c.writerOpen = false ↔ ∃ e ∈ log, e.1.closesWriter = true := by
  rw [ht.writerOpen, Bool.not_eq_false', List.any_eq_true]

theorem reader_closed_iff (ht : Tells w log c h) : c.readerOpen = false ↔ ∃ e ∈ log, e.1.closesReader = true := by
  rw [ht.readerOpen, Bool.not_eq_false', List.any_eq_true]

theorem writer_closed_of_reader_closed (ht : Tells w log c h) (hclosed : c.readerOpen = false) :
    c.writerOpen = false := by
  obtain ⟨e, hmem, he⟩ := ht.reader_closed_iff.mp hclosed
  refine ht.writer_closed_iff.mpr ⟨e, hmem, ?_⟩
  rcases e with ⟨_ | _ | _ | _ | _ | _, answer⟩ <;> first | rfl | cases he

/-- **One act** and its answer are told by the next entry. -/
theorem step (ht : Tells w log c h) (a : Act) :
    ∃ h', Served c h a (c.step a).1 (c.step a).2 h' ∧ Tells w (log ++ [(a, (c.step a).1)]) (c.step a).2 h' := by
  obtain ⟨h', hserved⟩ := served_step ht.represents a
  obtain ⟨hwriter, hreader⟩ := hserved.flags
  obtain ⟨hwindow, hrepresents⟩ := hserved.represents ht.represents
  refine ⟨h', hserved, hwindow.trans ht.window, hrepresents, ?_, ?_, ?_, fun hw => ?_⟩
  · rw [hserved.bytes, ht.bytes, Log.written_append]
  · rw [hwriter, ht.writerOpen]; simp
  · rw [hreader, ht.readerOpen]; simp
  · -- a ring has less slots than a window without bound has places
    have hkept : h'.bytes.length ≤ c.ring.window := by
      obtain ⟨free, hold⟩ := hrepresents.holds
      have hlt := hold.length_lt
      have hroom := hrepresents.room_lt
      rw [hwindow] at hroom
      rw [ht.window, hw, unbounded, Word.size] at *
      omega
    rw [hserved.taken ht.represents.next_le hkept, Log.delivered_append, ht.delivered hw]

/-- **All acts** and their answers are told by the log. -/
theorem run (ht : Tells w log c h) (acts : List Act) : ∃ h', Tells w (log ++ (c.run acts).1) (c.run acts).2 h' := by
  induction acts generalizing log c h with
  | nil => exact ⟨h, by simpa [Channel.run] using ht⟩
  | cons a acts ih =>
    obtain ⟨h₁, -, ht₁⟩ := ht.step a
    obtain ⟨h', ht'⟩ := ih ht₁
    exact ⟨h', by simpa [Channel.run] using ht'⟩

end Tells

/-! ## The end of data -/

/-- Nothing comes after the end of data: no byte is read, and no write succeeds. -/
theorem run_of_ended (hr : c.ring.Represents h (h.bytes.length - c.ring.window)) (hclosed : c.writerOpen = false)
    (hnothing : h.pending = []) (acts : List Act) :
    (c.run acts).1.delivered = [] ∧ (c.run acts).1.written = [] ∧
      ∀ e ∈ (c.run acts).1, ∀ result, e.2 = .written result → result = .error .closed := by
  induction acts generalizing c h with
  | nil => exact ⟨rfl, rfl, List.forall_mem_nil _⟩
  | cons a acts ih =>
    obtain ⟨h', hserved⟩ := served_step hr a
    obtain ⟨hnothing', hdelivered, hwritten, hresult⟩ := hserved.ended hclosed hnothing
    obtain ⟨hdelivered', hwritten', hresult'⟩ := ih (hserved.represents hr).2
      (by rw [hserved.flags.1, hclosed, Bool.false_and]) hnothing'
    rw [run, ← List.singleton_append, Log.delivered_append, Log.written_append, hdelivered, hdelivered', hwritten,
      hwritten']
    exact ⟨rfl, rfl, List.forall_mem_cons.mpr ⟨hresult, hresult'⟩⟩

/-- **A channel delivers a stream.** Whatever the writer, the reader and the owner of a channel do, in whatever order,
and whatever the window and the first length of the ring (memory has no block of `2 ^ 63` bytes):
* without a bound on the window, the bytes delivered so far are a prefix of those written, and the others are
  unread;
* when a read reports the end of data, the writer's side is closed and no byte is unread; no byte is delivered after
  that, and every write fails; without a bound on the window, exactly the bytes written were delivered;
* a write fails because the channel is closed exactly after a closing of the writer's side, and a read that starts
  fails so exactly after a closing of both sides;
* a poll does what a waiting read does, whatever state the channel is in, unless the waiting read has to wait, because
  nothing is unread and both sides are open; then the poll leaves the name of the reader, and that is all it does. -/
theorem run_delivers (w size : Nat) (hsize : size < 2 ^ 63) (acts : List Act) :
    let log := ((ofSize w size).run acts).1
    let ring := ((ofSize w size).run acts).2.ring
    (w = unbounded → log.delivered <+: log.written ∧
      Ring.unreadBytes.run ring = .ok (log.written.drop log.delivered.length) ring) ∧
    (∀ (before : Log) (a : Act) (after : Log), log = before ++ (a, .got (.data [])) :: after →
      (∃ e ∈ before, e.1.closesWriter = true) ∧
      ((ofSize w size).run (before.map Prod.fst)).2.available = .ok 0 ∧
      after.delivered = [] ∧
      (∀ e ∈ after, ∀ result, e.2 = .written result → result = .error .closed) ∧
      (w = unbounded → before.delivered = log.written)) ∧
    (∀ (before : Log) (a : Act) (answer : Answer) (after : Log), log = before ++ (a, answer) :: after →
      (∀ result, answer = .written result → (result = .error .closed ↔ ∃ e ∈ before, e.1.closesWriter = true)) ∧
      (a.startsRead = true → (answer = .got (.failed .closed) ↔ ∃ e ∈ before, e.1.closesReader = true))) ∧
    ∀ (c : Channel) (n : Nat) (name : Waiter),
      ((c.poll n name).1 ≠ .pending → c.read n = c.poll n name) ∧
      ((c.poll n name).1 = .pending ↔ (c.read n).1 = .pending) ∧
      ((c.read n).1 = .pending ↔ n ≠ 0 ∧ c.available = .ok 0 ∧ c.readerOpen = true ∧ c.writerOpen = true) ∧
      ((c.poll n name).1 = .pending → (c.read n).2 = c ∧ (c.poll n name).2 = { c with waiting := some name }) := by
  intro log ring
  have hstart := Tells.ofSize w hsize
  refine ⟨fun hw => ?_, fun before a after hlog => ?_, fun before a answer after hlog => ?_, fun c n name => ?_⟩
  · obtain ⟨h, ht⟩ := hstart.run acts
    rw [List.nil_append] at ht
    rw [ht.delivered hw, ← ht.bytes, List.length_take, Nat.min_eq_left ht.represents.next_le]
    exact ⟨List.take_prefix _ _, ht.represents.run_unreadBytes⟩
  · obtain ⟨hbefore, hanswer, hafter⟩ := run_eq_append hlog
    obtain ⟨h, ht⟩ := hstart.run (before.map Prod.fst)
    rw [List.nil_append, hbefore] at ht
    obtain ⟨h', hserved, ht'⟩ := ht.step a
    obtain ⟨hnothing, hside⟩ := hserved.at_end hanswer
    have hclosed : ((ofSize w size).run (before.map Prod.fst)).2.writerOpen = false :=
      hside.elim ht.writer_closed_of_reader_closed id
    obtain ⟨hnothing', -, hwritten, -⟩ := hserved.ended hclosed hnothing
    obtain ⟨hdelivered, hwritten', hresult⟩ := run_of_ended ht'.represents
      (by rw [hserved.flags.1, hclosed, Bool.false_and]) hnothing' (after.map Prod.fst)
    rw [hafter] at hdelivered hwritten' hresult
    refine ⟨ht.writer_closed_iff.mp hclosed, ?_, hdelivered, hresult, fun hw => ?_⟩
    · rw [available_eq ht.represents, hnothing]
      rfl
    · have hall : h.bytes.take h.next = h.bytes := List.take_of_length_le (List.drop_eq_nil_iff.mp hnothing)
      rw [hanswer] at hwritten
      rw [ht.delivered hw, hall, ht.bytes, hlog, ← List.singleton_append, Log.written_append, Log.written_append,
        hwritten, hwritten', List.append_nil, List.append_nil]
  · obtain ⟨hbefore, hanswer, -⟩ := run_eq_append hlog
    obtain ⟨h, ht⟩ := hstart.run (before.map Prod.fst)
    rw [List.nil_append, hbefore] at ht
    obtain ⟨h', hserved, -⟩ := ht.step a
    rw [← ht.writer_closed_iff, ← ht.reader_closed_iff, ← hanswer]
    exact hserved.closed_iff
  · rcases read_poll_cases c n name with ⟨hsame, hready, hnot⟩ | ⟨hwait, hread, hpoll⟩
    · simp [hsame, hready, hnot]
    · simp [hread, hpoll, hwait]

/-- A reader waits and is given the bytes in two parts and then the end of data; the writer comes too late with one
more byte. -/
theorem run_delivers_two_parts :
    let before : Log := [(.read 2, .got .pending), (.write .plenty [1, 2, 3], .written (.ok ())),
      (.resume 2, .got (.data [1, 2])), (.closeWriter, .done), (.poll 4 7, .got (.data [3]))]
    let after : Log := [(.write .plenty [4], .written (.error .closed))]
    8 < 2 ^ 63 ∧ (∃ e ∈ before, e.1.closesWriter = true) ∧
      before.delivered = Log.written (before ++ (.read 4, .got (.data [])) :: after) := by
  intro before after
  have hlog : ((ofSize unbounded 8).run
        [.read 2, .write .plenty [1, 2, 3], .resume 2, .closeWriter, .poll 4 7, .read 4, .write .plenty [4]]).1 =
      [(.read 2, .got .pending), (.write .plenty [1, 2, 3], .written (.ok ())), (.resume 2, .got (.data [1, 2])),
        (.closeWriter, .done), (.poll 4 7, .got (.data [3]))] ++
      (.read 4, .got (.data [])) :: [(.write .plenty [4], .written (.error .closed))] := rfl
  obtain ⟨-, hend, -⟩ := run_delivers unbounded 8 (by decide)
    [.read 2, .write .plenty [1, 2, 3], .resume 2, .closeWriter, .poll 4 7, .read 4, .write .plenty [4]]
  obtain ⟨hclosed, -, -, -, hall⟩ := hend _ _ _ hlog
  rw [hlog] at hall
  exact ⟨by decide, hclosed, hall rfl⟩

end Dialogue.Channel
