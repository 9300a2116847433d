import Dialogue.Proofs.Process.Output
import Dialogue.Proofs.Sink

/-!
# Input through a channel

The holder of the writer puts bytes into a channel, and a copier takes them out and writes them to the command, portion
by portion. The command receives the bytes that were written, in order and each of them once; it is shut down after the
last of them, and only then.

* `InputPipe.Tells`: what a log tells of an input stream;
* `InputPipe.Tells.fetch`, `InputPipe.Tells.writeBlock`, `InputPipe.Tells.close`: what the copier does in a step;
* **`InputPipe.Tells.act`**: one act is told by the next entry;
* `InputPipe.Tells.received_eq`: how much the command has received;
* `InputPipe.Refused`, `InputPipe.act_of_over`: a copier that fails, and one that is over.
-/

namespace Dialogue.InputPipe

/-- The acts that close the writer's side. -/
def Act.closes : Act → Bool
  | .close | .finish => true
  | .copy | .take | .write _ _ => false

/-! ## A step of the copier -/

section Step

variable {p : InputPipe}

theorem not_done (hrun : p.copier = .running) : p.copier ≠ .ended .done := by
  rw [hrun]
  exact Copier.noConfusion

theorem step_of_over (hover : p.copier ≠ .running) : p.step = p := by
  unfold step
  split <;> simp_all

theorem step_of_block (hrun : p.copier = .running) (hblock : p.block ≠ []) : p.step = p.writeBlock := by
  unfold step
  rw [hrun]
  exact if_neg (by simpa using hblock)

end Step

/-! ## What a log tells -/

/-- What the log tells of an input stream. What was taken out of the channel was received or is in the block; and the
command is not shut down before everything was copied, but then it is, and nothing is left. -/
structure Tells (log : Log) (p : InputPipe) (h : Ring.History) : Prop where
  window : p.channel.ring.window = Channel.unbounded
  represents : p.channel.ring.Represents h (h.bytes.length - p.channel.ring.window)
  written : h.bytes = log.written
  received : p.sink.received ++ p.block = h.bytes.take h.next
  closed : p.channel.writerOpen = false → ∃ e ∈ log, e.1.closes = true
  running : p.copier = .running → p.channel.readerOpen = true
  present : p.copier ≠ .absent
  inUse : p.copier ≠ .ended .done → p.sink.InUse
  done : p.copier = .ended .done → p.channel.writerOpen = false ∧ h.pending = [] ∧ p.block = [] ∧
    ∃ s : Sink, s.InUse ∧ p.sink.received = s.received ∧ p.sink.events = .shutdown :: s.events ∧
      p.sink.taken = s.taken

namespace Tells

variable {log : Log} {p : InputPipe} {h : Ring.History}

theorem start (b : Sink.Behaviour) : Tells [] ⟨.new, .ofBehaviour b, [], false, .running⟩ .empty where
  window := rfl
  represents := (Channel.Tells.ofSize Channel.unbounded (by decide)).represents
  written := rfl
  received := rfl
  closed := fun hclosed => by cases hclosed
  running := fun _ => rfl
  present := nofun
  inUse := fun _ => Sink.inUse_ofBehaviour b
  done := fun hdone => by cases hdone

/-- **The command has received the first bytes that were written**, as many as its input has taken. -/
theorem received_eq (ht : Tells log p h) : p.sink.received = log.written.take p.sink.taken := by
  have hcounted : p.sink.taken = p.sink.received.length := by
    by_cases hdone : p.copier = .ended .done
    · obtain ⟨-, -, -, s, hs, hreceived, -, htaken⟩ := ht.done hdone
      rw [htaken, hreceived, hs.counted]
    · exact (ht.inUse hdone).counted
  have hprefix : p.sink.received <+: log.written := by
    rw [← ht.written]
    exact (List.prefix_append _ _).trans (ht.received ▸ List.take_prefix _ _)
  rw [hcounted]
  exact List.prefix_iff_eq_take.mp hprefix

theorem received_of_done (ht : Tells log p h) (hdone : p.copier = .ended .done) : p.sink.received = log.written := by
  obtain ⟨-, hnothing, hblock, -⟩ := ht.done hdone
  have hreceived := ht.received
  rw [hblock, List.append_nil, List.take_of_length_le (List.drop_eq_nil_iff.mp hnothing)] at hreceived
  rw [hreceived, ht.written]

/-! ## The writer's side -/

theorem quiet (ht : Tells log p h) (a : Act) : Tells (log ++ [(a, .done)]) p h := by
  have hnone : Log.written [(a, .done)] = [] := by cases a <;> rfl
  refine { ht with written := ?_, closed := fun hclosed => ?_ }
  · rw [Log.written_append, hnone, List.append_nil, ht.written]
  · obtain ⟨e, he, hcloses⟩ := ht.closed hclosed
    exact ⟨e, List.mem_append_left _ he, hcloses⟩

theorem closeWriter (ht : Tells log p h) {a : Act} (ha : a.closes = true) :
    Tells (log ++ [(a, .done)]) { p with channel := p.channel.closeWriter } h := by
  have ht' := ht.quiet a
  refine { ht' with closed := fun _ => ⟨(a, .done), by simp, ha⟩, done := fun hdone => ?_ }
  exact ⟨rfl, (ht.done hdone).2⟩

theorem write (ht : Tells log p h) (memory : Memory) (src : Bytes) :
    ∃ h', Tells (log ++ [(.write memory src, .written (p.channel.write src).1)])
      { p with channel := (p.channel.write src).2 } h' := by
  obtain ⟨h', hserved⟩ := Channel.write_cases ht.represents memory src
  obtain ⟨hwindow, hrepresents⟩ := hserved.represents ht.represents
  obtain ⟨hwriter, hreader⟩ := hserved.flags
  have hsame : Channel.Log.written [(.write memory src, .written (p.channel.write src).1)] =
      Log.written [(.write memory src, .written (p.channel.write src).1)] := by
    rcases (p.channel.write src).1 with e | _ <;> rfl
  have hkept := Channel.length_le_unbounded hrepresents (hwindow.trans ht.window)
  have htaken := hserved.taken ht.represents.next_le (hwindow ▸ hkept)
  rw [show Channel.Log.delivered [(.write memory src, .written (p.channel.write src).1)] = [] from rfl,
    List.append_nil] at htaken
  refine ⟨h', hwindow.trans ht.window, hrepresents, ?_, ht.received.trans htaken.symm, fun hclosed => ?_,
    fun hrun => ?_, ht.present, ht.inUse, fun hdone => ?_⟩
  · rw [hserved.bytes, hsame, ht.written, Log.written_append]
  · rw [hwriter, show Channel.Act.closesWriter (.write memory src) = false from rfl, Bool.not_false, Bool.and_true]
      at hclosed
    obtain ⟨e, he, hcloses⟩ := ht.closed hclosed
    exact ⟨e, List.mem_append_left _ he, hcloses⟩
  · rw [hreader, ht.running hrun]
    rfl
  · -- after the closing no write succeeds
    obtain ⟨hclosed, hnothing, hrest⟩ := ht.done hdone
    obtain ⟨hnothing', -⟩ := hserved.ended hclosed hnothing
    exact ⟨by rw [hwriter, hclosed, Bool.false_and], hnothing', hrest⟩

/-! ## The copier -/

theorem fail (ht : Tells log p h) {sink : Sink} (hgets : p.sink.Gets [] sink) (hsink : sink.InUse) (reason : Text) :
    Tells log (InputPipe.finish { p with sink } (.failed reason)) h where
  window := ht.window
  represents := ht.represents
  written := ht.written
  received := by
    have hsame := hgets.received
    rw [List.append_nil] at hsame
    change sink.received ++ p.block = _
    rw [hsame, ht.received]
  closed := ht.closed
  running := nofun
  present := nofun
  inUse := fun _ => hsink
  done := nofun

theorem fetch (ht : Tells log p h) (hrun : p.copier = .running) (hblock : p.block = []) {answer : Channel.Answer}
    {channel : Channel} {h' : Ring.History} (hc : Channel.Consumes p.channel h answer channel h')
    (hreader : channel.readerOpen = true) : Tells log { p with channel, block := answer.bytes } h' where
  window := hc.window.trans ht.window
  represents := hc.represents
  written := hc.bytes.trans ht.written
  received := by
    have hreceived := ht.received
    rw [hblock, List.append_nil] at hreceived
    rw [hc.taken, ← hreceived]
  closed := fun hclosed => ht.closed (hc.writerOpen ▸ hclosed)
  running := fun _ => hreader
  present := ht.present
  inUse := ht.inUse
  done := fun hdone => absurd hdone (not_done hrun)

theorem writeBlock (ht : Tells log p h) (hrun : p.copier = .running) : Tells log p.writeBlock h := by
  have hinUse : p.sink.InUse := ht.inUse (not_done hrun)
  have hwritten := hinUse.write p.block
  unfold InputPipe.writeBlock
  rcases hwrite : p.sink.write p.block with ⟨reason | n, sink⟩ <;> rw [hwrite] at hwritten
  · have hfault : p.sink.Gets [] sink ∧ sink.WriteFault [] reason := Sink.write_eq_error hwrite
    exact ht.fail hfault.1 hwritten reason
  · have hgets := Sink.write_eq_ok hwrite
    cases n with
    | zero => exact ht.fail hgets hwritten _
    | succ n =>
      refine { ht with received := ?_, inUse := fun _ => hwritten, done := fun hdone => absurd hdone (not_done hrun) }
      change sink.received ++ p.block.drop (n + 1) = _
      rw [hgets.received, List.append_assoc, List.take_append_drop, ht.received]

theorem flushIdle (ht : Tells log p h) (hrun : p.copier = .running) : Tells log p.flushIdle h := by
  have hinUse : p.sink.InUse := ht.inUse (not_done hrun)
  have hflushed := hinUse.flush
  unfold InputPipe.flushIdle
  rcases hflush : p.sink.flush with ⟨reason | _, sink⟩ <;> rw [hflush] at hflushed
  · exact ht.fail (Sink.flush_eq_error hflush).1 hflushed reason
  · have hgets := Sink.flush_eq_ok hflush
    refine { ht with received := ?_, inUse := fun _ => hflushed, done := fun hdone => absurd hdone (not_done hrun) }
    change sink.received ++ p.block = _
    rw [hgets.received, List.append_nil, ht.received]

theorem close (ht : Tells log p h) (hrun : p.copier = .running) (hblock : p.block = []) (hnothing : h.pending = [])
    (hclosed : p.channel.writerOpen = false) : Tells log p.close h := by
  have hinUse : p.sink.InUse := ht.inUse (not_done hrun)
  have hflushed := hinUse.flush
  unfold InputPipe.close
  rcases hflush : p.sink.flush with ⟨reason | _, sink₁⟩ <;> rw [hflush] at hflushed
  · exact ht.fail (Sink.flush_eq_error hflush).1 hflushed reason
  · have hgets₁ := Sink.flush_eq_ok hflush
    simp only
    rcases hshut : sink₁.shutdown with ⟨reason | _, sink₂⟩
    · obtain ⟨hgets₂, hsink₂⟩ := Sink.shutdown_eq_error hshut hflushed
      exact ht.fail (hgets₁.trans hgets₂) hsink₂ reason
    · obtain ⟨hgets₂, hevents, htaken⟩ := Sink.shutdown_eq_ok hshut
      have hsame := hgets₂.received
      have hreceived := (hgets₁.trans hgets₂).received
      rw [List.append_nil] at hsame
      refine ⟨ht.window, ht.represents, ht.written, ?_, ht.closed, nofun, nofun, fun hnot => absurd rfl hnot,
        fun _ => ⟨hclosed, hnothing, hblock, sink₁, hflushed, hsame, hevents, htaken⟩⟩
      change sink₂.received ++ p.block = _
      rw [hreceived, List.append_nil, List.append_nil, ht.received]

theorem copy_of_nothing (ht : Tells log p h) (hrun : p.copier = .running) (hblock : p.block = []) :
    ∃ h', Tells log p.step h' := by
  obtain ⟨channel, sink, block, flushDue, copier⟩ := p
  obtain rfl : copier = .running := hrun
  obtain rfl : block = [] := hblock
  have hreader : channel.readerOpen = true := ht.running rfl
  obtain ⟨h', hserved⟩ := Channel.served_step ht.represents (.poll ⟨Copier.blockSize, by decide⟩ waiter)
  change channel.Served h _ (.got (channel.poll Copier.blockSize waiter).1) (channel.poll Copier.blockSize waiter).2 h'
    at hserved
  have hc := hserved.consumes ht.represents (by decide)
  have hreader' : (channel.poll Copier.blockSize waiter).2.readerOpen = true := by
    rw [hserved.flags.2, hreader]
    rfl
  unfold step
  simp only [List.isEmpty_nil, if_true]
  rcases hpoll : channel.poll Copier.blockSize waiter with ⟨result, channel'⟩
  rw [hpoll] at hserved hc hreader'
  have hfetch := ht.fetch rfl rfl hc hreader'
  refine ⟨h', ?_⟩
  cases result with
  | data bytes =>
    cases bytes with
    | nil =>
      obtain ⟨hnothing, hside⟩ := hserved.at_end rfl
      have hclosed : channel.writerOpen = false := hside.resolve_left (by simp [hreader])
      exact hfetch.close rfl rfl (hc.nothing hnothing) (hc.writerOpen.trans hclosed)
    | cons b rest => exact hfetch
  | pending =>
    simp only
    split_ifs
    · exact hfetch.flushIdle rfl
    · exact hfetch
  | failed e =>
    -- only a closed side fails a read
    cases hserved with
    | shut hstarts hclosed =>
      rw [hreader] at hclosed
      cases hclosed

theorem copy (ht : Tells log p h) : ∃ h', Tells log p.step h' := by
  by_cases hrun : p.copier = .running
  · by_cases hblock : p.block = []
    · exact ht.copy_of_nothing hrun hblock
    · rw [step_of_block hrun hblock]
      exact ⟨h, ht.writeBlock hrun⟩
  · rw [step_of_over hrun]
    exact ⟨h, ht⟩

/-- **One act** and its answer are told by the next entry. -/
theorem act (ht : Tells log p h) (a : Act) : ∃ h', Tells (log ++ [(a, (p.act a).1)]) (p.act a).2 h' := by
  cases a with
  | copy =>
    obtain ⟨h', ht'⟩ := ht.copy
    exact ⟨h', ht'.quiet .copy⟩
  | take =>
    have ht' := ht.quiet .take
    exact ⟨h, ht'.window, ht'.represents, ht'.written, ht'.received, ht'.closed, ht'.running, ht'.present, ht'.inUse,
      ht'.done⟩
  | write memory src =>
    rw [InputPipe.act]
    split_ifs
    · exact ht.write memory src
    · exact ⟨h, ht.quiet (.write memory src)⟩
  | close =>
    rw [InputPipe.act]
    split_ifs
    · exact ⟨h, ht.closeWriter rfl⟩
    · exact ⟨h, ht.quiet .close⟩
  | finish => exact ⟨h, ht.closeWriter rfl⟩

end Tells

/-! ## The end of a copier -/

/-- Nothing is done to the command by a copier that is over. -/
theorem act_of_over {p : InputPipe} (hover : p.copier ≠ .running) (a : Act) :
    (p.act a).2.copier = p.copier ∧ (p.act a).2.sink = p.sink := by
  cases a with
  | copy => exact ⟨congrArg copier (step_of_over hover), congrArg sink (step_of_over hover)⟩
  | write src =>
    rw [act]
    split_ifs <;> exact ⟨rfl, rfl⟩
  | close =>
    rw [act]
    split_ifs <;> exact ⟨rfl, rfl⟩
  | take => exact ⟨rfl, rfl⟩
  | finish => exact ⟨rfl, rfl⟩

/-- The sink refuses the next portion: it fails, or takes nothing of it. -/
def Refused (p : InputPipe) (reason : Text) : Prop :=
  p.copier = .running ∧ p.block ≠ [] ∧ ((p.sink.write p.block).1 = .error reason ∨
    (p.sink.write p.block).1 = .ok 0 ∧ reason = Text.lit "write zero byte into writer")

theorem Refused.step {p : InputPipe} {reason : Text} (h : p.Refused reason) :
    p.step.copier = .ended (.failed reason) ∧ p.step.sink.taken = p.sink.taken := by
  obtain ⟨hrun, hblock, hrefused⟩ := h
  rw [step_of_block hrun hblock, writeBlock]
  rcases hanswer : p.sink.write p.block with ⟨result, sink⟩
  rw [hanswer] at hrefused
  rcases hrefused with rfl | ⟨rfl, rfl⟩
  · exact ⟨rfl, Sink.taken_of_refused hanswer nofun⟩
  · exact ⟨rfl, Sink.taken_of_refused hanswer nofun⟩

end Dialogue.InputPipe
