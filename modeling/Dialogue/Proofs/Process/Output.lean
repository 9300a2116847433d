import Dialogue.Proofs.Process.Acts

/-!
# Output behind a channel

A copier moves the bytes of a command's output into a channel, and the holder of the reader takes them out of it. What
was copied does not depend on the reader, and as long as no byte leaves the window, the reader takes all of it in
order.

* `Source.output`: the bytes that a stream delivers;
* `Channel.Consumes`, `Channel.serveReader_consumes`: all that the holder of a reader changes;
* `Channel.reads_of_writer_closed`: what it is given after the end of writing;
* `OutputPipe.Tells`: what a log tells of an output stream;
* **`OutputPipe.Tells.act`**: one act is told by the next entry;
* `OutputPipe.Duplicated`, **`OutputPipe.Tells.duplicated`**: what the channel shows and the reader is given.
-/

namespace Dialogue

/-- The bytes that a stream delivers before it ends or fails. -/
def Source.output : Source → Bytes
  | [] => []
  | .data bs :: more => bs ++ output more
  | .pause :: more => output more
  | .finish :: _ | .fail _ :: _ | .panic _ :: _ => []

/-! ## The reader's side -/

namespace Channel

variable {c c' : Channel} {h h' : Ring.History}

/-- A ring has less slots than a window without bound has places. -/
theorem length_le_unbounded (hr : c.ring.Represents h (h.bytes.length - c.ring.window))
    (hw : c.ring.window = unbounded) : h.bytes.length ≤ c.ring.window := by
  obtain ⟨free, hold⟩ := hr.holds
  have hlt := hold.length_lt
  have hroom := hr.room_lt
  rw [hw, unbounded, Word.size] at *
  omega

/-- What an act on the reader's side changes: the bytes that come next are taken, and that is all. -/
structure Consumes (c : Channel) (h : Ring.History) (answer : Answer) (c' : Channel) (h' : Ring.History) : Prop where
  bytes : h'.bytes = h.bytes
  taken : h'.bytes.take h'.next = h.bytes.take h.next ++ answer.bytes
  nothing : h.pending = [] → h'.pending = []
  window : c'.ring.window = c.ring.window
  represents : c'.ring.Represents h' (h'.bytes.length - c'.ring.window)
  writerOpen : c'.writerOpen = c.writerOpen

theorem Consumes.rest (hr : c.ring.Represents h (h.bytes.length - c.ring.window)) {answer : Answer}
    (hanswer : answer.bytes = []) (hring : c'.ring = c.ring) (hwriter : c'.writerOpen = c.writerOpen) :
    Consumes c h answer c' h where
  bytes := rfl
  taken := by rw [hanswer, List.append_nil]
  nothing := id
  window := by rw [hring]
  represents := by rwa [hring]
  writerOpen := hwriter

theorem Served.consumes {a : Act} {answer : Answer} (hs : Served c h a answer c' h')
    (hr : c.ring.Represents h (h.bytes.length - c.ring.window)) (hasked : a.asked ≠ 0) : Consumes c h answer c' h' := by
  cases hs with
  | shut hstarts hclosed => exact .rest hr rfl rfl rfl
  | waits waiting hclosed hreader hwriter hnothing => exact .rest hr rfl rfl rfl
  | takes _ hstarts hready hwindow hr' =>
    have hsame : h.pending.take (h.pending.take a.asked).length = h.pending.take a.asked := by
      rw [List.take_eq_take_iff, List.length_take]; omega
    refine ⟨rfl, ?_, fun hnothing => ?_, hwindow, by rw [hwindow]; exact hr', rfl⟩
    · rw [Ring.History.taken, List.take_add, ← Ring.History.pending, hsame]
      rfl
    · rw [hnothing, List.take_nil]
      exact hnothing
  | _ => exact absurd rfl hasked

/-- **The holder of a reader takes the bytes that come next**, and is given none of them, having asked for some, when
there are none left and the writer's side is closed. -/
theorem serveReader_consumes (hr : c.ring.Represents h (h.bytes.length - c.ring.window)) (hopen : c.readerOpen = true)
    (a : ReaderAct) :
    ∃ h', Consumes c h (c.serveReader a).1 (c.serveReader a).2 h' ∧
      ((c.serveReader a).1 = .got (.data []) → a.asked ≠ 0 → h.pending = [] ∧ c.writerOpen = false) := by
  -- an act that asks for bytes is one on the channel
  have hserved : ∀ a' : Act, a'.asked ≠ 0 → ∃ h', Consumes c h (c.step a').1 (c.step a').2 h' ∧
      ((c.step a').1 = .got (.data []) → h.pending = [] ∧ c.writerOpen = false) := by
    intro a' hasked
    obtain ⟨h', hs⟩ := served_step hr a'
    refine ⟨h', hs.consumes hr hasked, fun hend => ?_⟩
    obtain ⟨hnothing, hside⟩ := hs.at_end hend
    exact ⟨hnothing, hside.resolve_left (by simp [hopen])⟩
  cases a with
  | read n =>
    rcases Nat.eq_zero_or_pos n with rfl | hn
    · exact ⟨h, .rest hr rfl rfl rfl, fun _ hasked => absurd rfl hasked⟩
    · obtain ⟨h', hconsumes, hend⟩ := hserved (.read ⟨n, hn⟩) (Nat.ne_of_gt hn)
      exact ⟨h', hconsumes, fun hnone _ => hend hnone⟩
  | resume n =>
    obtain ⟨h', hconsumes, hend⟩ := hserved (.resume n) n.ne_zero
    exact ⟨h', hconsumes, fun hnone _ => hend hnone⟩
  | poll n w =>
    rcases Nat.eq_zero_or_pos n with rfl | hn
    · exact ⟨h, .rest hr rfl rfl rfl, fun _ hasked => absurd rfl hasked⟩
    · obtain ⟨h', hconsumes, hend⟩ := hserved (.poll ⟨n, hn⟩ w) (Nat.ne_of_gt hn)
      exact ⟨h', hconsumes, fun hnone _ => hend hnone⟩
  | drop => exact ⟨h, .rest hr rfl rfl rfl, fun hnone => by cases hnone⟩

/-- After the end of writing a reader is given what is left, in whatever way it reads. -/
theorem reads_of_writer_closed (hr : c.ring.Represents h (h.bytes.length - c.ring.window))
    (hopen : c.readerOpen = true) (hclosed : c.writerOpen = false) {a : ReaderAct} (hasked : a.asked ≠ 0) :
    (c.serveReader a).1 = .got (.data (h.pending.take a.asked)) := by
  have hresume : ∀ n, (c.resume n).1 = .data (h.pending.take n) := by
    intro n
    have hwait : c.mustWait = .ok false := by
      rw [mustWait, available_eq hr, hclosed]
      simp [Except.map]
    obtain ⟨r, htake, -⟩ := take_eq hr n
    rw [resume, hwait]
    simp only [htake]
  have hread : ∀ n, n ≠ 0 → (c.read n).1 = .data (h.pending.take n) := by
    intro n hn
    rw [read_eq_resume c n hn hopen, hresume]
  cases a with
  | read n => exact congrArg Answer.got (hread n hasked)
  | resume n => exact congrArg Answer.got (hresume n)
  | poll n w =>
    rcases read_poll_cases c n w with ⟨hsame, -⟩ | ⟨⟨-, -, -, hwriter⟩, -⟩
    · exact congrArg Answer.got ((congrArg Prod.fst hsame).trans (hread n hasked))
    · rw [hclosed] at hwriter
      cases hwriter
  | drop => exact absurd rfl hasked

end Channel

/-! ## What a log tells -/

namespace OutputPipe

theorem step_of_over [Memory] {p : OutputPipe} (hover : p.copier ≠ .running) : p.step = p := by
  unfold step
  split <;> simp_all

/-- The copier is over and did not fail. -/
def Complete (p : OutputPipe) : Prop := p.copier = .ended .done ∨ p.copier = .absent

/-- What the log tells of an output stream that began with `source`, behind a channel with a window of `w` bytes. While
the copier runs, what was not copied is still to come, and when it is over, everything was copied, unless it failed; the
end of data is the end. -/
structure Tells (source : Source) (w : Nat) (log : Log) (p : OutputPipe) (h : Ring.History) : Prop where
  window : p.channel.ring.window = w
  represents : p.channel.ring.Represents h (h.bytes.length - p.channel.ring.window)
  running : p.copier = .running → p.channel.writerOpen = true ∧ h.bytes ++ p.source.output = source.output
  stopped : p.copier ≠ .running → p.channel.writerOpen = false ∧ h.bytes <+: source.output ∧
    (h.bytes = source.output ∨ ∃ o, o ≠ .done ∧ p.copier = .ended o)
  delivered : w = Channel.unbounded → log.delivered = h.bytes.take h.next
  ended : ∀ before a after, log = before ++ (a, .got (.data [])) :: after → a.asked ≠ 0 →
    p.channel.writerOpen = false ∧ h.pending = [] ∧ (w = Channel.unbounded → Log.delivered before = h.bytes)

namespace Tells

variable {source : Source} {w : Nat} {log : Log} {p : OutputPipe} {h : Ring.History}

theorem start (source : Source) (w : Nat) :
    Tells source w [] ⟨source, .ofWindow w, .running⟩ .empty where
  window := rfl
  represents := (Channel.Tells.ofSize w (by decide)).represents
  running := fun _ => ⟨rfl, rfl⟩
  stopped := fun hover => absurd rfl hover
  delivered := fun _ => rfl
  ended := fun before a after hlog => absurd hlog (by simp)

theorem prefix_output (ht : Tells source w log p h) : h.bytes <+: source.output := by
  by_cases hrun : p.copier = .running
  · rw [← (ht.running hrun).2]
    exact List.prefix_append _ _
  · exact (ht.stopped hrun).2.1

/-- The next entry brings no bytes and tells of no end, so it tells nothing new. -/
theorem done (ht : Tells source w log p h) (a : Act) : Tells source w (log ++ [(a, .done)]) p h := by
  refine { ht with delivered := fun hw => ?_, ended := fun before b after hlog => ?_ }
  · rw [Log.delivered_append, ht.delivered hw]
    exact List.append_nil _
  · rcases snoc_eq_append_cons hlog with ⟨-, hnew, -⟩ | ⟨after', hold⟩
    · cases hnew
    · exact ht.ended before b after' hold

theorem ended_of_running (ht : Tells source w log p h) (hrun : p.copier = .running) {before after : Log} {a : Act}
    (hlog : log = before ++ (a, .got (.data [])) :: after) : a.asked = 0 := by
  by_contra hasked
  have hclosed := (ht.ended before a after hlog hasked).1
  rw [(ht.running hrun).1] at hclosed
  cases hclosed

theorem finish (ht : Tells source w log p h) (hrun : p.copier = .running) (more : Source) {o : CopyEnd}
    (hdone : o = .done → p.source.output = []) :
    Tells source w log (OutputPipe.finish { p with source := more } o) h where
  window := ht.window
  represents := ht.represents
  running := fun hstill => by cases hstill
  stopped := fun _ => by
    refine ⟨rfl, ht.prefix_output, ?_⟩
    by_cases ho : o = .done
    · have hall := (ht.running hrun).2
      rw [hdone ho, List.append_nil] at hall
      exact .inl hall
    · exact .inr ⟨o, ho, rfl⟩
  delivered := ht.delivered
  ended := fun before a after hlog hasked => absurd (ht.ended_of_running hrun hlog) hasked

theorem move [memory : Memory] (ht : Tells source w log p h) (hrun : p.copier = .running) {bs : Bytes} {more : Source}
    (hsource : p.source.output = bs ++ more.output) :
    ∃ h', Tells source w log
      (match p.channel.write bs with
        | (.ok _, channel) => { p with source := more, channel }
        | (.error e, channel) => OutputPipe.finish { p with source := more, channel } (.failed e.message)) h' := by
  obtain ⟨hopen, hall⟩ := ht.running hrun
  obtain ⟨h', hserved⟩ := Channel.write_cases ht.represents memory bs
  obtain ⟨hwindow, hrepresents⟩ := hserved.represents ht.represents
  have hwriter := hserved.flags.1
  have hbytes := hserved.bytes
  rcases hwrite : p.channel.write bs with ⟨e | _, channel⟩ <;>
    rw [hwrite] at hserved hwindow hrepresents hwriter hbytes
  · -- a write that fails changes nothing
    have hsame : channel = p.channel := by cases hserved <;> rfl
    rw [hsame]
    exact ⟨h, ht.finish hrun more nofun⟩
  · refine ⟨h', ⟨hwindow.trans ht.window, hrepresents, fun _ => ⟨?_, ?_⟩, fun hover => absurd hrun hover,
      fun hw => ?_, fun before a after hlog hasked => absurd (ht.ended_of_running hrun hlog) hasked⟩⟩
    · simpa [hopen, Channel.Act.closesWriter] using hwriter
    · have hwritten : Channel.Log.written [(.write memory bs, .written (.ok ()))] = bs := by simp [Channel.Log.written]
      rw [hbytes, hwritten, List.append_assoc, ← hsource, hall]
    · have hkept : h'.bytes.length ≤ p.channel.ring.window := by
        rw [← hwindow]
        exact Channel.length_le_unbounded hrepresents (hwindow.trans (ht.window.trans hw))
      rw [hserved.taken ht.represents.next_le hkept, ht.delivered hw]
      exact (List.append_nil _).symm

theorem skip (ht : Tells source w log p h) {more : Source} (hsource : p.source.output = more.output) :
    Tells source w log { p with source := more } h where
  window := ht.window
  represents := ht.represents
  running := fun hrun => ⟨(ht.running hrun).1, by rw [← hsource]; exact (ht.running hrun).2⟩
  stopped := ht.stopped
  delivered := ht.delivered
  ended := ht.ended

theorem copy [Memory] (ht : Tells source w log p h) : ∃ h', Tells source w log p.step h' := by
  by_cases hrun : p.copier = .running
  · obtain ⟨events, channel, copier⟩ := p
    obtain rfl : copier = .running := hrun
    rcases events with _ | ⟨bs | _ | _ | reason | text, more⟩
    · exact ⟨h, ht⟩
    · have hrest : (if (bs.drop Copier.blockSize).isEmpty then more
          else .data (bs.drop Copier.blockSize) :: more : Source).output =
            bs.drop Copier.blockSize ++ Source.output more := by
        split_ifs with hempty
        · rw [List.isEmpty_iff.mp hempty, List.nil_append]
        · rfl
      refine ht.move rfl ?_
      rw [hrest, ← List.append_assoc, List.take_append_drop]
      rfl
    · exact ⟨h, ht.skip rfl⟩
    · exact ⟨h, ht.finish rfl more fun _ => rfl⟩
    · exact ⟨h, ht.finish rfl more nofun⟩
    · exact ⟨h, ht.finish rfl more nofun⟩
  · rw [step_of_over hrun]
    exact ⟨h, ht⟩

theorem reader (ht : Tells source w log p h) (hopen : p.channel.readerOpen = true) (a : Channel.ReaderAct) :
    ∃ h', Tells source w (log ++ [(.reader a, (p.channel.serveReader a).1)])
      { p with channel := (p.channel.serveReader a).2 } h' := by
  obtain ⟨h', hc, hend⟩ := Channel.serveReader_consumes ht.represents hopen a
  have hdelivered : w = Channel.unbounded →
      Log.delivered (log ++ [(.reader a, (p.channel.serveReader a).1)]) = h'.bytes.take h'.next := by
    intro hw
    rw [Log.delivered_append, ht.delivered hw, hc.taken]
    exact congrArg _ (List.append_nil _)
  refine ⟨h', hc.window.trans ht.window, hc.represents, fun hrun => ?_, fun hover => ?_, hdelivered,
    fun before b after hlog hasked => ?_⟩
  · rw [hc.bytes]
    exact ⟨hc.writerOpen.trans (ht.running hrun).1, (ht.running hrun).2⟩
  · rw [hc.bytes]
    exact ⟨hc.writerOpen.trans (ht.stopped hover).1, (ht.stopped hover).2⟩
  · rcases snoc_eq_append_cons hlog with ⟨rfl, hnew, -⟩ | ⟨after', hold⟩
    · obtain ⟨rfl, hanswer⟩ := Prod.mk.inj hnew
      obtain ⟨hnothing, hclosed⟩ := hend hanswer hasked
      refine ⟨hc.writerOpen.trans hclosed, hc.nothing hnothing, fun hw => ?_⟩
      rw [ht.delivered hw, hc.bytes]
      exact List.take_of_length_le (List.drop_eq_nil_iff.mp hnothing)
    · obtain ⟨hclosed, hnothing, hall⟩ := ht.ended before b after' hold hasked
      exact ⟨hc.writerOpen.trans hclosed, hc.nothing hnothing, fun hw => by rw [hc.bytes]; exact hall hw⟩

/-- **One act** and its answer are told by the next entry. -/
theorem act (ht : Tells source w log p h) (a : Act) :
    ∃ h', Tells source w (log ++ [(a, (p.act a).1)]) (p.act a).2 h' := by
  cases a with
  | copy memory =>
    obtain ⟨h', ht'⟩ := ht.copy
    exact ⟨h', ht'.done (.copy memory)⟩
  | take =>
    have ht' := ht.done .take
    exact ⟨h, ht'.window, ht'.represents, ht'.running, ht'.stopped, ht'.delivered, ht'.ended⟩
  | reader a =>
    rw [OutputPipe.act]
    split_ifs with hheld
    · exact ht.reader (Bool.and_eq_true_iff.mp hheld).2 a
    · exact ⟨h, ht.done (.reader a)⟩

theorem contents (ht : Tells source w log p h) : p.channel.contents = .ok (h.bytes.drop (h.bytes.length - w)) := by
  unfold Channel.contents Channel.onRing
  rw [ht.represents.run_snapshot, ht.window]

theorem of_complete (ht : Tells source w log p h) (hcomplete : p.Complete) :
    p.channel.writerOpen = false ∧ h.bytes = source.output := by
  have hover : p.copier ≠ .running := by rcases hcomplete with hrun | hrun <;> simp [hrun]
  obtain ⟨hclosed, -, hall⟩ := ht.stopped hover
  refine ⟨hclosed, hall.resolve_right fun ⟨o, ho, hended⟩ => ?_⟩
  rcases hcomplete with hrun | hrun <;> rw [hended] at hrun <;> cases hrun
  exact ho rfl

theorem forget (ht : Tells source w log p h) (hcomplete : p.Complete) :
    Tells source w log { p with copier := .absent } h := by
  obtain ⟨hclosed, hall⟩ := ht.of_complete hcomplete
  exact { ht with running := nofun, stopped := fun _ => ⟨hclosed, ht.prefix_output, .inl hall⟩ }

end Tells

theorem act_of_over {p : OutputPipe} (hover : p.copier ≠ .running) (a : Act) : (p.act a).2.copier = p.copier := by
  cases a with
  | copy _ => exact congrArg copier (step_of_over hover)
  | take => rfl
  | reader a =>
    rw [act]
    split_ifs <;> rfl

/-! ## Output that is duplicated -/

/-- The bytes of a stream inside a window: the newest ones, or all when there is no bound. -/
def newest : Option Nat → Bytes → Bytes
  | none, bs => bs
  | some n, bs => bs.drop (bs.length - n)

/-- What an output stream shows and gives. When everything was copied, the channel shows the newest bytes. As long as
none of them leaves the window, the reader has been given the first bytes of the stream in order, and is told of the
end of data only when the copier is over, and when it was given everything if the copier did not fail; after that the
holder of the reader is given what comes next when it goes on. -/
structure Duplicated (source : Source) (window : Option Nat) (log : Log) (p : OutputPipe) : Prop where
  contents : p.Complete → p.channel.contents = .ok (newest window source.output)
  in_order : window = none → log.delivered <+: source.output
  at_end : window = none → ∀ before a after, log = before ++ (a, .got (.data [])) :: after → a.asked ≠ 0 →
    p.copier ≠ .running ∧ (p.Complete → Log.delivered before = source.output)
  next : window = none → p.Complete → p.channel.readerTaken = true → p.channel.readerOpen = true →
    ∀ a : Channel.ReaderAct, a.asked ≠ 0 →
      (p.act (.reader a)).1 = .got (.data ((source.output.drop log.delivered.length).take a.asked))

theorem Tells.duplicated {source : Source} {window : Option Nat} {log : Log} {p : OutputPipe} {h : Ring.History}
    (ht : Tells source (window.getD Channel.unbounded) log p h) : Duplicated source window log p := by
  refine ⟨fun hcomplete => ?_, ?_, ?_, ?_⟩
  · obtain ⟨-, hall⟩ := ht.of_complete hcomplete
    rw [ht.contents, hall]
    cases window with
    | some n => rfl
    | none =>
      have hkept := Channel.length_le_unbounded ht.represents ht.window
      rw [ht.window, hall] at hkept
      rw [Nat.sub_eq_zero_of_le hkept, List.drop_zero, newest]
  · rintro rfl
    rw [ht.delivered rfl]
    exact (List.take_prefix _ _).trans ht.prefix_output
  · rintro rfl before a after hlog hasked
    obtain ⟨-, -, hbefore⟩ := ht.ended before a after hlog hasked
    refine ⟨fun hrun => hasked (ht.ended_of_running hrun hlog), fun hcomplete => ?_⟩
    rw [hbefore rfl, (ht.of_complete hcomplete).2]
  · rintro rfl hcomplete htaken hopen a hasked
    obtain ⟨hclosed, hall⟩ := ht.of_complete hcomplete
    have hleft : h.pending = source.output.drop log.delivered.length := by
      rw [ht.delivered rfl, List.length_take, Nat.min_eq_left ht.represents.next_le, Ring.History.pending, hall]
    rw [OutputPipe.act, if_pos (by rw [htaken, hopen]; rfl), ← hleft]
    exact Channel.reads_of_writer_closed ht.represents hopen hclosed hasked

end OutputPipe

end Dialogue
