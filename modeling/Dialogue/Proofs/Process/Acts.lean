import Dialogue.Process.Streams
import Dialogue.Proofs.Channel
import Dialogue.Proofs.Perform

/-!
# What is done around the streams of a command

While the copiers of a command's streams run, their other ends are in the hands of whoever watches the command. The
steps of the copiers and the acts of the holders come in any order, and each act finds the streams as the one before
left them.

* `Channel.ReaderAct`, `Channel.serveReader`: what the holder of a reader does;
* `OutputPipe.Act`, `OutputPipe.act`, `InputPipe.Act`, `InputPipe.act`: acts around one stream;
* `Streams.Act`, `Streams.act`: acts around all streams.
-/

namespace Dialogue

/-! ## Acts around one stream -/

namespace Channel

/-- What the holder of a reader does. A read that waits may look again at any time, which is `resume`. -/
inductive ReaderAct where
  | read (n : Nat)
  | resume (n : ℕ+)
  | poll (n : Nat) (w : Waiter)
  | drop

/-- The number of bytes that an act asks for. -/
def ReaderAct.asked : ReaderAct → Nat
  | .read n | .poll n _ => n
  | .resume n => n
  | .drop => 0

/-- An act of the holder of the reader. -/
def serveReader (c : Channel) : ReaderAct → Answer × Channel
  | .read n => (c.read n).map .got id
  | .resume n => (c.resume n).map .got id
  | .poll n w => (c.poll n w).map .got id
  | .drop => (.done, c.closeReader)

/-- The bytes that an answer brings. -/
def Answer.bytes : Answer → Bytes
  | .got (.data bytes) => bytes
  | _ => []

end Channel

namespace OutputPipe

/-- What happens around an output stream: its copier takes a step, with memory as it is then, its reader is taken, or
the holder of the reader does something. -/
inductive Act where
  | copy (memory : Memory)
  | take
  | reader (a : Channel.ReaderAct)

/-- The number of bytes that an act asks for. -/
def Act.asked : Act → Nat
  | .copy _ | .take => 0
  | .reader a => a.asked

/-- An act and its answer. Only a reader that was taken and not dropped yet can be used. -/
def act (p : OutputPipe) : Act → Channel.Answer × OutputPipe
  | .copy _ => (.done, p.step)
  | .take => (.done, { p with channel := p.channel.takeReader.2 })
  | .reader a =>
    if p.channel.readerTaken && p.channel.readerOpen then
      (p.channel.serveReader a).map id fun channel => { p with channel }
    else (.done, p)

/-- Acts with their answers, the earliest first. -/
abbrev Log := List (Act × Channel.Answer)

/-- The bytes that the reader was given. -/
def Log.delivered (log : Log) : Bytes := log.flatMap fun e => e.2.bytes

theorem Log.delivered_append (log more : Log) : delivered (log ++ more) = log.delivered ++ delivered more :=
  List.flatMap_append

end OutputPipe

namespace InputPipe

/-- What happens around an input stream: its copier takes a step, its writer is taken and used, or the end of all
copying is asked for. Closing the writer, shutting it down and dropping it come to the same. -/
inductive Act where
  | copy
  | take
  | write (memory : Memory) (src : Bytes)
  | close
  | finish

/-- An act and its answer. Only a writer that was taken can be used. -/
def act (p : InputPipe) : Act → Channel.Answer × InputPipe
  | .copy => (.done, p.step)
  | .take => (.done, { p with channel := p.channel.takeWriter.2 })
  | .write _ src =>
    if p.channel.writerTaken then (p.channel.write src).map .written fun channel => { p with channel }
    else (.done, p)
  | .close => (.done, if p.channel.writerTaken then { p with channel := p.channel.closeWriter } else p)
  | .finish => (.done, { p with channel := p.channel.closeWriter })

/-- Acts with their answers, the earliest first. -/
abbrev Log := List (Act × Channel.Answer)

/-- The bytes of all writes that succeeded. -/
def Log.written (log : Log) : Bytes := log.flatMap fun
  | (.write _ src, .written (.ok _)) => src
  | _ => []

theorem Log.written_append (log more : Log) : written (log ++ more) = log.written ++ written more :=
  List.flatMap_append

end InputPipe

/-! ## Acts around all streams -/

namespace Streams

/-- What happens around one of the streams. -/
inductive Act where
  | stdout (a : OutputPipe.Act)
  | stderr (a : OutputPipe.Act)
  | stdin (a : InputPipe.Act)

/-- An act and its answer. -/
def act (s : Streams) : Act → Channel.Answer × Streams
  | .stdout a => (s.stdout.act a).map id fun stdout => { s with stdout }
  | .stderr a => (s.stderr.act a).map id fun stderr => { s with stderr }
  | .stdin a => (s.stdin.act a).map id fun stdin => { s with stdin }

/-- Asking for the end of all copying is closing the input. -/
theorem act_finish (s : Streams) : s.act (.stdin .finish) = (.done, s.closeInput) := rfl

/-- Acts with their answers, the earliest first. -/
abbrev Log := List (Act × Channel.Answer)

def Act.stdout? : Act → Option OutputPipe.Act
  | .stdout a => some a
  | _ => none

def Act.stderr? : Act → Option OutputPipe.Act
  | .stderr a => some a
  | _ => none

def Act.stdin? : Act → Option InputPipe.Act
  | .stdin a => some a
  | _ => none

section Keeping

variable {s : Streams} (log : Log) (acts : List Act)

/-- What the acts around the output keep up holds after any acts. -/
theorem stdout_keeps {I : OutputPipe.Log → OutputPipe → Prop}
    (hact : ∀ log p a, I log p → I (log ++ [(a, (p.act a).1)]) (p.act a).2) (h : I (logOf Act.stdout? log) s.stdout) :
    I (logOf Act.stdout? (log ++ (perform act s acts).1)) (perform act s acts).2.stdout :=
  perform_keeps_part (by rintro s (a | a | a) a' ⟨⟩; rfl) (by rintro s (a | a | a) ⟨⟩ <;> rfl) hact h acts

theorem stderr_keeps {I : OutputPipe.Log → OutputPipe → Prop}
    (hact : ∀ log p a, I log p → I (log ++ [(a, (p.act a).1)]) (p.act a).2) (h : I (logOf Act.stderr? log) s.stderr) :
    I (logOf Act.stderr? (log ++ (perform act s acts).1)) (perform act s acts).2.stderr :=
  perform_keeps_part (by rintro s (a | a | a) a' ⟨⟩; rfl) (by rintro s (a | a | a) ⟨⟩ <;> rfl) hact h acts

theorem stdin_keeps {I : InputPipe.Log → InputPipe → Prop}
    (hact : ∀ log p a, I log p → I (log ++ [(a, (p.act a).1)]) (p.act a).2) (h : I (logOf Act.stdin? log) s.stdin) :
    I (logOf Act.stdin? (log ++ (perform act s acts).1)) (perform act s acts).2.stdin :=
  perform_keeps_part (by rintro s (a | a | a) a' ⟨⟩; rfl) (by rintro s (a | a | a) ⟨⟩ <;> rfl) hact h acts

end Keeping

end Streams

end Dialogue
