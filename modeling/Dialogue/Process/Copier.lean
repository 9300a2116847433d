import Dialogue.Channel
import Dialogue.Sink
import Dialogue.Watch.Source

/-!
# Copiers

A copier moves the bytes of a stream until the stream ends or something fails. An output copier takes them from the
command into a channel, one read at a time; an input copier takes them from a channel to the command, in blocks that
it writes portion by portion. A copier that is over gives its endpoint of the channel up.

* `CopyEnd`, `Copier`;
* `OutputPipe`, `OutputPipe.step`, `OutputPipe.turn`;
* `InputPipe`, `InputPipe.step`, `InputPipe.turn`.
-/

namespace Dialogue

/-- How a copier ended. -/
inductive CopyEnd where
  | done
  | failed (reason : Text)
  | panicked (text : Text)
  deriving DecidableEq, Repr

/-- A copier in one of its states. It is absent, too, when its end was taken note of. -/
inductive Copier where
  | absent
  | running
  | ended (o : CopyEnd)
  deriving DecidableEq, Repr

/-- The number of bytes that a copier moves at once. -/
def Copier.blockSize : Nat := 8192

/-! ## From the command -/

/-- An output stream of a command, with what it is going to do, and the channel it is copied to. -/
structure OutputPipe where
  source : Source
  channel : Channel
  copier : Copier

namespace OutputPipe

/-- The copier is over, and with it the writer of the channel. -/
def finish (p : OutputPipe) (o : CopyEnd) : OutputPipe :=
  { p with channel := p.channel.closeWriter, copier := .ended o }

/-- The copier reads once and writes what it read. -/
def step [Memory] (p : OutputPipe) : OutputPipe :=
  match p.copier, p.source with
  | .running, .data bs :: more =>
    let rest := bs.drop Copier.blockSize
    let p := { p with source := if rest.isEmpty then more else .data rest :: more }
    match p.channel.write (bs.take Copier.blockSize) with
    | (.ok _, channel) => { p with channel }
    | (.error e, channel) => { p with channel }.finish (.failed e.message)
  | .running, .pause :: more => { p with source := more }
  | .running, .finish :: more => { p with source := more }.finish .done
  | .running, .fail reason :: more => { p with source := more }.finish (.failed reason)
  | .running, .panic text :: more => { p with source := more }.finish (.panicked text)
  | _, _ => p

/-- Whether the next step is the last one of this turn: the stream is not ready, or the copier is over. -/
def yields (p : OutputPipe) : Bool :=
  match p.copier, p.source with
  | .running, .pause :: _ => true
  | .running, _ :: _ => false
  | _, _ => true

/-- The copier runs until its stream is not ready, for at most so many steps. -/
def turnFor [Memory] : Nat → OutputPipe → OutputPipe
  | 0, p => p
  | n + 1, p => if p.yields then p.step else turnFor n p.step

/-- The number of steps that an event can take. -/
def stepsFor : SourceEvent → Nat
  | .data bs => bs.length / Copier.blockSize + 1
  | _ => 1

def turn [Memory] (p : OutputPipe) : OutputPipe := turnFor (p.source.foldr (fun e n => stepsFor e + n) 1) p

/-- Nothing reads or copies the stream any more. -/
def abort (p : OutputPipe) : OutputPipe :=
  match p.copier with
  | .running => { p with channel := p.channel.closeWriter, copier := .absent }
  | .absent | .ended _ => p

end OutputPipe

/-! ## To the command -/

/-- The input stream of a command and the channel it is copied from, with the bytes that were read and not written yet,
and whether something was written and not flushed yet. -/
structure InputPipe where
  channel : Channel
  sink : Sink
  block : Bytes
  flushDue : Bool
  copier : Copier

namespace InputPipe

/-- The copier as a waiting reader. -/
def waiter : Waiter := 1

/-- The copier is over, and with it the reader of the channel. -/
def finish (p : InputPipe) (o : CopyEnd) : InputPipe :=
  { p with channel := p.channel.closeReader, copier := .ended o }

def writeBlock (p : InputPipe) : InputPipe :=
  match p.sink.write p.block with
  | (.error reason, sink) => { p with sink }.finish (.failed reason)
  | (.ok 0, sink) => { p with sink }.finish (.failed (Text.lit "write zero byte into writer"))
  | (.ok n, sink) => { p with sink, block := p.block.drop n, flushDue := true }

def flushIdle (p : InputPipe) : InputPipe :=
  match p.sink.flush with
  | (.error reason, sink) => { p with sink }.finish (.failed reason)
  | (.ok _, sink) => { p with sink, flushDue := false }

/-- Flushes and shuts down the sink at the end of the data. -/
def close (p : InputPipe) : InputPipe :=
  match p.sink.flush with
  | (.error reason, sink) => { p with sink }.finish (.failed reason)
  | (.ok _, sink) =>
    match sink.shutdown with
    | (.error reason, sink) => { p with sink }.finish (.failed reason)
    | (.ok _, sink) => { p with sink }.finish .done

/-- The copier writes a portion of its block or, with nothing to write, reads the next one. -/
def step (p : InputPipe) : InputPipe :=
  match p.copier with
  | .absent | .ended _ => p
  | .running =>
    if p.block.isEmpty then
      match p.channel.poll Copier.blockSize waiter with
      | (.data [], channel) => { p with channel }.close
      | (.data block, channel) => { p with channel, block }
      | (.pending, channel) => if p.flushDue then { p with channel }.flushIdle else { p with channel }
      | (.failed e, channel) => { p with channel }.finish (.failed e.message)
    else p.writeBlock

/-- Whether the copier has nothing to do: it is over, or waits for bytes with everything flushed. -/
def isIdle (p : InputPipe) : Bool :=
  match p.copier with
  | .absent | .ended _ => true
  | .running =>
    p.block.isEmpty && !p.flushDue &&
      match (p.channel.poll Copier.blockSize waiter).1 with
      | .pending => true
      | .data _ | .failed _ => false

/-- The copier runs until it has nothing to do, for at most so many steps. -/
def turnFor : Nat → InputPipe → InputPipe
  | 0, p => p
  | n + 1, p => if p.isIdle then p else turnFor n p.step

/-- The copier runs until it has nothing to do: every byte takes at most a read and a write, and then there are a
flush and a shutdown. -/
def turn (p : InputPipe) : InputPipe :=
  let unread := match p.channel.available with
    | .ok n => n
    | .error _ => 0
  turnFor (2 * (p.block.length + unread) + 4) p

/-- Nothing copies the stream any more. -/
def abort (p : InputPipe) : InputPipe :=
  match p.copier with
  | .running => { p with channel := p.channel.closeReader, copier := .absent }
  | .absent | .ended _ => p

end InputPipe

end Dialogue
