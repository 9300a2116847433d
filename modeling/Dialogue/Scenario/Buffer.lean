import Dialogue.Channel
import Dialogue.Scenario.Answer

/-!
# Using a channel

A scenario about one channel, its two endpoints and a reader that polls it.

* `BufferStep`, `Buffered`, `Buffered.run`;
* `BufferView`: what is measured after each step.
-/

namespace Dialogue.Scenario

/-- How a call reports its errors: as errors of the buffer, or of a reader or writer of bytes. -/
inductive CallStyle where
  | plain
  | io
  deriving DecidableEq, Repr

/-- A step with a channel. A reader that waits does so until bytes are written or, without any, the writer is closed;
any other read is made unless it would have to wait. -/
inductive BufferStep where
  | takeWriter
  | takeReader
  | another
  | closeWriter
  | close
  | write (style : CallStyle) (bytes : Bytes)
  | flush
  | shutdown
  | finish
  | dropWriter
  | read (style : CallStyle) (n : Nat)
  | poll (n : Nat)
  | await (n : Nat) (bytes : Option Bytes)
  | dropReader

/-- A channel and the endpoints that are held. -/
structure Buffered where
  channel : Channel
  writer : Bool
  reader : Bool

/-- A result with what is measured after its step: the bytes that fit without growing, those inside the window, those
not read yet, when a reader is held, and how often a waiting reader was woken. -/
structure BufferView where
  result : Result
  capacity : Nat
  contents : Except BufferError Bytes
  available : Option (Except BufferError Nat)
  wakes : Nat

namespace Buffered

def ofChannel (c : Channel) : Buffered := ⟨c, false, false⟩

def poller : Waiter := 0

def failure (style : CallStyle) (e : BufferError) : Result :=
  match style with
  | .plain => .bufferError e
  | .io => .ioError e

def readResult (style : CallStyle) : Channel.ReadResult → Result
  | .data bs => .bytes bs
  | .pending => .wouldBlock
  | .failed e => failure style e

/-- The writer appends bytes; in the second style the answer is their number. -/
def write (s : Buffered) (style : CallStyle) (bs : Bytes) : Result × Buffered :=
  match s.channel.write bs, style with
  | (.ok _, channel), .plain => (.ok, { s with channel })
  | (.ok _, channel), .io => (.count bs.length, { s with channel })
  | (.error e, channel), _ => (failure style e, { s with channel })

def read (s : Buffered) (style : CallStyle) (n : Nat) : Result × Buffered :=
  let (r, channel) := s.channel.read n
  (readResult style r, { s with channel })

/-- The reader waits; the writer releases it. -/
def await (s : Buffered) (n : Nat) (bytes : Option Bytes) : Result × Buffered :=
  match (s.channel.read n).1 with
  | .pending =>
    if !s.writer then (.noWriter, s)
    else
      let channel := match bytes with
        | some bs => (s.channel.write bs).2
        | none => s.channel.closeWriter
      { s with channel }.read .plain n
  | _ => s.read .plain n

def step (s : Buffered) : BufferStep → Result × Buffered
  | .takeWriter =>
    let (got, channel) := s.channel.takeWriter
    (.bool got, { s with channel, writer := s.writer || got })
  | .takeReader =>
    let (got, channel) := s.channel.takeReader
    (.bool got, { s with channel, reader := s.reader || got })
  | .another => (.ok, s)
  | .closeWriter => (.ok, { s with channel := s.channel.closeWriter })
  | .close => (.ok, { s with channel := s.channel.close })
  | .write style bs => if s.writer then s.write style bs else (.noWriter, s)
  | .flush => if s.writer then (.bool true, s) else (.noWriter, s)
  | .shutdown => if s.writer then (.bool true, { s with channel := s.channel.closeWriter }) else (.noWriter, s)
  | .finish => if s.writer then (.ok, { s with channel := s.channel.closeWriter }) else (.noWriter, s)
  | .dropWriter =>
    if s.writer then (.ok, { s with channel := s.channel.closeWriter, writer := false }) else (.noWriter, s)
  | .read style n => if s.reader then s.read style n else (.noReader, s)
  | .poll n =>
    if s.reader then
      match s.channel.poll n poller with
      | (.pending, channel) => (.pending, { s with channel })
      | (r, channel) => (readResult .io r, { s with channel })
    else (.noReader, s)
  | .await n bytes => if s.reader then s.await n bytes else (.noReader, s)
  | .dropReader =>
    if s.reader then (.ok, { s with channel := s.channel.closeReader, reader := false }) else (.noReader, s)

def view (s : Buffered) (r : Result) : BufferView where
  result := r
  capacity := s.channel.capacity
  contents := s.channel.contents
  available := if s.reader then some s.channel.available else none
  wakes := s.channel.woken.length

def run (s : Buffered) : List BufferStep → List BufferView
  | [] => []
  | a :: more =>
    let (r, s) := s.step a
    s.view r :: s.run more

end Buffered

end Dialogue.Scenario
