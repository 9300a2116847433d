import Dialogue.Error
import Dialogue.Ring.Basic

/-!
# A channel between a writer and a reader

A channel is a ring with two endpoints. The writer never waits: the ring grows. The reader waits while nothing is
unread and both ends are open; a reader that polls instead leaves its name behind, and the next write or closing
takes the name and wakes the reader. Each endpoint can be taken once, and closing one is final.

* `Channel`, `Channel.new`, `Channel.ofWindow`, `Channel.ofSize`;
* `Channel.takeWriter`, `Channel.takeReader`;
* `Channel.write`, `Channel.read`, `Channel.poll`: one operation of an endpoint, with its result;
* `Channel.closeWriter`, `Channel.closeReader`, `Channel.close`.
-/

namespace Dialogue

/-- The identity of a waiting reader. -/
abbrev Waiter := Nat

/-- A ring with two endpoints: which sides are open, which endpoints were taken, the reader that waits for something to
happen, and the readers woken so far, the last one first. -/
structure Channel where
  ring : Ring
  readerOpen : Bool
  writerOpen : Bool
  readerTaken : Bool
  writerTaken : Bool
  waiting : Option Waiter
  woken : List Waiter
  deriving DecidableEq, Repr

namespace Channel

/-- The number of slots that a ring has unless told otherwise. -/
def defaultSize : Nat := 1024

/-- A channel over `size` slots, at least two of them, that keeps the newest `window` bytes. -/
def ofSize (window size : Nat) : Channel :=
  ⟨Ring.new window (max size 2), true, true, false, false, none, []⟩

/-- A channel that keeps the newest `window` bytes. -/
def ofWindow (window : Nat) : Channel := ofSize window defaultSize

/-- The window of a channel that keeps everything. -/
def unbounded : Nat := Word.size - 1

def new : Channel := ofWindow unbounded

/-- Takes the writer's endpoint, once. -/
def takeWriter (c : Channel) : Bool × Channel := (!c.writerTaken, { c with writerTaken := true })

def takeReader (c : Channel) : Bool × Channel := (!c.readerTaken, { c with readerTaken := true })

/-- Wakes the waiting reader, if there is one. -/
def notify (c : Channel) : Channel := { c with waiting := none, woken := c.waiting.toList ++ c.woken }

/-- What the user of a channel is told of a ring's fault. -/
def ofFault : Ring.Fault → BufferError
  | .full needed length => .capacityExceeded needed length
  | .underflow | .overflow | .divisionByZero | .outOfBounds => .poisoned

def onRing {α : Type} (c : Channel) (op : Ring.Op α) : Except BufferError α × Channel :=
  match op.run c.ring with
  | .ok a ring => (.ok a, { c with ring })
  | .error e ring => (.error (ofFault e), { c with ring })

/-- The writer appends bytes; a success wakes the reader, even when nothing was written. -/
def write [Memory] (c : Channel) (src : Bytes) : Except BufferError Unit × Channel :=
  if !c.writerOpen then (.error .closed, c)
  else match c.onRing (Ring.writeFrom src) with
    | (.ok _, c) => (.ok (), c.notify)
    | (.error e, c) => (.error e, c)

def closeWriter (c : Channel) : Channel := { c with writerOpen := false }.notify

def closeReader (c : Channel) : Channel := { c with readerOpen := false }.notify

def close (c : Channel) : Channel := { c with readerOpen := false, writerOpen := false }.notify

def available (c : Channel) : Except BufferError Nat := (c.onRing Ring.unread).1

/-- All bytes inside the window, read or not. -/
def contents (c : Channel) : Except BufferError Bytes := (c.onRing Ring.snapshot).1

def capacity (c : Channel) : Nat := c.ring.capacity

/-- Whether a reader has to wait: nothing is unread and both ends are open. -/
def mustWait (c : Channel) : Except BufferError Bool :=
  c.available.map fun n => n == 0 && c.readerOpen && c.writerOpen

/-- What an attempt to read gives: bytes, none of them at the end of data; or the reader has to wait; or a failure. -/
inductive ReadResult where
  | data (bytes : Bytes)
  | pending
  | failed (e : BufferError)
  deriving DecidableEq, Repr

/-- Takes at most `n` unread bytes. -/
def take (c : Channel) (n : Nat) : ReadResult × Channel :=
  match c.onRing (Ring.readInto n) with
  | (.ok bytes, c) => (.data bytes, c)
  | (.error e, c) => (.failed e, c)

/-- A waiting read of at most `n` bytes, up to the point where it would wait. -/
def read (c : Channel) (n : Nat) : ReadResult × Channel :=
  if n == 0 then (.data [], c)
  else if !c.readerOpen then (.failed .closed, c)
  else match c.mustWait with
    | .error e => (.failed e, c)
    | .ok true => (.pending, c)
    | .ok false => c.take n

/-- A polling read of at most `n` bytes; one that is not ready leaves the name of the reader behind. -/
def poll (c : Channel) (n : Nat) (w : Waiter) : ReadResult × Channel :=
  if n == 0 then (.data [], c)
  else if !c.readerOpen then (.failed .closed, c)
  else match c.available with
    | .error e => (.failed e, c)
    | .ok unread =>
      if unread == 0 && c.readerOpen && c.writerOpen then (.pending, { c with waiting := some w })
      else c.take (min unread n)

end Channel

end Dialogue
