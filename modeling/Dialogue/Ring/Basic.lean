import Dialogue.Ring.Growth
import Dialogue.Text.Basic

/-!
# A ring of bytes

A ring keeps the newest bytes of a stream in a circle of slots. It has three cursors: `start`, the oldest byte
inside the window; `read`, the first byte not read yet; `write`, the first free slot. One slot always stays free, so
that a full ring differs from an empty one. Cursors and lengths are machine words, and the slots are a block of
memory: an operation that would leave the word or the block breaks off with a `Fault`, as does a write for which
the ring cannot grow, because it would be too long or because there is no memory.

* `Ring`, `Ring.new`;
* `Ring.Fault`, `Ring.Op`: operations that may break off, and then leave the ring as it is at that moment;
* `Ring.readInto`, `Ring.writeFrom`, `Ring.snapshot`: reading, writing, and all bytes inside the window.
-/

namespace Dialogue

/-- A circle of slots, with the oldest byte inside the window, the first byte not read yet, the first free slot, and the
greatest number of bytes kept. -/
structure Ring where
  data : Bytes
  start : Nat
  read : Nat
  write : Nat
  window : Nat
  deriving DecidableEq, Repr

namespace Ring

/-- Why an operation breaks off: the ring of the given length cannot grow to take `needed` more bytes, a difference is
below zero, a sum is no machine word, a remainder is by zero, or a part of a block is asked for that the block does
not have. -/
inductive Fault where
  | full (needed length : Nat)
  | underflow
  | overflow
  | divisionByZero
  | outOfBounds
  deriving DecidableEq, Repr

/-- Operations on a ring. -/
abbrev Op := EStateM Fault Ring

/-- A ring of `size` empty slots that keeps `window` bytes. -/
def new (window size : Nat) : Ring := ⟨List.replicate size 0, 0, 0, 0, window⟩

def plus (a b : Nat) : Op Nat := if a + b < Word.size then pure (a + b) else throw .overflow

def minus (a b : Nat) : Op Nat := if b ≤ a then pure (a - b) else throw .underflow

def modulo (a b : Nat) : Op Nat := if b = 0 then throw .divisionByZero else pure (a % b)

/-- The `n` bytes of a block from position `i` on. -/
def slice (block : Bytes) (i n : Nat) : Op Bytes :=
  if i + n ≤ block.length then pure ((block.drop i).take n) else throw .outOfBounds

/-- A block with the bytes `src` put in from position `i` on. -/
def splice (block : Bytes) (i : Nat) (src : Bytes) : Op Bytes :=
  if i + src.length ≤ block.length then pure (block.take i ++ src ++ block.drop (i + src.length))
  else throw .outOfBounds

def length : Op Nat := return (← get).data.length

/-- The number of steps from one slot to another, going round. -/
def distance (i j : Nat) : Op Nat := do
  if i ≤ j then minus j i else minus (← plus j (← length)) i

/-- The slot `n` steps on. -/
def advance (i n : Nat) : Op Nat := do
  modulo (← plus i n) (← length)

/-- The number of bytes inside the window, read or not. -/
def buffered : Op Nat := do
  let r ← get
  distance r.start r.write

/-- The number of bytes not read yet. -/
def unread : Op Nat := do
  let r ← get
  distance r.read r.write

/-- The number of slots that can be written. -/
def room : Op Nat := do
  let r ← get
  modulo (← minus (← minus (← plus r.start (← length)) r.write) 1) (← length)

/-- The `n` bytes from slot `i` on, going round. -/
def copyOut (i n : Nat) : Op Bytes := do
  let r ← get
  let first := min n (← minus r.data.length i)
  let front ← slice r.data i first
  let back ← slice r.data 0 (← minus n first)
  return front ++ back

/-- Puts bytes into the slots from `i` on, going round. -/
def copyIn (i : Nat) (src : Bytes) : Op Unit := do
  let r ← get
  let first := min src.length (← minus r.data.length i)
  let data ← splice r.data i (src.take first)
  let data ← splice data 0 (src.drop first)
  modify ({ · with data })

def readInto (n : Nat) : Op Bytes := do
  let n := min n (← unread)
  let out ← copyOut (← get).read n
  let read ← advance (← get).read n
  modify ({ · with read })
  return out

/-- Drops the oldest `n` bytes; the read cursor goes along when it would fall behind. -/
def advanceStart (n : Nat) : Op Unit := do
  let r ← get
  let consumed ← distance r.start r.read
  let start ← advance r.start n
  modify ({ · with start })
  if n > consumed then modify ({ · with read := start })

variable [Memory]

/-- Moves the bytes to a longer block of slots, from its beginning on. -/
def resize (needed : Nat) : Op Unit := do
  let size ← length
  match granted? (← room) needed size with
  | none => throw (.full needed size)
  | some newSize =>
    let kept ← buffered
    let pending ← unread
    let bytes ← copyOut (← get).start kept
    let read ← minus kept pending
    let data ← splice (List.replicate newSize 0) 0 bytes
    modify ({ · with data, start := 0, read, write := kept })

/-- Makes `needed` slots free: a ring with more slots than its window needs drops bytes that the window is going to
lose, any other ring grows. -/
def makeSpace (needed : Nat) : Op Unit := do
  let capacity ← minus (← length) 1
  if needed < capacity ∧ capacity > (← get).window then
    advanceStart (← minus needed (← room))
  else resize needed

/-- Appends bytes and keeps the newest ones that fit into the window. -/
def writeFrom (src : Bytes) : Op Unit := do
  let r ← get
  if src.isEmpty || r.window == 0 then return ()
  let src ← if src.length > r.window then pure (src.drop (← minus src.length r.window)) else pure src
  if src.length > (← room) then makeSpace src.length
  copyIn (← get).write src
  let write ← advance (← get).write src.length
  modify ({ · with write })
  let kept ← buffered
  if kept > r.window then advanceStart (← minus kept r.window)

/-- All bytes inside the window, the oldest first. -/
def snapshot : Op Bytes := do
  copyOut (← get).start (← buffered)

def capacity (r : Ring) : Nat := r.data.length - 1

end Ring

end Dialogue
