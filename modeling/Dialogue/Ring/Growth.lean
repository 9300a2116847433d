/-!
# How a ring grows

Lengths are machine words of 64 bits, and a ring is never longer than `maxLength`. A ring that has to take more than
its free slots is doubled until the new slots suffice, and then cut to `maxLength`; sums and products that leave the
word refuse the growth, and so does memory that has no block of the new length.

* `Word.add?`, `Word.mul?`: sums and products that stay in the word;
* `Ring.added?`: how many slots are added;
* `Ring.grow?`: the new length;
* `Memory`, `Ring.granted?`: whether memory grants it.
-/

namespace Dialogue

namespace Word

/-- The number of values of a word. -/
def size : Nat := 0x10000000000000000

def add? (a b : Nat) : Option Nat := if a + b < size then some (a + b) else none

def mul? (a b : Nat) : Option Nat := if a * b < size then some (a * b) else none

end Word

namespace Ring

/-- The greatest length of a ring: a little below the largest object that memory can hold. -/
def maxLength : Nat := 0x8000000000000000 - 9

/-- The least of `added`, `length * (2 ^ k - 1)`, `length * (2 ^ (k + 1) - 1)` and so on that makes `available` free
slots `needed`. -/
def added? (available needed length added k : Nat) : Option Nat := do
  let free ← Word.add? added available
  if needed ≤ free then some added
  else if h : k < 64 then do
    let more ← Word.mul? length (Nat.pow 2 k - 1)
    added? available needed length more (k + 1)
  else none
termination_by 64 - k

/-- The length that a ring of `length` slots, `available` of them free, takes to hold `needed` more bytes. The slots
that are not free keep their bytes, or stay between the last byte and the first. -/
def grow? (available needed length : Nat) : Option Nat := do
  let added ← added? available needed length 0 1
  let total ← Word.add? length added
  let newLength := min total maxLength
  let occupied := length - available
  if occupied ≤ newLength ∧ needed ≤ newLength - occupied then some newLength else none

end Ring

/-- Memory as a ring finds it at one moment: whether it grants a block of so many slots. -/
class Memory where
  grants : Nat → Bool

/-- Memory that grants every block. -/
abbrev Memory.plenty : Memory := ⟨fun _ => true⟩

/-- The length that a ring takes, when memory grants it. -/
def Ring.granted? [Memory] (available needed length : Nat) : Option Nat :=
  (grow? available needed length).filter Memory.grants

end Dialogue
