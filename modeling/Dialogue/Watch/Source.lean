import Dialogue.Error

/-!
# Where the bytes come from

A source is what a stream is going to do, in order. A reader that watches it takes *batches*: it waits for bytes and
then goes on reading as long as there are more at once.

* `SourceEvent`, `Source`, `Source.feed`;
* `Poll`, `Source.poll`: one read;
* `Batch`: the bytes of consecutive reads, and how the reading came to a stop;
* `Source.batches`: the batches of a source.
-/

namespace Dialogue

/-- Something that a stream does: it delivers bytes, is not ready, once, or ends; or reading fails or panics. -/
inductive SourceEvent where
  | data (bytes : Bytes)
  | pause
  | finish
  | fail (reason : Text)
  | panic (text : Text)
  deriving DecidableEq, Repr

/-- What a stream is going to do; with nothing left it is not ready. -/
abbrev Source := List SourceEvent

/-- Whether an event is a delivery of no bytes, which never happens. -/
def SourceEvent.isNothing : SourceEvent → Bool
  | .data [] => true
  | _ => false

/-- Adds events that are going to happen. -/
def Source.feed (s : Source) (events : List SourceEvent) : Source := s ++ events.filter fun e => !e.isNothing

/-- What one read comes to: bytes, of which there are none at the end of the stream, or nothing as yet, or a
failure. -/
inductive Poll where
  | ready (bytes : Bytes)
  | pending
  | failed (reason : Text)
  | panicked (text : Text)
  deriving DecidableEq, Repr

/-- One read of at most `room` bytes, and what the stream is going to do after it. At least one byte is taken of a
delivery, and the next read takes up what is left of it. -/
def Source.poll (room : Nat) : Source → Poll × Source
  | [] => (.pending, [])
  | .data [] :: more => poll room more
  | .data (b :: bs) :: more => (.ready (b :: bs.take (room - 1)), .data (bs.drop (room - 1)) :: more)
  | .pause :: more => (.pending, more)
  | .finish :: more => (.ready [], more)
  | .fail reason :: more => (.failed reason, more)
  | .panic text :: more => (.panicked text, more)

/-- How much a stream is going to do: its events and the bytes that they deliver. -/
def Source.size : Source → Nat
  | [] => 0
  | .data bs :: more => bs.length + 1 + size more
  | _ :: more => 1 + size more

theorem Source.size_poll_lt {source : Source} (h : source ≠ []) (room : Nat) :
    (source.poll room).2.size < source.size := by
  fun_induction Source.poll room source with
  | case1 => exact absurd rfl h
  | case2 more ih =>
    by_cases hmore : more = []
    · subst hmore
      exact Nat.one_pos
    · exact Nat.lt_trans (ih hmore) (by simp [size])
  | case3 b bs more => simp only [size, List.length_drop, List.length_cons]; omega
  | case4 => simp [size]
  | case5 => simp [size]
  | case6 => simp [size]
  | case7 => simp [size]

theorem Source.size_of_poll {source rest : Source} {room : Nat} {p : Poll} (h : source.poll room = (p, rest))
    (hsource : source ≠ []) : rest.size < source.size := by
  have hlt := size_poll_lt hsource room
  rwa [h] at hlt

theorem Source.size_of_ready {source rest : Source} {room : Nat} {bytes : Bytes}
    (h : source.poll room = (.ready bytes, rest)) : rest.size < source.size :=
  size_of_poll h (by rintro rfl; cases h)

/-- How the reads of a batch come to a stop. -/
inductive Ending where
  | idle
  | finished
  | failed (reason : Text)
  | panicked (text : Text)
  deriving DecidableEq, Repr

/-- The bytes of consecutive reads, and how the reading came to a stop. -/
structure Batch where
  reads : List Bytes
  ending : Ending
  deriving DecidableEq, Repr

/-- Bytes in portions of at most `room`, at least one byte each, put before the portions in `acc`, the last one
first. -/
def portions (room : Nat) (acc : List Bytes) (bs : Bytes) : List Bytes :=
  match bs with
  | [] => acc
  | b :: rest => portions room ((b :: rest.take (room - 1)) :: acc) (rest.drop (room - 1))
termination_by bs.length
decreasing_by simp only [List.length_drop, List.length_cons]; omega

theorem flatten_portions (room : Nat) (acc : List Bytes) (bs : Bytes) :
    (portions room acc bs).reverse.flatten = acc.reverse.flatten ++ bs := by
  fun_induction portions room acc bs with
  | case1 => simp
  | case2 acc b rest ih => simp [ih, List.take_append_drop]

/-- The batches of a source after the reads in `acc`, the last one first. A stream that is not ready ends a batch
that has begun. -/
def Source.batchesFrom (room : Nat) (acc : List Bytes) : Source → List Batch
  | [] => if acc.isEmpty then [] else [⟨acc.reverse, .idle⟩]
  | .data bs :: more => batchesFrom room (portions room acc bs) more
  | .pause :: more =>
    if acc.isEmpty then batchesFrom room [] more else ⟨acc.reverse, .idle⟩ :: batchesFrom room [] more
  | .finish :: more => ⟨acc.reverse, .finished⟩ :: batchesFrom room [] more
  | .fail reason :: more => ⟨acc.reverse, .failed reason⟩ :: batchesFrom room [] more
  | .panic text :: more => ⟨acc.reverse, .panicked text⟩ :: batchesFrom room [] more

/-- The batches of all that a source is going to do, in reads of at most `room` bytes. -/
def Source.batches (room : Nat) (s : Source) : List Batch := s.batchesFrom room []

end Dialogue
