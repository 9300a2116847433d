import Dialogue.Event
import Dialogue.Ring.Growth

/-!
# Where the replies go

A sink takes bytes in portions. What it does with the next portion, once it is ready for one, may depend on how many
calls it has answered and how many bytes it has taken.

* `Sink.Answer`, `Sink.Behaviour`, `Sink`;
* `Sink.write`: one portion; `Sink.writeAll`: a whole reply; `Sink.flush`, `Sink.shutdown`;
* `Sink.Plan`: a sink with simple limits.
-/

namespace Dialogue

namespace Sink

/-- What a sink does with a portion: it takes up to so many bytes of it, or fails. -/
inductive Answer where
  | take (most : Nat)
  | fail (reason : Text)
  deriving DecidableEq, Repr

/-- How a sink behaves: the answer to a portion, after so many calls and so many bytes, and why a flush after so many
calls, or a shutdown, fails, if it does. -/
structure Behaviour where
  write : Nat → Nat → Answer
  flush : Nat → Option Text
  shutdown : Option Text

end Sink

/-- A sink in use: its behaviour, the numbers of calls answered and of bytes taken, and what happened to it, the last
event first. -/
structure Sink where
  behaviour : Sink.Behaviour
  calls : Nat
  taken : Nat
  events : List Event

namespace Sink

def ofBehaviour (b : Behaviour) : Sink := ⟨b, 0, 0, []⟩

/-- Records what happened and counts the call. -/
def record (s : Sink) (e : Event) : Sink := { s with calls := s.calls + 1, events := e :: s.events }

/-- Offers a portion: the number of bytes taken, or why it failed. -/
def write (s : Sink) (bs : Bytes) : Except Text Nat × Sink :=
  match s.behaviour.write s.calls s.taken with
  | .fail reason => (.error reason, { s with calls := s.calls + 1 })
  | .take most =>
    let n := min most bs.length
    if n = 0 then (.ok 0, { s with calls := s.calls + 1 })
    else (.ok n, { s.record (.write (bs.take n)) with taken := s.taken + n })

/-- Writes all bytes, portion by portion; a portion of which nothing is taken is a failure with the given reason. -/
def writeAll (zero : Text) (s : Sink) (bs : Bytes) : Except Text Unit × Sink :=
  match bs with
  | [] => (.ok (), s)
  | b :: rest =>
    match s.write (b :: rest) with
    | (.error reason, s) => (.error reason, s)
    | (.ok 0, s) => (.error zero, s)
    | (.ok (n + 1), s) => writeAll zero s (rest.drop n)
termination_by bs.length
decreasing_by simp only [List.length_drop, List.length_cons]; omega

def flush (s : Sink) : Except Text Unit × Sink :=
  match s.behaviour.flush s.calls with
  | some reason => (.error reason, { s with calls := s.calls + 1 })
  | none => (.ok (), s.record .flush)

def shutdown (s : Sink) : Except Text Unit × Sink :=
  match s.behaviour.shutdown with
  | some reason => (.error reason, { s with calls := s.calls + 1 })
  | none => (.ok (), s.record .shutdown)

/-- What a full sink does with a portion. -/
inductive WhenFull where
  | fail
  | takeNothing
  deriving DecidableEq, Repr

/-- A sink with simple limits: on the bytes taken at once, and on those taken in all, with what happens then; and why
flushes and a shutdown fail, if they do. -/
structure Plan where
  most : Option Nat
  limit : Option (Nat × WhenFull)
  flushFault : Option Text
  shutdownFault : Option Text

/-- The behaviour of a plan: up to its limit a sink takes bytes, and then it is full. -/
def Plan.behaviour (p : Plan) : Behaviour where
  write _ taken :=
    match p.limit with
    | none => .take (p.most.getD Word.size)
    | some (limit, full) =>
      if taken < limit then .take (p.most.elim (limit - taken) (min (limit - taken)))
      else match full with
        | .fail => .fail (Text.lit "sink full")
        | .takeNothing => .take 0
  flush _ := p.flushFault
  shutdown := p.shutdownFault

end Sink

end Dialogue
