import Dialogue.Text.Basic

/-!
# What can be observed

* `Event`: what a watcher does to the world, in the order in which it does it;
* `Event.joinWrites`: neighbouring writes as one;
* `Event.summary`: what is told of some events.
-/

namespace Dialogue

/-- Something that a watcher does: a token is offered and answered in the named way; bytes reach the command's input,
which is flushed or shut down; an action is run, or kept for later. -/
inductive Event where
  | token (text : Text) (answer : Text)
  | write (bytes : Bytes)
  | flush
  | shutdown
  | run (name : Text)
  | queued
  deriving DecidableEq, Repr

/-- Joins each write with the writes right after it. -/
def Event.joinWrites : List Event → List Event
  | [] => []
  | e :: rest =>
    match e, joinWrites rest with
    | .write bs, .write cs :: more => .write (bs ++ cs) :: more
    | e, rest => e :: rest

def Event.isFlush : Event → Bool
  | .flush => true
  | _ => false

/-- What is told of some events: flushes only where they are asked for, and neighbouring writes as one. -/
def Event.summary (flushes : Bool) (events : List Event) : List Event :=
  joinWrites (events.filter fun e => flushes || !e.isFlush)

end Dialogue
