import Dialogue.Config
import Dialogue.Encoding.Incremental
import Dialogue.Watch.Pass
import Dialogue.Watch.Source

/-!
# The worker that watches a stream

A worker takes a stream batch by batch: it decodes the bytes, adds them to the pending text and makes a pass over
it. It ends with the stream, with the first error, or with a panic; bytes that come in the same batch as an error
are never offered.

* `Outcome`, `Outcome.result`, `Outcome.log?`;
* `Worker`, `Worker.start`;
* `Worker.decode`, `Worker.offer`, `Worker.takeBatch`: what a batch does;
* `Worker.run`: what several batches do.
-/

namespace Dialogue

/-- How a worker ended. At the end of its stream so many characters were still pending, and so many bytes undecoded. -/
inductive Outcome where
  | finished (chars bytes : Nat)
  | failed (e : Error)
  | panicked (text : Text)
  | cancelled
  deriving DecidableEq, Repr

namespace Outcome

def ofStop : Stop → Outcome
  | .error e => .failed e
  | .panic text => .panicked text

/-- What whoever waits for the worker is told. -/
def result : Outcome → Except Error Unit
  | .finished _ _ => .ok ()
  | .failed e => .error e
  | .panicked text => .error (.watch (.panicked text))
  | .cancelled => .error (.watch .cancelled)

/-- What is logged at the end of the stream. -/
def log? : Outcome → Option Text
  | .finished chars bytes =>
    if chars == 0 && bytes == 0 then some (Text.lit "tokenizer: end of stream")
    else some (Text.lit "tokenizer: end of stream, dropping " ++ Text.decimal chars ++
      Text.lit " undelimited chars and " ++ Text.decimal bytes ++ Text.lit " undecoded bytes")
  | .failed _ | .panicked _ | .cancelled => none

end Outcome

/-- A worker between two batches: its delimiter, the decoder of its stream, and the text that was not done with. -/
structure Worker where
  delimiter : Delimiter
  decoder : Decoder
  pending : Text

namespace Worker

variable {σ : Type}

/-- The greatest number of bytes that can be set aside. -/
def maxReserve : Nat := 0x8000000000000000 - 1

/-- A worker at the beginning of a stream; it panics when more is to be set aside than memory can hold. -/
def start (config : WatchConfig) (delimiter : Delimiter) : Except Outcome Worker :=
  if config.readSize ≤ maxReserve ∧ config.textCapacity ≤ maxReserve then
    .ok ⟨delimiter, .start config.encoding config.strip, []⟩
  else .error (.panicked (Text.lit "capacity overflow"))

/-- The number of bytes that one read can take; without a number set, a small buffer is used. -/
def room (config : WatchConfig) : Nat := if config.readSize = 0 then 64 else config.readSize

def decode (w : Worker) (reads : List Bytes) : Except Error Worker :=
  match reads.foldlM Decoder.feed (w.decoder, w.pending.reverse) with
  | .ok (decoder, text) => .ok { w with decoder, pending := text.reverse }
  | .error valid => .error (.stream (.malformed w.decoder.encoding valid))

def finish (w : Worker) : Outcome := .finished w.pending.length w.decoder.undecoded.length

/-- Makes a pass over the pending text. -/
def offer (consume : Consumer σ) (s : σ) (w : Worker) : σ × Except Outcome Worker :=
  match consume.pass s (w.delimiter.split w.pending) with
  | (s, .ok pending) => (s, .ok { w with pending })
  | (s, .error why) => (s, .error (.ofStop why))

/-- Takes a batch: the consumer's state after it, and the worker or its outcome. -/
def takeBatch (consume : Consumer σ) (s : σ) (w : Worker) (b : Batch) : σ × Except Outcome Worker :=
  match w.decode b.reads with
  | .error e => (s, .error (.failed e))
  | .ok w =>
    match b.ending with
    | .failed reason => (s, .error (.failed (.stream (.read reason))))
    | .panicked text => (s, .error (.panicked text))
    | .idle => if b.reads.isEmpty then (s, .ok w) else w.offer consume s
    | .finished =>
      if b.reads.isEmpty then (s, .error w.finish)
      else match w.offer consume s with
        | (s, .ok w) => (s, .error w.finish)
        | (s, .error o) => (s, .error o)

/-- Takes batches one after another until the worker ends. What the consumer put off is done by `between` when the
tokens of a batch are done with. -/
def run (consume : Consumer σ) (between : σ → σ) : σ → Worker → List Batch → σ × Except Outcome Worker
  | s, w, [] => (s, .ok w)
  | s, w, b :: more =>
    match w.takeBatch consume s b with
    | (s, .ok w) => run consume between (between s) w more
    | (s, .error o) => (between s, .error o)

theorem run_append (consume : Consumer σ) (between : σ → σ) (s : σ) (w : Worker) (as bs : List Batch) :
    run consume between s w (as ++ bs) =
      match run consume between s w as with
      | (s, .ok w) => run consume between s w bs
      | r => r := by
  induction as generalizing s w with
  | nil => rfl
  | cons a as ih =>
    simp only [List.cons_append, run]
    rcases w.takeBatch consume s a with ⟨s, _ | w⟩ <;> simp [ih]

end Worker

end Dialogue
