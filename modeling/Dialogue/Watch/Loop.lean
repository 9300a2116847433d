import Dialogue.Watch.Worker

/-!
# The loop of a worker

A worker takes its stream batch by batch. It waits for the first bytes of a batch and then reads on as long as there are
more at once, and it decodes after each read. When the stream is not ready, or ends, it makes a pass over the pending
text; an error ends it at once.

* `Worker.decodeRead`: the bytes of one read;
* `Progress`, `Worker.readOn`, `Worker.readBatch`: the reads of a batch;
* `Worker.watch`: batch after batch.
-/

namespace Dialogue

/-- How far a batch got: the stream is not ready, it ended after the batch's bytes, or it ended without any. -/
inductive Progress where
  | data
  | lastData
  | ended
  deriving DecidableEq, Repr

namespace Worker

/-- Decodes the bytes of one read after the text, whose last character stands first. -/
def decodeRead (s : Decoder × Text) (bytes : Bytes) : Except Outcome (Decoder × Text) :=
  (Decoder.feed s bytes).mapError fun valid => .failed (.stream (.malformed s.1.encoding valid))

/-- Reads on without waiting, in reads of at most `room` bytes. -/
def readOn (room : Nat) (s : Decoder × Text) (source : Source) :
    Except Outcome (Progress × (Decoder × Text) × Source) :=
  match h : source.poll room with
  | (.pending, rest) => .ok (.data, s, rest)
  | (.ready [], rest) => .ok (.lastData, s, rest)
  | (.ready (b :: bs), rest) =>
    have := Source.size_of_ready h
    match decodeRead s (b :: bs) with
    | .ok s => readOn room s rest
    | .error o => .error o
  | (.failed reason, _) => .error (.failed (.stream (.read reason)))
  | (.panicked text, _) => .error (.panicked text)
termination_by source.size

/-- The reads of a batch: waits for the first bytes, then reads on. There is no batch as long as nothing comes. -/
def readBatch (room : Nat) (s : Decoder × Text) (source : Source) :
    Option (Except Outcome (Progress × (Decoder × Text) × Source)) :=
  if hsource : source = [] then none
  else match h : source.poll room with
    | (.pending, rest) =>
      have := Source.size_of_poll h hsource
      readBatch room s rest
    | (.ready [], rest) => some (.ok (.ended, s, rest))
    | (.ready (b :: bs), rest) =>
      match decodeRead s (b :: bs) with
      | .ok s => some (readOn room s rest)
      | .error o => some (.error o)
    | (.failed reason, _) => some (.error (.failed (.stream (.read reason))))
    | (.panicked text, _) => some (.error (.panicked text))
termination_by source.size

theorem size_of_readOn {room : Nat} {s s' : Decoder × Text} {source rest : Source} {progress : Progress}
    (h : readOn room s source = .ok (progress, s', rest)) : rest.size ≤ source.size := by
  fun_induction readOn room s source with
  | case1 s source rest' hpoll =>
    cases h
    by_cases hsource : source = []
    · subst hsource
      exact Nat.le_of_eq (congrArg (Source.size ∘ Prod.snd) hpoll).symm
    · exact Nat.le_of_lt (Source.size_of_poll hpoll hsource)
  | case2 s source rest' hpoll =>
    cases h
    exact Nat.le_of_lt (Source.size_of_ready hpoll)
  | case3 s source b bs rest' hpoll _ s₁ _ ih => exact Nat.le_trans (ih h) (Nat.le_of_lt (Source.size_of_ready hpoll))
  | case4 => cases h
  | case5 => cases h
  | case6 => cases h

theorem size_of_readBatch {room : Nat} {s s' : Decoder × Text} {source rest : Source} {progress : Progress}
    (h : readBatch room s source = some (.ok (progress, s', rest))) : rest.size < source.size := by
  fun_induction readBatch room s source with
  | case1 => cases h
  | case2 source hsource rest' hpoll _ ih => exact Nat.lt_trans (ih h) (Source.size_of_poll hpoll hsource)
  | case3 source hsource rest' hpoll =>
    cases h
    exact Source.size_of_ready hpoll
  | case4 source hsource b bs rest' hpoll s₁ _ =>
    exact Nat.lt_of_le_of_lt (size_of_readOn (Option.some.inj h)) (Source.size_of_ready hpoll)
  | case5 => cases h
  | case6 => cases h
  | case7 => cases h

variable {σ : Type}

/-- Takes a stream batch by batch until it waits or is over. What the consumer put off is done by `between` when the
tokens of a batch are done with. -/
def watch (consume : Consumer σ) (between : σ → σ) (room : Nat) (s : σ) (w : Worker) (source : Source) :
    σ × Except Outcome Worker :=
  match h : readBatch room (w.decoder, w.pending.reverse) source with
  | none => (s, .ok w)
  | some (.error o) => (between s, .error o)
  | some (.ok (progress, (decoder, text), rest)) =>
    let w := { w with decoder, pending := text.reverse }
    if progress = .ended then (between s, .error w.finish)
    else match w.offer consume s with
      | (s, .error o) => (between s, .error o)
      | (s, .ok w) =>
        if progress = .lastData then (between s, .error w.finish)
        else
          have := size_of_readBatch h
          watch consume between room (between s) w rest
termination_by source.size

end Worker

end Dialogue
