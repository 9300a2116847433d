import Dialogue.Watch.Worker
import Dialogue.Proofs.Encoding.Reading
import Mathlib.Tactic.Common

/-!
# What one batch does

The steps of a worker, with what each of them comes to.

* `decode_eq`, `decode_eq_ok`: bytes are decoded and added to the pending text;
* `offer_eq_ok`: a pass that is completed;
* `takeBatch_idle`, `takeBatch_finished`, `takeBatch_eq_ok`: a batch, by the way it ends;
* `prepare`, `ofPass`, `takeBatch_eq_prepare`: a batch, by whether there is a pass to be made;
* `start_eq_ok`, `run_append_of_ok`: where a worker begins, and where it goes on.
-/

namespace Dialogue.Worker

variable {σ : Type} {consume : Consumer σ} {s s' : σ} {w w' : Worker} {b : Batch}

theorem decode_eq (w : Worker) (reads : List Bytes) :
    w.decode reads = match w.decoder.read reads.flatten with
      | .ok (decoder, new) => .ok { w with decoder, pending := w.pending ++ new }
      | .error valid => .error (.stream (.malformed w.decoder.encoding valid)) := by
  unfold decode
  rw [Decoder.foldlM_feed, Decoder.feed_eq_read]
  rcases w.decoder.read reads.flatten with e | ⟨decoder, new⟩
  · rfl
  · change Except.ok { w with decoder, pending := (new.reverse ++ w.pending.reverse).reverse } = _
    rw [List.reverse_append, List.reverse_reverse, List.reverse_reverse]

theorem decode_eq_ok {reads : List Bytes} (h : w.decode reads = .ok w') :
    ∃ new, w.decoder.read reads.flatten = .ok (w'.decoder, new) ∧ w'.pending = w.pending ++ new ∧
      w'.delimiter = w.delimiter := by
  rw [decode_eq] at h
  rcases hread : w.decoder.read reads.flatten with e | ⟨decoder, new⟩
  · rw [hread] at h
    cases h
  · rw [hread] at h
    obtain rfl := Except.ok.inj h
    exact ⟨new, rfl, rfl, rfl⟩

theorem offer_eq_ok (h : w.offer consume s = (s', .ok w')) :
    consume.pass s (w.delimiter.split w.pending) = (s', .ok w'.pending) ∧ w'.decoder = w.decoder ∧
      w'.delimiter = w.delimiter := by
  unfold offer at h
  rcases hpass : consume.pass s (w.delimiter.split w.pending) with ⟨s₁, why | pending⟩
  · rw [hpass] at h
    cases h
  · rw [hpass] at h
    cases h
    exact ⟨rfl, rfl, rfl⟩

/-- A worker goes on after a batch when there are no more bytes for now: it has made a pass if there were any. -/
theorem takeBatch_eq_ok (h : w.takeBatch consume s b = (s', .ok w')) :
    ∃ read, w.decode b.reads = .ok read ∧ b.ending = .idle ∧
      (b.reads = [] ∧ w' = read ∨ b.reads ≠ [] ∧ read.offer consume s = (s', .ok w')) := by
  unfold takeBatch at h
  rcases hdecode : w.decode b.reads with e | read
  · rw [hdecode] at h
    cases h
  rw [hdecode] at h
  refine ⟨read, rfl, ?_⟩
  rcases hending : b.ending with _ | _ | reason | text
  · simp only [hending, List.isEmpty_iff] at h
    refine ⟨rfl, ?_⟩
    split_ifs at h with hreads
    · exact .inl ⟨hreads, (Except.ok.inj (Prod.ext_iff.mp h).2).symm⟩
    · exact .inr ⟨hreads, h⟩
  · simp only [hending] at h
    split_ifs at h
    · cases h
    · rcases hoffer : read.offer consume s with ⟨s₁, o | w₁⟩ <;> rw [hoffer] at h <;> cases h
  · simp only [hending] at h
    cases h
  · simp only [hending] at h
    cases h

theorem takeBatch_idle (hdecode : w.decode b.reads = .ok w') (hending : b.ending = .idle) :
    w.takeBatch consume s b = if b.reads = [] then (s, .ok w') else w'.offer consume s := by
  unfold takeBatch
  simp only [hdecode, hending, List.isEmpty_iff]

theorem takeBatch_finished (hdecode : w.decode b.reads = .ok w') (hending : b.ending = .finished) :
    w.takeBatch consume s b =
      if b.reads = [] then (s, .error w'.finish)
      else match w'.offer consume s with
        | (s, .ok w) => (s, .error w.finish)
        | (s, .error o) => (s, .error o) := by
  unfold takeBatch
  rcases hoffer : w'.offer consume s with ⟨s₁, o | w₁⟩ <;> simp only [hdecode, hending, List.isEmpty_iff, hoffer]

/-! ### Before and after the pass -/

/-- What a batch comes to before any token is offered: it is done with, or there is a pass to be made over what was
read, and it may be the last one. -/
inductive Prepared where
  | done (r : Except Outcome Worker)
  | pass (read : Worker) (last : Bool)

/-- Decodes a batch. -/
def prepare (w : Worker) (b : Batch) : Prepared :=
  match w.decode b.reads with
  | .error e => .done (.error (.failed e))
  | .ok read =>
    match b.ending with
    | .failed reason => .done (.error (.failed (.stream (.read reason))))
    | .panicked text => .done (.error (.panicked text))
    | .idle => if b.reads.isEmpty then .done (.ok read) else .pass read false
    | .finished => if b.reads.isEmpty then .done (.error read.finish) else .pass read true

/-- A worker after a pass that leaves some text pending. -/
def afterPass (w : Worker) (last : Bool) (pending : Text) : Except Outcome Worker :=
  if last then .error { w with pending }.finish else .ok { w with pending }

/-- What a pass comes to. -/
def ofPass (w : Worker) (last : Bool) : σ × Except Stop Text → σ × Except Outcome Worker
  | (s, .ok pending) => (s, w.afterPass last pending)
  | (s, .error why) => (s, .error (.ofStop why))

@[simp] theorem ofPass_fst (w : Worker) (last : Bool) (r : σ × Except Stop Text) : (w.ofPass last r).1 = r.1 := by
  obtain ⟨s, why | pending⟩ := r <;> rfl

theorem offer_eq_ofPass (consume : Consumer σ) (s : σ) (w : Worker) :
    w.offer consume s = w.ofPass false (consume.pass s (w.delimiter.split w.pending)) := by
  unfold offer
  rcases consume.pass s (w.delimiter.split w.pending) with ⟨s', why | pending⟩ <;> rfl

/-- **A batch is done with without its consumer, or all that the consumer has to do with it is a pass.** -/
theorem takeBatch_eq_prepare (consume : Consumer σ) (s : σ) (w : Worker) (b : Batch) :
    w.takeBatch consume s b = match w.prepare b with
      | .done r => (s, r)
      | .pass read last => read.ofPass last (consume.pass s (read.delimiter.split read.pending)) := by
  unfold takeBatch prepare
  rcases w.decode b.reads with e | read
  · rfl
  rcases b.ending with _ | _ | reason | text
  · simp only
    split_ifs
    · rfl
    · exact offer_eq_ofPass ..
  · simp only
    split_ifs
    · rfl
    · rw [offer_eq_ofPass]
      simp only
      rcases consume.pass s (read.delimiter.split read.pending) with ⟨s', why | pending⟩ <;> rfl
  · rfl
  · rfl

/-! ### Where a worker begins and goes on -/

theorem start_eq_ok {config : WatchConfig} {delimiter : Delimiter} (h : start config delimiter = .ok w) :
    w = ⟨delimiter, .start config.encoding config.strip, []⟩ := by
  unfold start at h
  split_ifs at h
  exact (Except.ok.inj h).symm

theorem run_append_of_ok {between : σ → σ} {as : List Batch} (h : run consume between s w as = (s', .ok w'))
    (bs : List Batch) : run consume between s w (as ++ bs) = run consume between s' w' bs := by
  rw [run_append, h]

end Dialogue.Worker
