import Dialogue.Proofs.Watch.Batch
import Dialogue.Watch.Loop

/-!
# The loop of a worker and its batches

A worker that reads and decodes in turns does what a worker does that is handed finished batches, in reads of the same
size.

* `Source.batchesFrom_eq_poll`: the batches of a source, one read at a time;
* `Worker.prepare_of_readOn`, `Worker.prepare_of_readBatch`: the reads of a batch and the batch;
* **`Worker.watch_eq_run`**: the loop comes to the batches of its source.
-/

namespace Dialogue

/-! ## One read at a time -/

theorem Source.batchesFrom_eq_poll (room : Nat) (acc : List Bytes) (source : Source) :
    source.batchesFrom room acc = match source.poll room with
      | (.pending, rest) => if acc.isEmpty then rest.batches room else ⟨acc.reverse, .idle⟩ :: rest.batches room
      | (.ready [], rest) => ⟨acc.reverse, .finished⟩ :: rest.batches room
      | (.ready (b :: bs), rest) => rest.batchesFrom room ((b :: bs) :: acc)
      | (.failed reason, rest) => ⟨acc.reverse, .failed reason⟩ :: rest.batches room
      | (.panicked text, rest) => ⟨acc.reverse, .panicked text⟩ :: rest.batches room := by
  fun_induction Source.poll room source with
  | case1 => rfl
  | case2 more ih => rw [batchesFrom, portions, ih]
  | case3 b bs more =>
    rw [batchesFrom, portions]
    rfl
  | case4 => rfl
  | case5 => rfl
  | case6 => rfl
  | case7 => rfl

theorem portions_eq_append (room : Nat) (acc : List Bytes) (bs : Bytes) : ∃ new, portions room acc bs = new ++ acc := by
  fun_induction portions room acc bs with
  | case1 => exact ⟨[], rfl⟩
  | case2 acc b rest ih =>
    obtain ⟨new, hnew⟩ := ih
    exact ⟨new ++ [b :: rest.take (room - 1)], by rw [hnew, List.append_assoc]; rfl⟩

/-- A batch that has begun keeps its reads. -/
theorem Source.exists_batch_of_begun (room : Nat) {acc : List Bytes} (hacc : acc ≠ []) (source : Source) :
    ∃ b more, source.batchesFrom room acc = b :: more ∧ acc.reverse <+: b.reads := by
  induction source generalizing acc with
  | nil =>
    rw [batchesFrom, if_neg (by simpa using hacc)]
    exact ⟨_, _, rfl, List.prefix_rfl⟩
  | cons e more ih =>
    cases e with
    | data bs =>
      obtain ⟨new, hnew⟩ := portions_eq_append room acc bs
      have hbegun : portions room acc bs ≠ [] := hnew ▸ List.append_ne_nil_of_right_ne_nil new hacc
      obtain ⟨b, others, hb, hreads⟩ := ih hbegun
      rw [hnew, List.reverse_append] at hreads
      exact ⟨b, others, hb, (List.prefix_append _ _).trans hreads⟩
    | pause =>
      rw [batchesFrom, if_neg (by simpa using hacc)]
      exact ⟨_, _, rfl, List.prefix_rfl⟩
    | finish => exact ⟨_, _, rfl, List.prefix_rfl⟩
    | fail reason => exact ⟨_, _, rfl, List.prefix_rfl⟩
    | panic text => exact ⟨_, _, rfl, List.prefix_rfl⟩

namespace Worker

/-! ## The reads of a batch -/

/-- The worker with what was decoded. -/
def withText (w : Worker) (s : Decoder × Text) : Worker := { w with decoder := s.1, pending := s.2.reverse }

/-- What the reads of a batch come to before any token is offered. -/
def prepared (w : Worker) : Except Outcome (Progress × (Decoder × Text) × Source) → Prepared
  | .error o => .done (.error o)
  | .ok (.ended, s, _) => .done (.error (w.withText s).finish)
  | .ok (.data, s, _) => .pass (w.withText s) false
  | .ok (.lastData, s, _) => .pass (w.withText s) true

variable {room : Nat} {w : Worker} {s : Decoder × Text} {source : Source}

theorem decode_of_foldlM {reads : List Bytes}
    (h : reads.foldlM Decoder.feed (w.decoder, w.pending.reverse) = .ok s) : w.decode reads = .ok (w.withText s) := by
  rw [decode, h]
  rfl

theorem foldlM_feed_concat {s₀ : Decoder × Text} (before : List Bytes) (h : before.foldlM Decoder.feed s₀ = .ok s)
    (bytes : Bytes) : (before ++ [bytes]).foldlM Decoder.feed s₀ = Decoder.feed s bytes := by
  rw [List.foldlM_append, h]
  exact bind_pure (Decoder.feed s bytes)

theorem feed_of_decodeRead {s₁ : Decoder × Text} {bytes : Bytes} (h : decodeRead s bytes = .ok s₁) :
    Decoder.feed s bytes = .ok s₁ := by
  rw [decodeRead] at h
  rcases hfeed : Decoder.feed s bytes with valid | s' <;> rw [hfeed] at h <;> cases h
  rfl

theorem prepare_of_decodeRead_error (room : Nat) (source : Source) (acc : List Bytes) {bytes : Bytes} {o : Outcome}
    (hs : acc.reverse.foldlM Decoder.feed (w.decoder, w.pending.reverse) = .ok s)
    (h : decodeRead s bytes = .error o) :
    ∃ b more, source.batchesFrom room (bytes :: acc) = b :: more ∧ w.prepare b = .done (.error o) := by
  obtain ⟨b, more, hb, others, hothers⟩ := Source.exists_batch_of_begun room (List.cons_ne_nil bytes acc) source
  have hencoding : s.1.encoding = w.decoder.encoding := by
    rw [Decoder.foldlM_feed] at hs
    exact Decoder.encoding_of_feed hs
  refine ⟨b, more, hb, ?_⟩
  rw [decodeRead] at h
  rcases hfeed : Decoder.feed s bytes with valid | s' <;> rw [hfeed] at h <;> cases h
  have hdecode : w.decode b.reads = .error (.stream (.malformed w.decoder.encoding valid)) := by
    rw [decode, ← hothers, List.reverse_cons, List.foldlM_append, foldlM_feed_concat _ hs, hfeed]
    rfl
  simp only [prepare, hdecode, hencoding]

theorem prepare_of_readOn {acc : List Bytes} (hacc : acc ≠ [])
    (hs : acc.reverse.foldlM Decoder.feed (w.decoder, w.pending.reverse) = .ok s) :
    ∃ b more, source.batchesFrom room acc = b :: more ∧ w.prepare b = w.prepared (readOn room s source) ∧
      ∀ s' rest, readOn room s source = .ok (.data, s', rest) → more = rest.batches room := by
  have hbegun : acc.isEmpty = false := by simpa using hacc
  have hreads : acc.reverse.isEmpty = false := by simpa using hacc
  fun_induction readOn room s source generalizing acc with
  | case1 s source rest hpoll =>
    rw [Source.batchesFrom_eq_poll, hpoll]
    refine ⟨_, _, if_neg (by simp [hbegun]), ?_, fun s' rest' h => by cases h; rfl⟩
    simp only [prepare, decode_of_foldlM hs, hreads]
    rfl
  | case2 s source rest hpoll =>
    rw [Source.batchesFrom_eq_poll, hpoll]
    refine ⟨_, _, rfl, ?_, fun s' rest' h => by cases h⟩
    simp only [prepare, decode_of_foldlM hs, hreads]
    rfl
  | case3 s source b bs rest hpoll _ s₁ hread ih =>
    rw [Source.batchesFrom_eq_poll, hpoll]
    refine ih (List.cons_ne_nil (b :: bs) acc) ?_ rfl (by simp)
    rw [List.reverse_cons, foldlM_feed_concat _ hs, feed_of_decodeRead hread]
  | case4 s source b bs rest hpoll _ o hread =>
    rw [Source.batchesFrom_eq_poll, hpoll]
    obtain ⟨batch, more, hbatch, hprepare⟩ := prepare_of_decodeRead_error room rest acc hs hread
    exact ⟨batch, more, hbatch, hprepare, fun s' rest' h => by cases h⟩
  | case5 s source reason rest hpoll =>
    rw [Source.batchesFrom_eq_poll, hpoll]
    refine ⟨_, _, rfl, ?_, fun s' rest' h => by cases h⟩
    simp only [prepare, decode_of_foldlM hs, prepared]
  | case6 s source text rest hpoll =>
    rw [Source.batchesFrom_eq_poll, hpoll]
    refine ⟨_, _, rfl, ?_, fun s' rest' h => by cases h⟩
    simp only [prepare, decode_of_foldlM hs, prepared]

/-- **The reads of a batch are the next batch of the stream**, and there is none as long as nothing comes. -/
theorem prepare_of_readBatch (room : Nat) (w : Worker) (source : Source) :
    match readBatch room (w.decoder, w.pending.reverse) source with
    | none => source.batches room = []
    | some r => ∃ b more, source.batches room = b :: more ∧ w.prepare b = w.prepared r ∧
        ∀ s' rest, r = .ok (.data, s', rest) → more = rest.batches room := by
  have hnone : w.decode [] = .ok (w.withText (w.decoder, w.pending.reverse)) := rfl
  have hpoll' := Source.batchesFrom_eq_poll room []
  fun_induction readBatch room (w.decoder, w.pending.reverse) source with
  | case1 => rfl
  | case2 source hsource rest hpoll _ ih =>
    have hsame : source.batches room = rest.batches room := by
      rw [Source.batches, hpoll', hpoll]
      rfl
    rwa [hsame]
  | case3 source hsource rest hpoll =>
    rw [Source.batches, hpoll', hpoll]
    refine ⟨_, _, rfl, ?_, fun s' rest' h => by cases h⟩
    simp only [prepare, List.reverse_nil, hnone]
    rfl
  | case4 source hsource b bs rest hpoll s₁ hread =>
    rw [Source.batches, hpoll', hpoll]
    exact prepare_of_readOn (List.cons_ne_nil (b :: bs) [])
      ((foldlM_feed_concat [] rfl (b :: bs)).trans (feed_of_decodeRead hread))
  | case5 source hsource b bs rest hpoll o hread =>
    rw [Source.batches, hpoll', hpoll]
    obtain ⟨batch, more, hbatch, hprepare⟩ := prepare_of_decodeRead_error room rest [] rfl hread
    exact ⟨batch, more, hbatch, hprepare, fun s' rest' h => by cases h⟩
  | case6 source hsource reason rest hpoll =>
    rw [Source.batches, hpoll', hpoll]
    refine ⟨_, _, rfl, ?_, fun s' rest' h => by cases h⟩
    simp only [prepare, List.reverse_nil, hnone, prepared]
  | case7 source hsource text rest hpoll =>
    rw [Source.batches, hpoll', hpoll]
    refine ⟨_, _, rfl, ?_, fun s' rest' h => by cases h⟩
    simp only [prepare, List.reverse_nil, hnone, prepared]

/-! ## Batch after batch -/

variable {σ : Type} {consume : Consumer σ} {t t' : σ}

/-- A pass that may be the last one, in terms of one that is not. -/
theorem ofPass_of_offer {r : Except Outcome Worker} (h : w.offer consume t = (t', r)) (last : Bool) :
    w.ofPass last (consume.pass t (w.delimiter.split w.pending)) =
      (t', r.bind fun w' => if last then .error w'.finish else .ok w') := by
  rw [offer_eq_ofPass] at h
  rcases hpass : consume.pass t (w.delimiter.split w.pending) with ⟨t₁, why | pending⟩ <;> rw [hpass] at h <;> cases h
  · rfl
  · cases last <;> rfl

theorem takeBatch_of_prepared {b : Batch} {progress : Progress} {rest : Source} {r : Except Outcome Worker}
    (h : w.prepare b = w.prepared (.ok (progress, s, rest))) (hended : progress ≠ .ended)
    (hoffer : (w.withText s).offer consume t = (t', r)) :
    w.takeBatch consume t b =
      (t', r.bind fun w' => if progress = .lastData then .error w'.finish else .ok w') := by
  rw [takeBatch_eq_prepare, h]
  cases progress with
  | data => exact ofPass_of_offer hoffer false
  | lastData => exact ofPass_of_offer hoffer true
  | ended => exact absurd rfl hended

theorem run_of_readBatch {r : Except Outcome (Progress × (Decoder × Text) × Source)}
    (h : readBatch room (w.decoder, w.pending.reverse) source = some r) (consume : Consumer σ) (between : σ → σ)
    (t : σ) : ∃ b more, w.prepare b = w.prepared r ∧
      run consume between t w (source.batches room) = run consume between t w (b :: more) ∧
      ∀ s' rest, r = .ok (.data, s', rest) → more = rest.batches room := by
  have hbatch := prepare_of_readBatch room w source
  rw [h] at hbatch
  obtain ⟨b, more, hb, hprepare, hmore⟩ := hbatch
  exact ⟨b, more, hprepare, by rw [hb], hmore⟩

/-- **The loop of a worker comes to the batches of its stream.** -/
theorem watch_eq_run (consume : Consumer σ) (between : σ → σ) (room : Nat) (t : σ) (w : Worker) (source : Source) :
    watch consume between room t w source = run consume between t w (source.batches room) := by
  fun_induction watch consume between room t w source with
  | case1 t w source hread =>
    have hbatch := prepare_of_readBatch room w source
    rw [hread] at hbatch
    rw [hbatch, run]
  | case2 t w source o hread =>
    obtain ⟨b, more, hprepare, hrun, -⟩ := run_of_readBatch hread consume between t
    rw [hrun, run, takeBatch_eq_prepare, hprepare]
    rfl
  | case3 t w source decoder text rest w' hread =>
    obtain ⟨b, more, hprepare, hrun, -⟩ := run_of_readBatch hread consume between t
    rw [hrun, run, takeBatch_eq_prepare, hprepare]
    rfl
  | case4 t w source progress decoder text rest hread w' hended t' o hoffer =>
    obtain ⟨b, more, hprepare, hrun, -⟩ := run_of_readBatch hread consume between t
    rw [hrun, run, takeBatch_of_prepared hprepare hended hoffer]
    rfl
  | case5 t w source decoder text rest w' t' w₁ hoffer hread hended =>
    obtain ⟨b, more, hprepare, hrun, -⟩ := run_of_readBatch hread consume between t
    rw [hrun, run, takeBatch_of_prepared hprepare hended hoffer]
    rfl
  | case6 t w source progress decoder text rest hread w' hended t' w₁ hoffer hlast _ ih =>
    obtain ⟨b, more, hprepare, hrun, hmore⟩ := run_of_readBatch hread consume between t
    obtain rfl : progress = .data := by cases progress <;> simp_all
    rw [hrun, run, takeBatch_of_prepared hprepare hended hoffer, hmore _ rest rfl, ih]
    rfl

end Worker

end Dialogue
