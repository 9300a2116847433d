import Dialogue.Proofs.Watch.Loop
import Dialogue.Proofs.Watch.Offers

/-!
# Reads within a batch do not matter

What a worker does depends on the bytes that come between two points at which its stream is not ready, and on what
stops the stream, but not on the sizes of the reads that take those bytes.

* `Source.stretches`: the bytes between such points, each with what comes after them;
* `Source.Reads`: batches that read a source; `Source.reads_batches`: reads of any size do;
* `Worker.takeBatch_congr`, `Worker.run_eq_run_stretches`: a batch counts by its bytes and its end;
* `Worker.run_stretches_finish`: the end of a stream may come with the last bytes or after them;
* `Worker.watch_append_of_error`: a batch that fails offers nothing;
* **`Worker.watch_of_reads`**: any two ways of reading a source lead to the same offers and the same outcome.
-/

namespace Dialogue

/-! ## The bytes of a batch -/

/-- The bytes between two points at which a source is not ready or stops, and what comes after them; the first of them
come after the bytes `acc`. -/
def Source.stretchesFrom (acc : Bytes) : Source → List (Bytes × Ending)
  | [] => if acc = [] then [] else [(acc, .idle)]
  | .data bs :: more => stretchesFrom (acc ++ bs) more
  | .pause :: more => if acc = [] then stretchesFrom [] more else (acc, .idle) :: stretchesFrom [] more
  | .finish :: more => (acc, .finished) :: stretchesFrom [] more
  | .fail reason :: more => (acc, .failed reason) :: stretchesFrom [] more
  | .panic text :: more => (acc, .panicked text) :: stretchesFrom [] more

/-- The bytes that a source delivers without a break. -/
def Source.stretches (s : Source) : List (Bytes × Ending) := s.stretchesFrom []

/-- A batch without its reads. -/
def Batch.whole (b : Batch) : Bytes × Ending := (b.reads.flatten, b.ending)

/-- The batch that takes all its bytes at once. -/
def Batch.ofWhole (p : Bytes × Ending) : Batch := ⟨if p.1 = [] then [] else [p.1], p.2⟩

/-- Ways to read a source: a read takes at least one byte, and a batch goes on as long as there are more at once. -/
structure Source.Reads (s : Source) (batches : List Batch) : Prop where
  proper : ∀ b ∈ batches, [] ∉ b.reads
  whole : batches.map Batch.whole = s.stretches

theorem Batch.reads_eq_nil_iff {b : Batch} (h : [] ∉ b.reads) : b.reads = [] ↔ b.whole.1 = [] := by
  constructor
  · intro hnil
    simp [whole, hnil]
  · intro hnil
    rw [List.eq_nil_iff_forall_not_mem]
    intro r hr
    have hempty := List.flatten_eq_nil_iff.mp hnil r hr
    exact h (hempty ▸ hr)

theorem Batch.proper_ofWhole (p : Bytes × Ending) : [] ∉ (ofWhole p).reads := by
  by_cases h : p.1 = []
  · simp [ofWhole, h]
  · simp [ofWhole, h, Ne.symm h]

theorem Batch.whole_ofWhole (p : Bytes × Ending) : (ofWhole p).whole = p := by
  by_cases h : p.1 = []
  · simp [ofWhole, whole, h, Prod.ext_iff]
  · simp [ofWhole, whole, h]

/-! ## Reads of any size -/

theorem nil_not_mem_portions (room : Nat) {acc : List Bytes} (hacc : [] ∉ acc) (bs : Bytes) :
    [] ∉ portions room acc bs := by
  fun_induction portions room acc bs with
  | case1 => exact hacc
  | case2 acc b rest ih => exact ih (by simp [hacc])

theorem Source.reads_batchesFrom (room : Nat) (s : Source) {acc : List Bytes} (hacc : [] ∉ acc) :
    (∀ b ∈ s.batchesFrom room acc, [] ∉ b.reads) ∧
      (s.batchesFrom room acc).map Batch.whole = s.stretchesFrom acc.reverse.flatten := by
  -- a batch that has begun has bytes
  have hempty : acc.reverse.flatten = [] ↔ acc = [] := by
    have h := Batch.reads_eq_nil_iff (b := ⟨acc.reverse, .idle⟩) (by simpa using hacc)
    simpa [Batch.whole] using h.symm
  induction s generalizing acc with
  | nil => by_cases h : acc = [] <;> simp_all [batchesFrom, stretchesFrom, Batch.whole]
  | cons e more ih =>
    have hnext := @ih [] List.not_mem_nil (by simp)
    cases e with
    | data bs =>
      have hportions := nil_not_mem_portions room hacc bs
      have hmore := ih hportions (by
        have h := Batch.reads_eq_nil_iff (b := ⟨(portions room acc bs).reverse, .idle⟩) (by simpa using hportions)
        simpa [Batch.whole] using h.symm)
      rwa [flatten_portions] at hmore
    | pause => by_cases h : acc = [] <;> simp_all [batchesFrom, stretchesFrom, Batch.whole]
    | finish => simp_all [batchesFrom, stretchesFrom, Batch.whole]
    | fail reason => simp_all [batchesFrom, stretchesFrom, Batch.whole]
    | panic text => simp_all [batchesFrom, stretchesFrom, Batch.whole]

/-- **Reads of any size read a source**, with room for at least one byte. -/
theorem Source.reads_batches (room : Nat) (s : Source) : s.Reads (s.batches room) := by
  obtain ⟨hproper, hwhole⟩ := @reads_batchesFrom room s [] List.not_mem_nil
  exact ⟨hproper, hwhole⟩

namespace Worker

variable {σ : Type} (consume : Consumer σ) (between : σ → σ) (s : σ) (w : Worker)

/-! ## A batch counts by its bytes -/

theorem takeBatch_congr {b b' : Batch} (hb : [] ∉ b.reads) (hb' : [] ∉ b'.reads) (h : b.whole = b'.whole) :
    w.takeBatch consume s b = w.takeBatch consume s b' := by
  have hbytes : b.reads.flatten = b'.reads.flatten := congrArg Prod.fst h
  have hending : b.ending = b'.ending := congrArg Prod.snd h
  have hempty : b.reads.isEmpty = b'.reads.isEmpty := by
    rw [Bool.eq_iff_iff, List.isEmpty_iff, List.isEmpty_iff, Batch.reads_eq_nil_iff hb, Batch.reads_eq_nil_iff hb', h]
  have hdecode : w.decode b.reads = w.decode b'.reads := by rw [decode_eq, decode_eq, hbytes]
  simp only [takeBatch, hdecode, hending, hempty]

theorem run_eq_run_whole {batches : List Batch} (h : ∀ b ∈ batches, [] ∉ b.reads) :
    run consume between s w batches = run consume between s w ((batches.map Batch.whole).map Batch.ofWhole) := by
  induction batches generalizing s w with
  | nil => rfl
  | cons b more ih =>
    obtain ⟨hb, hmore⟩ := List.forall_mem_cons.mp h
    have htake := takeBatch_congr consume s w hb (Batch.proper_ofWhole b.whole) (Batch.whole_ofWhole b.whole).symm
    rw [List.map_cons, List.map_cons, run, run, ← htake]
    rcases w.takeBatch consume s b with ⟨s', o | w'⟩
    · rfl
    · exact ih (between s') w' hmore

/-- A source is read as if all bytes that come without a break were read at once. -/
theorem run_eq_run_stretches {source : Source} {batches : List Batch} (h : source.Reads batches) :
    run consume between s w batches = run consume between s w (source.stretches.map Batch.ofWhole) := by
  rw [run_eq_run_whole consume between s w h.proper, h.whole]

/-! ## The end of a stream -/

theorem run_cons_congr (b : Batch) {more more' : List Batch}
    (h : ∀ s w, run consume between s w more = run consume between s w more') :
    run consume between s w (b :: more) = run consume between s w (b :: more') := by
  rw [run, run]
  rcases w.takeBatch consume s b with ⟨s', o | w'⟩
  · rfl
  · exact h (between s') w'

theorem run_cons_of_stop {b : Batch} (h : b.ending ≠ .idle) (more more' : List Batch) :
    run consume between s w (b :: more) = run consume between s w (b :: more') := by
  rw [run, run]
  rcases htake : w.takeBatch consume s b with ⟨s', o | w'⟩
  · rfl
  · obtain ⟨-, -, hidle, -⟩ := takeBatch_eq_ok htake
    exact absurd hidle h

theorem run_idle_finished (hbetween : ∀ s, between (between s) = between s) (bs : Bytes)
    (more more' : List Batch) :
    run consume between s w (⟨[bs], .idle⟩ :: ⟨[], .finished⟩ :: more) =
      run consume between s w (⟨[bs], .finished⟩ :: more') := by
  have hend : ∀ s w, run consume between s w (⟨[], .finished⟩ :: more) = (between s, .error (finish w)) := by
    intro s w
    have hdecode : w.decode [] = .ok w := by simp [decode, pure, Except.pure]
    rw [run, takeBatch_finished hdecode rfl, if_pos rfl]
  rw [run, run]
  rcases hdecode : w.decode [bs] with e | read
  · simp only [takeBatch, hdecode]
  · rw [takeBatch_idle hdecode rfl, takeBatch_finished hdecode rfl]
    rcases hoffer : read.offer consume s with ⟨s', o | w'⟩ <;> simp [hend, hbetween]

theorem run_stretchesFrom_finish (hbetween : ∀ s, between (between s) = between s) (before after : Source)
    (acc : Bytes) :
    run consume between s w ((Source.stretchesFrom acc (before ++ .pause :: .finish :: after)).map Batch.ofWhole) =
      run consume between s w ((Source.stretchesFrom acc (before ++ .finish :: after)).map Batch.ofWhole) := by
  induction before generalizing acc s w with
  | nil =>
    by_cases hacc : acc = []
    · simp [Source.stretchesFrom, hacc]
    · have hlast := run_idle_finished consume between s w hbetween acc
        ((Source.stretchesFrom [] after).map Batch.ofWhole) ((Source.stretchesFrom [] after).map Batch.ofWhole)
      simpa [Source.stretchesFrom, Batch.ofWhole, hacc] using hlast
  | cons e before ih =>
    cases e with
    | data bs => exact ih s w (acc ++ bs)
    | pause =>
      by_cases hacc : acc = []
      · simpa [Source.stretchesFrom, hacc] using ih s w []
      · simp only [List.cons_append, Source.stretchesFrom, if_neg hacc, List.map_cons]
        exact run_cons_congr consume between s w _ fun s w => ih s w []
    | finish => exact run_cons_of_stop consume between s w Ending.noConfusion _ _
    | fail reason => exact run_cons_of_stop consume between s w Ending.noConfusion _ _
    | panic text => exact run_cons_of_stop consume between s w Ending.noConfusion _ _

/-- **The end of a stream may come with the last bytes or after them.** -/
theorem run_stretches_finish (hbetween : ∀ s, between (between s) = between s) (before after : Source) :
    run consume between s w ((Source.stretches (before ++ .pause :: .finish :: after)).map Batch.ofWhole) =
      run consume between s w ((Source.stretches (before ++ .finish :: after)).map Batch.ofWhole) :=
  run_stretchesFrom_finish consume between s w hbetween before after []

/-! ## Errors -/

theorem batchesFrom_append_pause (room : Nat) (acc : List Bytes) (before after : Source) :
    Source.batchesFrom room acc (before ++ .pause :: after) =
      Source.batchesFrom room acc before ++ after.batches room := by
  induction before generalizing acc with
  | nil =>
    rw [List.nil_append, Source.batchesFrom, Source.batchesFrom]
    split_ifs <;> rfl
  | cons e before ih =>
    cases e with
    | data bs => exact ih _
    | pause =>
      rw [List.cons_append, Source.batchesFrom, Source.batchesFrom]
      split_ifs
      · exact ih []
      · exact congrArg _ (ih [])
    | finish => exact congrArg _ (ih [])
    | fail reason => exact congrArg _ (ih [])
    | panic text => exact congrArg _ (ih [])

/-- A batch that cannot be read changes nothing but that the worker is over. -/
theorem watch_append_of_error {room : Nat} {before : Source} {s' : σ} {w' : Worker} {o : Outcome}
    (hwatch : watch consume between room s w before = (s', .ok w')) (after : Source)
    (herror : readBatch room (w'.decoder, w'.pending.reverse) after = some (.error o)) :
    watch consume between room s w (before ++ .pause :: after) = (between s', .error o) := by
  rw [watch_eq_run] at hwatch
  rw [watch_eq_run, Source.batches, batchesFrom_append_pause, ← Source.batches, run_append_of_ok hwatch, ← watch_eq_run,
    watch]
  split
  · next h =>
    rw [herror] at h
    cases h
  · next h =>
    rw [herror] at h
    cases h
    rfl
  · next h =>
    rw [herror] at h
    cases h

/-- **Only batches matter.** Two workers over the same delimiter, with the same encoding and the same treatment of
control sequences, make the same calls of a consumer and come to the same outcome
* when their sources deliver the same bytes without a break, whatever room they have for a read and however their
  sources hand the bytes out;
* when they are handed the same bytes in finished batches of any reads;
* when the end of the stream comes alone for one of them and right after the last bytes for the other.

In a batch that fails to be read or decoded no token is offered, and none after it. -/
theorem watch_of_reads {c₁ c₂ : WatchConfig} {d : Delimiter} {w₁ w₂ : Worker} (h₁ : start c₁ d = .ok w₁)
    (h₂ : start c₂ d = .ok w₂) (hencoding : c₁.encoding = c₂.encoding) (hstrip : c₁.strip = c₂.strip) :
    let calls := consume.recording
    let between' := Prod.map between id
    (∀ (room₁ room₂ : Nat) (source₁ source₂ : Source), source₁.stretches = source₂.stretches →
      watch calls between' room₁ (s, []) w₁ source₁ = watch calls between' room₂ (s, []) w₂ source₂) ∧
    (∀ (source : Source) (batches : List Batch), source.Reads batches →
      run calls between' (s, []) w₁ batches = watch calls between' (room c₂) (s, []) w₂ source) ∧
    ((∀ s, between (between s) = between s) → ∀ (room₁ room₂ : Nat) (before after : Source),
      watch calls between' room₁ (s, []) w₁ (before ++ .pause :: .finish :: after) =
        watch calls between' room₂ (s, []) w₂ (before ++ .finish :: after)) ∧
    ∀ (room : Nat) (before after : Source) (s' : σ) (record : List (Text × Verdict)) (w' : Worker) (o : Outcome),
      watch calls between' room (s, []) w₁ before = ((s', record), .ok w') →
      readBatch room (w'.decoder, w'.pending.reverse) after = some (.error o) →
        watch calls between' room (s, []) w₁ (before ++ .pause :: after) = ((between s', record), .error o) := by
  intro calls between'
  obtain rfl : w₁ = w₂ := by rw [start_eq_ok h₁, start_eq_ok h₂, hencoding, hstrip]
  refine ⟨fun room₁ room₂ source₁ source₂ hsame => ?_, fun source batches hreads => ?_,
    fun hbetween room₁ room₂ before after => ?_,
    fun room before after s' record w' o hwatch herror => watch_append_of_error _ _ _ _ hwatch after herror⟩
  · rw [watch_eq_run, watch_eq_run, run_eq_run_stretches _ _ _ _ (source₁.reads_batches room₁),
      run_eq_run_stretches _ _ _ _ (source₂.reads_batches room₂), hsame]
  · rw [watch_eq_run, run_eq_run_stretches _ _ _ _ hreads, run_eq_run_stretches _ _ _ _ (source.reads_batches _)]
  · have hrecording : ∀ t : σ × List (Text × Verdict), between' (between' t) = between' t :=
      fun t => Prod.ext (hbetween t.1) rfl
    rw [watch_eq_run, watch_eq_run, run_eq_run_stretches _ _ _ _ (Source.reads_batches _ _),
      run_eq_run_stretches _ _ _ _ (Source.reads_batches _ _), run_stretches_finish _ _ _ _ hrecording]

/-- A character and a line are read byte by byte by one worker and at once by the other, and the stream ends later for
the first one; a byte that begins no character takes the line before it along. -/
theorem watch_of_reads_of_cut_character :
    let go := watch (Consumer.recording fun (n : Nat) _ => (n + 1, .declined)) (Prod.map id id)
    let w : Worker := ⟨.line, .start .utf8 false, []⟩
    go 1 (0, []) w [.data [0xC3, 0xA9, 0x0A], .pause, .finish] =
      go 8192 (0, []) w [.data [0xC3], .data [0xA9, 0x0A], .finish] ∧
    go 1 (0, []) w [.data [0x61, 0x0A], .pause, .data [0x62, 0x0A], .data [0xFF]] =
      ((1, [(['a'], .declined)]), .error (.failed (.stream (.malformed .utf8 4)))) := by
  intro go w
  have hsmall : start ⟨.utf8, 1, 0, false⟩ .line = .ok w := rfl
  have hlarge : start ⟨.utf8, 8192, 8192, false⟩ .line = .ok w := rfl
  obtain ⟨hreads, -, hend, herror⟩ := watch_of_reads (fun (n : Nat) _ => (n + 1, .declined)) id 0 hsmall hlarge rfl rfl
  have hread : (Decoder.start .utf8 false).read [0x61, 0x0A] = .ok (⟨.utf8, none, [], 2, .inl rfl⟩, ['a', '\n']) := by
    decide +kernel
  have hdecode : w.decode [[0x61], [0x0A]] = .ok ⟨.line, ⟨.utf8, none, [], 2, .inl rfl⟩, ['a', '\n']⟩ := by
    rw [decode_eq, show w.decoder.read [[0x61], [0x0A]].flatten = _ from hread]
    rfl
  have hbatches : Source.batches 1 [.data [0x61, 0x0A]] = [⟨[[0x61], [0x0A]], .idle⟩] := by decide +kernel
  have hline : go 1 (0, []) w [.data [0x61, 0x0A]] =
      ((1, [(['a'], .declined)]), .ok ⟨.line, ⟨.utf8, none, [], 2, .inl rfl⟩, []⟩) := by
    simp only [go]
    rw [watch_eq_run, hbatches, run, takeBatch_idle hdecode rfl]
    rfl
  have hfailed : readBatch 1 (⟨.utf8, none, [], 2, .inl rfl⟩, []) [.data [0x62, 0x0A], .data [0xFF]] =
      some (.error (.failed (.stream (.malformed .utf8 4)))) := by decide +kernel
  refine ⟨?_, herror 1 [.data [0x61, 0x0A]] [.data [0x62, 0x0A], .data [0xFF]] _ _ _ _ hline hfailed⟩
  exact (hend (fun _ => rfl) 1 8192 [.data [0xC3, 0xA9, 0x0A]] []).trans
    (hreads 8192 8192 [.data [0xC3, 0xA9, 0x0A], .finish] [.data [0xC3], .data [0xA9, 0x0A], .finish] rfl)

end Worker

end Dialogue
