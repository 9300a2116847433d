import Dialogue.Proofs.Watch.Batch

/-!
# A worker step by step

In one step a worker begins, takes a batch that is there, hands the next token to its consumer, or gets the answer to
it. It can be stopped between any two steps; when it is not, it comes to what `Worker.run` says.

* `Stage`, `Desk`: how far a worker is, and what it works on; `Stage.step`: one step;
* `Stage.goOn`: all that is left to be done;
* **`Stage.goOn_step`**: a step does a part of it;
* `Stage.rank`, `Stage.step_lt`: steps lead to a place where the worker waits, or to its end.
-/

namespace Dialogue

variable {σ : Type}

/-- How far a worker is. It was not run yet, or waits for a batch, or goes over what is left of a text. In the last
case its consumer may have the next token already, and the stream may be over. -/
inductive Stage where
  | spawned (config : WatchConfig) (delimiter : Delimiter)
  | reading (w : Worker)
  | passing (w : Worker) (text : Split) (asked last : Bool)

/-- What a worker works on: the batches to come, its consumer, and the tokens that were offered to it. -/
structure Desk (σ : Type) where
  batches : List Batch
  state : σ
  offered : List Text

/-- The token that is next in a text. -/
def Split.next? (text : Split) : Option Text :=
  match text.pieces with
  | (token, _) :: _ => some token
  | [] => if text.rest.isEmpty then none else some text.rest

namespace Stage

variable (consume : Consumer σ) (between : σ → σ)

/-- A batch is done with. -/
def settle (x : Desk σ) (r : Except Outcome Worker) : Desk σ × Except Outcome Stage :=
  ({ x with state := between x.state }, r.map .reading)

/-- Takes a batch. -/
def take (x : Desk σ) (w : Worker) (b : Batch) : Desk σ × Except Outcome Stage :=
  match w.prepare b with
  | .done r => settle between x r
  | .pass read last => (x, .ok (.passing read (read.delimiter.split read.pending) false last))

/-- The consumer answers a token. -/
def answer (x : Desk σ) (w : Worker) (text : Split) (last : Bool) : Verdict → Desk σ × Except Outcome Stage
  | .stopped why => settle between x (.error (.ofStop why))
  | v =>
    match text.pieces with
    | _ :: more => (x, .ok (.passing w ⟨more, text.rest⟩ false last))
    | [] => settle between x (w.afterPass last (if v = .accepted then [] else text.rest))

/-- One step; without a batch a worker waits. -/
def step (x : Desk σ) : Stage → Desk σ × Except Outcome Stage
  | .spawned config delimiter => (x, (Worker.start config delimiter).map .reading)
  | .reading w =>
    match x.batches with
    | [] => (x, .ok (.reading w))
    | b :: more => take between { x with batches := more } w b
  | .passing w text asked last =>
    match text.next? with
    | none => settle between x (w.afterPass last [])
    | some token =>
      if asked then answer between { x with state := (consume x.state token).1 } w text last (consume x.state token).2
      else ({ x with offered := x.offered ++ [token] }, .ok (.passing w text true last))

/-- The batch is done with, and the worker takes those that are left. -/
def goOnAfter (batches : List Batch) : σ × Except Outcome Worker → σ × Except Outcome Worker
  | (s, .ok w) => Worker.run consume between (between s) w batches
  | (s, .error o) => (between s, .error o)

/-- Does all that is left to be done. -/
def goOn (x : Desk σ) : Stage → σ × Except Outcome Worker
  | .spawned config delimiter =>
    match Worker.start config delimiter with
    | .ok w => Worker.run consume between x.state w x.batches
    | .error o => (x.state, .error o)
  | .reading w => Worker.run consume between x.state w x.batches
  | .passing w text _ last => goOnAfter consume between x.batches (w.ofPass last (consume.pass x.state text))

/-- Goes on after a step, if there is anything left to be done. -/
def goOnFrom : Desk σ × Except Outcome Stage → σ × Except Outcome Worker
  | (x, .ok stage) => stage.goOn consume between x
  | (x, .error o) => (x.state, .error o)

theorem goOnFrom_settle (x : Desk σ) (r : Except Outcome Worker) :
    goOnFrom consume between (settle between x r) = goOnAfter consume between x.batches (x.state, r) := by
  cases r <;> rfl

theorem goOnFrom_take (x : Desk σ) (w : Worker) (b : Batch) :
    goOnFrom consume between (take between x w b) =
      goOnAfter consume between x.batches (w.takeBatch consume x.state b) := by
  rw [Worker.takeBatch_eq_prepare, take]
  rcases w.prepare b with r | ⟨read, last⟩
  · exact goOnFrom_settle ..
  · rfl

theorem goOnFrom_answer (x : Desk σ) (w : Worker) {text : Split} {token : Text} (htoken : text.next? = some token)
    (asked last : Bool) :
    goOnFrom consume between (answer between { x with state := (consume x.state token).1 } w text last
      (consume x.state token).2) = goOn consume between x (.passing w text asked last) := by
  obtain ⟨pieces, rest⟩ := text
  rcases pieces with _ | ⟨⟨token', text⟩, more⟩
  · simp only [Split.next?] at htoken
    split_ifs at htoken with hrest
    obtain rfl := Option.some.inj htoken
    simp only [goOn, Consumer.pass, List.map_nil, Consumer.offerAll, if_neg hrest]
    rcases consume x.state rest with ⟨s, v⟩
    cases v with
    | stopped why => rfl
    | accepted => exact goOnFrom_settle ..
    | declined => exact goOnFrom_settle ..
  · obtain rfl := Option.some.inj htoken
    simp only [goOn, Consumer.pass, List.map_cons, Consumer.offerAll]
    rcases hv : consume x.state token' with ⟨s, v⟩
    cases v with
    | stopped why => rfl
    | accepted => rfl
    | declined => rfl

/-- **A step does a part of what is left to be done.** -/
theorem goOn_step (x : Desk σ) (stage : Stage) :
    goOnFrom consume between (stage.step consume between x) = stage.goOn consume between x := by
  cases stage with
  | spawned config delimiter =>
    simp only [step, goOn]
    rcases Worker.start config delimiter with o | w <;> rfl
  | reading w =>
    simp only [step, goOn]
    obtain ⟨_ | ⟨b, more⟩, s, offered⟩ := x
    · rfl
    · exact goOnFrom_take consume between ⟨more, s, offered⟩ w b
  | passing w text asked last =>
    simp only [step]
    rcases hnext : text.next? with _ | token
    · obtain ⟨_ | ⟨⟨token, text⟩, more⟩, rest⟩ := text
      · simp only [Split.next?] at hnext
        split_ifs at hnext with hrest
        simp only [goOn, Consumer.pass, List.map_nil, Consumer.offerAll, if_pos hrest]
        exact goOnFrom_settle ..
      · cases hnext
    · simp only
      split_ifs
      · exact goOnFrom_answer consume between x w hnext asked last
      · rfl

/-! ### Progress -/

/-- A number that gets smaller in the steps that take no batch. -/
def rank : Stage → Nat
  | .spawned _ _ => 1
  | .reading _ => 0
  | .passing _ text asked _ => 2 * (text.pieces.length + if text.rest.isEmpty then 0 else 1) + if asked then 1 else 2

variable {consume between} {x x' : Desk σ} {stage stage' : Stage}

theorem rank_of_settle {r : Except Outcome Worker} (h : settle between x r = (x', .ok stage')) :
    x'.batches = x.batches ∧ stage'.rank = 0 := by
  cases r with
  | error o => cases h
  | ok w =>
    cases h
    exact ⟨rfl, rfl⟩

theorem batches_of_take {w : Worker} {b : Batch} (h : take between x w b = (x', .ok stage')) :
    x'.batches = x.batches := by
  unfold take at h
  rcases hprepare : w.prepare b with r | ⟨read, last⟩ <;> rw [hprepare] at h
  · exact (rank_of_settle h).1
  · cases h
    rfl

theorem rank_of_answer {w : Worker} {text : Split} {last : Bool} {v : Verdict}
    (h : answer between x w text last v = (x', .ok stage')) :
    x'.batches = x.batches ∧ stage'.rank < (passing w text true last).rank := by
  have hsettle : ∀ {r}, settle between x r = (x', .ok stage') →
      x'.batches = x.batches ∧ stage'.rank < (passing w text true last).rank := by
    intro r hr
    obtain ⟨hbatches, hrank⟩ := rank_of_settle hr
    exact ⟨hbatches, by rw [hrank, rank]; simp⟩
  cases v with
  | stopped why => exact hsettle h
  | _ =>
    simp only [answer] at h
    rcases hpieces : text.pieces with _ | ⟨piece, more⟩ <;> rw [hpieces] at h
    · exact hsettle h
    · cases h
      refine ⟨rfl, ?_⟩
      simp only [rank, hpieces, List.length_cons, if_true, Bool.false_eq_true, if_false]
      omega

/-- **A step that does not wait for a batch leads somewhere.** -/
theorem step_lt (h : stage.step consume between x = (x', .ok stage')) :
    (∃ w, stage = .reading w ∧ x.batches = []) ∨
      Prod.Lex (· < ·) (· < ·) (x'.batches.length, stage'.rank) (x.batches.length, stage.rank) := by
  have hlex : x'.batches = x.batches ∧ stage'.rank < stage.rank →
      Prod.Lex (· < ·) (· < ·) (x'.batches.length, stage'.rank) (x.batches.length, stage.rank) := by
    rintro ⟨hbatches, hrank⟩
    rw [hbatches]
    exact .right _ hrank
  cases stage with
  | spawned config delimiter =>
    simp only [step] at h
    rcases hstart : Worker.start config delimiter with o | w <;> rw [hstart] at h
    · cases h
    · cases h
      exact .inr (hlex ⟨rfl, Nat.zero_lt_one⟩)
  | reading w =>
    rcases hbatches : x.batches with _ | ⟨b, more⟩ <;> simp only [step, hbatches] at h
    · exact .inl ⟨w, rfl, rfl⟩
    · refine .inr (.left _ _ ?_)
      rw [batches_of_take h]
      exact Nat.lt_succ_self _
  | passing w text asked last =>
    refine .inr (hlex ?_)
    simp only [step] at h
    rcases hnext : text.next? with _ | token <;> simp only [hnext] at h
    · obtain ⟨hbatches, hrank⟩ := rank_of_settle h
      exact ⟨hbatches, by rw [hrank, rank]; cases asked <;> simp⟩
    · cases asked with
      | true => exact rank_of_answer (x := { x with state := (consume x.state token).1 }) h
      | false =>
        cases h
        exact ⟨rfl, by simp [rank]⟩

end Stage

end Dialogue
