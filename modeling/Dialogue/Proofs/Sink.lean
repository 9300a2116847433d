import Dialogue.Sink
import Mathlib.Tactic.Common

/-!
# What a sink receives

A sink takes the bytes of a reply in portions, and may break off at any of them. However it does, what it has received
grows, and by the bytes of the reply in order.

* `Sink.bytesOf`, `Sink.received`: the bytes in what happened to a sink;
* `Sink.Gets`: a sink before and after it got some bytes;
* `Sink.WriteFault`, `Sink.FlushFault`: why the last call failed;
* `Sink.writeAll_eq_ok`, `Sink.writeAll_eq_error`: what is received of a reply;
* `Sink.InUse`: sinks that were not shut down;
* `Sink.Behaviour.Unfailing`: sinks that never fail.
-/

namespace Dialogue

def Event.bytes : Event → Bytes
  | .write bs => bs
  | _ => []

namespace Sink

/-- The bytes that reached the command's input, for events with the last one first. -/
def bytesOf (events : List Event) : Bytes := events.reverse.flatMap Event.bytes

def received (s : Sink) : Bytes := bytesOf s.events

theorem bytesOf_cons (e : Event) (events : List Event) : bytesOf (e :: events) = bytesOf events ++ e.bytes := by
  rw [bytesOf, List.reverse_cons, List.flatMap_append, List.flatMap_singleton, bytesOf]

theorem bytesOf_prefix {moment events : List Event} (h : moment <:+ events) : bytesOf moment <+: bytesOf events := by
  obtain ⟨later, rfl⟩ := h
  rw [bytesOf, bytesOf, List.reverse_append, List.flatMap_append]
  exact List.prefix_append _ _

/-- A sink before and after it got the bytes `bs`. -/
structure Gets (s : Sink) (bs : Bytes) (s' : Sink) : Prop where
  behaviour : s'.behaviour = s.behaviour
  events : s.events <:+ s'.events
  received : s'.received = s.received ++ bs

namespace Gets

variable {s s' s'' : Sink} {as bs : Bytes}

theorem refl (s : Sink) : s.Gets [] s := ⟨rfl, List.suffix_refl _, (List.append_nil _).symm⟩

theorem trans (h : s.Gets as s') (h' : s'.Gets bs s'') : s.Gets (as ++ bs) s'' where
  behaviour := h'.behaviour.trans h.behaviour
  events := h.events.trans h'.events
  received := by rw [h'.received, h.received, List.append_assoc]

theorem record (s : Sink) (e : Event) (taken : Nat) : s.Gets e.bytes { s.record e with taken } where
  behaviour := rfl
  events := List.suffix_cons _ _
  received := bytesOf_cons _ _

theorem nothing (s : Sink) : s.Gets [] { s with calls := s.calls + 1 } :=
  ⟨rfl, List.suffix_refl _, (List.append_nil _).symm⟩

end Gets

/-- The last call was a write, and the sink failed, or took nothing and that is called `zero`. -/
def WriteFault (s : Sink) (zero reason : Text) : Prop :=
  ∃ calls, s.calls = calls + 1 ∧ (s.behaviour.write calls s.taken = .fail reason ∨
    s.behaviour.write calls s.taken = .take 0 ∧ reason = zero)

/-- The last call was a flush, and the sink failed. -/
def FlushFault (s : Sink) (reason : Text) : Prop :=
  ∃ calls, s.calls = calls + 1 ∧ s.behaviour.flush calls = some reason

variable {s s' : Sink} {zero reason : Text} {bs : Bytes}

/-! ## One portion -/

theorem write_eq_ok {n : Nat} (h : s.write bs = (.ok n, s')) : s.Gets (bs.take n) s' := by
  unfold write at h
  rcases hanswer : s.behaviour.write s.calls s.taken with most | reason <;> simp only [hanswer] at h
  · split_ifs at h with hnone <;> cases h
    · exact .nothing s
    · exact .record s (.write (bs.take (min most bs.length))) _
  · cases h

theorem write_eq_zero (hbs : bs ≠ []) (h : s.write bs = (.ok 0, s')) : s'.WriteFault zero zero := by
  have hlength : bs.length ≠ 0 := by simpa using hbs
  unfold write at h
  rcases hanswer : s.behaviour.write s.calls s.taken with most | reason <;> simp only [hanswer] at h
  · split_ifs at h with hnone
    · cases h
      obtain rfl : most = 0 := by omega
      exact ⟨s.calls, rfl, .inr ⟨hanswer, rfl⟩⟩
    · exact absurd (Except.ok.inj (Prod.mk.inj h).1) hnone
  · cases h

theorem write_eq_error (h : s.write bs = (.error reason, s')) : s.Gets [] s' ∧ s'.WriteFault zero reason := by
  unfold write at h
  rcases hanswer : s.behaviour.write s.calls s.taken with most | why <;> simp only [hanswer] at h
  · split_ifs at h <;> cases h
  · cases h
    exact ⟨.nothing s, s.calls, rfl, .inl hanswer⟩

theorem taken_of_refused {result : Except Text Nat} (h : s.write bs = (result, s'))
    (hrefused : ∀ n, result ≠ .ok (n + 1)) : s'.taken = s.taken := by
  unfold write at h
  rcases hanswer : s.behaviour.write s.calls s.taken with most | why <;> simp only [hanswer] at h
  · split_ifs at h with hnone <;> cases h
    · rfl
    · obtain ⟨n, hn⟩ := Nat.exists_eq_succ_of_ne_zero hnone
      exact absurd (congrArg Except.ok hn) (hrefused n)
  · cases h
    rfl

/-! ## A whole reply -/

theorem writeAll_eq_ok (h : s.writeAll zero bs = (.ok (), s')) : s.Gets bs s' := by
  fun_induction writeAll zero s bs with
  | case1 s =>
    cases h
    exact .refl _
  | case2 => cases h
  | case3 => cases h
  | case4 s b rest n s₁ hwrite ih =>
    have hgets := (write_eq_ok hwrite).trans (ih h)
    rwa [List.take_succ_cons, List.cons_append, List.take_append_drop] at hgets

/-- Of a reply that is not written some bytes are received, but not all. -/
theorem writeAll_eq_error (h : s.writeAll zero bs = (.error reason, s')) :
    ∃ part, part <+: bs ∧ part ≠ bs ∧ s.Gets part s' ∧ s'.WriteFault zero reason := by
  fun_induction writeAll zero s bs with
  | case1 => cases h
  | case2 s b rest why s₁ hwrite =>
    cases h
    exact ⟨[], List.nil_prefix, (List.cons_ne_nil _ _).symm, write_eq_error hwrite⟩
  | case3 s b rest s₁ hwrite =>
    cases h
    exact ⟨[], List.nil_prefix, (List.cons_ne_nil _ _).symm, write_eq_ok hwrite,
      write_eq_zero (List.cons_ne_nil _ _) hwrite⟩
  | case4 s b rest n s₁ hwrite ih =>
    obtain ⟨part, ⟨missing, hpart⟩, hne, hgets, hfault⟩ := ih h
    have hwhole : (b :: rest).take (n + 1) ++ rest.drop n = b :: rest := by
      rw [List.take_succ_cons, List.cons_append, List.take_append_drop]
    have hall := (write_eq_ok hwrite).trans hgets
    refine ⟨(b :: rest).take (n + 1) ++ part, ⟨missing, ?_⟩, fun heq => hne ?_, hall, hfault⟩
    · rw [List.append_assoc, hpart, hwhole]
    · exact List.append_cancel_left (heq.trans hwhole.symm)

/-! ## Flushing -/

theorem flush_eq_ok (h : s.flush = (.ok (), s')) : s.Gets [] s' := by
  unfold flush at h
  rcases hanswer : s.behaviour.flush s.calls with _ | why <;> simp only [hanswer] at h <;> cases h
  exact .record s .flush _

theorem flush_eq_error (h : s.flush = (.error reason, s')) : s.Gets [] s' ∧ s'.FlushFault reason := by
  unfold flush at h
  rcases hanswer : s.behaviour.flush s.calls with _ | why <;> simp only [hanswer] at h <;> cases h
  exact ⟨.nothing s, s.calls, rfl, hanswer⟩

/-! ## Sinks that were not shut down -/

/-- A sink that was not shut down, and has counted the bytes that it received. -/
structure InUse (s : Sink) : Prop where
  counted : s.taken = s.received.length
  notShut : Event.shutdown ∉ s.events

theorem inUse_ofBehaviour (b : Behaviour) : (ofBehaviour b).InUse := ⟨rfl, List.not_mem_nil⟩

namespace InUse

theorem write (hs : s.InUse) (bs : Bytes) : (s.write bs).2.InUse := by
  unfold Sink.write
  rcases s.behaviour.write s.calls s.taken with most | reason
  · simp only
    split_ifs
    · exact ⟨hs.counted, hs.notShut⟩
    · refine ⟨?_, List.not_mem_cons_of_ne_of_not_mem nofun hs.notShut⟩
      rw [received, record, bytesOf_cons, List.length_append, ← received, ← hs.counted, Event.bytes, List.length_take,
        Nat.min_eq_left (Nat.min_le_right _ _)]
  · exact ⟨hs.counted, hs.notShut⟩

theorem flush (hs : s.InUse) : s.flush.2.InUse := by
  unfold Sink.flush
  rcases s.behaviour.flush s.calls with _ | reason
  · refine ⟨?_, List.not_mem_cons_of_ne_of_not_mem nofun hs.notShut⟩
    have hreceived : (s.record .flush).received = s.received ++ [] := (Gets.record s .flush s.taken).received
    rw [List.append_nil] at hreceived
    exact hs.counted.trans (congrArg List.length hreceived.symm)
  · exact ⟨hs.counted, hs.notShut⟩

end InUse

theorem shutdown_eq_ok (h : s.shutdown = (.ok (), s')) :
    s.Gets [] s' ∧ s'.events = .shutdown :: s.events ∧ s'.taken = s.taken := by
  unfold shutdown at h
  rcases hanswer : s.behaviour.shutdown with _ | why <;> simp only [hanswer] at h <;> cases h
  exact ⟨.record s .shutdown _, rfl, rfl⟩

theorem shutdown_eq_error (h : s.shutdown = (.error reason, s')) (hs : s.InUse) : s.Gets [] s' ∧ s'.InUse := by
  unfold shutdown at h
  rcases hanswer : s.behaviour.shutdown with _ | why <;> simp only [hanswer] at h <;> cases h
  exact ⟨.nothing s, hs.counted, hs.notShut⟩

/-! ## Sinks that never fail -/

/-- Something is taken of every portion, and every flush succeeds. -/
structure Behaviour.Unfailing (b : Behaviour) : Prop where
  write : ∀ calls taken, ∃ most, b.write calls taken = .take (most + 1)
  flush : ∀ calls, b.flush calls = none

theorem writeAll_of_unfailing (hs : s.behaviour.Unfailing) (zero : Text) (bs : Bytes) :
    ∃ s', s.writeAll zero bs = (.ok (), s') ∧ s.Gets bs s' := by
  rcases h : s.writeAll zero bs with ⟨reason | _, s'⟩
  · obtain ⟨part, -, -, hgets, calls, -, hfault⟩ := writeAll_eq_error h
    obtain ⟨most, htake⟩ := hs.write calls s'.taken
    rw [hgets.behaviour, htake] at hfault
    exact (hfault.elim Answer.noConfusion fun h => by cases h.1)
  · exact ⟨s', rfl, writeAll_eq_ok h⟩

theorem flush_of_unfailing (hs : s.behaviour.Unfailing) : ∃ s', s.flush = (.ok (), s') ∧ s.Gets [] s' := by
  rcases h : s.flush with ⟨reason | _, s'⟩
  · obtain ⟨hgets, calls, -, hfault⟩ := flush_eq_error h
    rw [hgets.behaviour, hs.flush calls] at hfault
    cases hfault
  · exact ⟨s', rfl, flush_eq_ok h⟩

end Sink

end Dialogue
