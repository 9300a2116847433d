import Dialogue.Proofs.Process.Input

/-!
# The streams of a command

Three copiers, two readers and a writer act on the streams of a command, in any order. When all copying came to its end
without a failure, the output was kept as it came and the input was delivered as it was written.

* `Streams.fault?`, `Streams.first_collect`: the verdict on the copiers;
* **`Streams.duplicates_output`**: what is kept of the output, and what the readers are given;
* **`Streams.delivers_input`**: what the command is given, and what becomes of a sink that fails.
-/

namespace Dialogue.Streams

/-! ## The verdict on the copiers -/

/-- The failure of a copier that is over. -/
def fault? : Stream × Copier → Option WatchError
  | (stream, .ended o) => failure? stream o
  | (_, .absent) | (_, .running) => none

/-- Waiting for copiers comes to its end when none is running; the first failure among them counts. -/
theorem first_collectFrom (v : Verdict) (copiers : List (Stream × Copier)) :
    ((collectFrom v copiers).2 = true ↔ ∀ c ∈ copiers, c.2 ≠ .running) ∧
      ((collectFrom v copiers).2 = true → (collectFrom v copiers).1.first = v.first.or (copiers.findSome? fault?)) := by
  induction copiers generalizing v with
  | nil => simp [collectFrom]
  | cons c more ih =>
    obtain ⟨stream, copier⟩ := c
    cases copier with
    | absent => simpa [collectFrom, List.findSome?_cons, fault?] using ih v
    | running => simp [collectFrom]
    | ended o =>
      rcases hfailure : failure? stream o with _ | e
      · simpa [collectFrom, List.findSome?_cons, fault?, hfailure] using ih v
      · have hnext := ih ⟨v.first.or (some e), v.logs ++ [failureLog stream e]⟩
        simpa [collectFrom, List.findSome?_cons, fault?, hfailure, Option.or_assoc] using hnext

/-- The verdict names the first failure, in the order output, diagnostics, input. -/
theorem first_collect {s : Streams} (hall : s.collect.2 = true) :
    (s.stdout.copier ≠ .running ∧ s.stderr.copier ≠ .running ∧ s.stdin.copier ≠ .running) ∧
      s.collect.1.first = (fault? (.stdout, s.stdout.copier)).or
        ((fault? (.stderr, s.stderr.copier)).or (fault? (.stdin, s.stdin.copier))) := by
  obtain ⟨hover, hfirst⟩ := first_collectFrom ⟨none, []⟩ s.copiers
  have hnone := hover.mp hall
  refine ⟨by simpa [copiers] using hnone, ?_⟩
  rw [collect, hfirst hall]
  simp only [copiers, List.findSome?_cons, List.findSome?_nil, Option.none_or]
  rcases fault? (.stdout, s.stdout.copier) with _ | e <;> rcases fault? (.stderr, s.stderr.copier) with _ | e' <;>
    rcases fault? (.stdin, s.stdin.copier) with _ | e'' <;> rfl

theorem eq_done_of_fault_eq_none {stream : Stream} {copier : Copier} (h : fault? (stream, copier) = none) {o : CopyEnd}
    (ho : copier = .ended o) : o = .done := by
  subst ho
  cases o with
  | done => rfl
  | failed reason => cases h
  | panicked text => cases h

theorem fault_eq_none {s : Streams} (hall : s.collect.2 = true) (hok : s.collect.1.result = .ok ()) :
    fault? (.stdout, s.stdout.copier) = none ∧ fault? (.stderr, s.stderr.copier) = none ∧
      fault? (.stdin, s.stdin.copier) = none := by
  have hfirst : s.collect.1.first = none := by
    rw [Verdict.result] at hok
    rcases hcase : s.collect.1.first with _ | e
    · rfl
    · rw [hcase] at hok
      cases hok
  rw [(first_collect hall).2] at hfirst
  simpa [Option.or_eq_none_iff] using hfirst

/-! ## Output -/

section Output

variable (hasInput : Bool) (windows : Windows) (stdout stderr : Source) (sink : Sink)

/-- The log tells of an output stream behind a channel with the given window. -/
def Told (source : Source) (window : Option Nat) (log : OutputPipe.Log) (p : OutputPipe) : Prop :=
  ∃ h, OutputPipe.Tells source (window.getD Channel.unbounded) log p h

theorem told_act {source : Source} {window : Option Nat} (log : OutputPipe.Log) (p : OutputPipe) (a : OutputPipe.Act)
    (h : Told source window log p) : Told source window (log ++ [(a, (p.act a).1)]) (p.act a).2 :=
  h.elim fun _ ht => ht.act a

/-- The log goes on telling when the end of a copier that did not fail was taken note of. -/
theorem told_act_of_absent {source : Source} {window : Option Nat} (log : OutputPipe.Log) (p : OutputPipe)
    (a : OutputPipe.Act) (h : Told source window log p ∧ p.copier = .absent) :
    Told source window (log ++ [(a, (p.act a).1)]) (p.act a).2 ∧ (p.act a).2.copier = .absent := by
  refine ⟨told_act log p a h.1, ?_⟩
  rw [OutputPipe.act_of_over (by rw [h.2]; exact Copier.noConfusion) a, h.2]

theorem told_forget {source : Source} {window : Option Nat} {log : OutputPipe.Log} {p : OutputPipe} {stream : Stream}
    (h : Told source window log p) (hrun : p.copier ≠ .running) (hfault : fault? (stream, p.copier) = none) :
    Told source window log { p with copier := .absent } ∧ ({ p with copier := .absent } : OutputPipe).copier = .absent := by
  obtain ⟨h, ht⟩ := h
  have hcomplete : p.Complete := by
    rcases hcopier : p.copier with _ | _ | o
    · exact .inr hcopier
    · exact absurd hcopier hrun
    · rw [hcopier] at hfault
      obtain rfl := eq_done_of_fault_eq_none hfault rfl
      exact .inl hcopier
  exact ⟨⟨h, ht.forget hcomplete⟩, rfl⟩

theorem told_start (source : Source) (window : Option Nat) : Told source window [] (outputPipe true source window) := by
  have hchannel : windowChannel window = .ofWindow (window.getD Channel.unbounded) := by cases window <;> rfl
  rw [outputPipe, hchannel]
  exact ⟨.empty, .start source _⟩

theorem output_of_contents {s : Streams} {out err : Bytes} (hout : s.stdout.channel.contents = .ok out)
    (herr : s.stderr.channel.contents = .ok err) (e : Encoding) :
    s.output e = do
      let outText ← (e.decode out).mapError .stream
      let errText ← (e.decode err).mapError .stream
      return (outText, errText) := by
  unfold output decoded
  rw [hout, herr]

/-- **Output is duplicated.** Take a command with an output and a diagnostics stream, which deliver any bytes in any
pieces, any windows, and any acts of the copiers and of the holders of the readers and the writer, in any order. What
was copied is shown and what is read comes in order, as `OutputPipe.Duplicated` says. And when the end of all copying
was asked for and all copiers ended well, then after any further acts each channel shows the newest bytes of its stream
inside the window, or all of them, and the texts of both are put out, or the first failure to decode them. -/
theorem duplicates_output (before : List Act) :
    let s₀ := attach ⟨true, true, hasInput⟩ windows stdout stderr sink
    let s := (perform act s₀ before).2
    (OutputPipe.Duplicated stdout windows.stdout (logOf Act.stdout? (perform act s₀ before).1) s.stdout ∧
      OutputPipe.Duplicated stderr windows.stderr (logOf Act.stderr? (perform act s₀ before).1) s.stderr) ∧
    (s.collect.2 = true → s.collect.1.result = .ok () → ∀ after : List Act,
      let log := (perform act s₀ before).1 ++ (perform act s.forgetCopiers after).1
      let t := (perform act s.forgetCopiers after).2
      t.stdout.Complete ∧ t.stderr.Complete ∧
      OutputPipe.Duplicated stdout windows.stdout (logOf Act.stdout? log) t.stdout ∧
      OutputPipe.Duplicated stderr windows.stderr (logOf Act.stderr? log) t.stderr ∧
      ∀ e : Encoding, t.output e = do
        let out ← (e.decode (OutputPipe.newest windows.stdout stdout.output)).mapError .stream
        let err ← (e.decode (OutputPipe.newest windows.stderr stderr.output)).mapError .stream
        return (out, err)) := by
  intro s₀ s
  have hout : Told stdout windows.stdout (logOf Act.stdout? (perform act s₀ before).1) s.stdout :=
    stdout_keeps [] before told_act (told_start stdout windows.stdout)
  have herr : Told stderr windows.stderr (logOf Act.stderr? (perform act s₀ before).1) s.stderr :=
    stderr_keeps [] before told_act (told_start stderr windows.stderr)
  refine ⟨⟨hout.elim fun _ ht => ht.duplicated, herr.elim fun _ ht => ht.duplicated⟩, ?_⟩
  intro hall hok after log t
  obtain ⟨⟨hrunOut, hrunErr, -⟩, -⟩ := first_collect hall
  obtain ⟨hfaultOut, hfaultErr, -⟩ := fault_eq_none hall hok
  -- the logs go on after the end of all copying
  obtain ⟨⟨hOut, htOut⟩, habsentOut⟩ := stdout_keeps (s := s.forgetCopiers) (perform act s₀ before).1 after
    told_act_of_absent (told_forget hout hrunOut hfaultOut)
  obtain ⟨⟨hErr, htErr⟩, habsentErr⟩ := stderr_keeps (s := s.forgetCopiers) (perform act s₀ before).1 after
    told_act_of_absent (told_forget herr hrunErr hfaultErr)
  refine ⟨.inr habsentOut, .inr habsentErr, htOut.duplicated, htErr.duplicated, fun e => ?_⟩
  exact output_of_contents (htOut.duplicated.contents (.inr habsentOut)) (htErr.duplicated.contents (.inr habsentErr)) e

end Output

/-- Two bytes of the output are kept and all of the diagnostics, which are read before and after the end. -/
theorem duplicates_output_while_read :
    let stdout : Source := [.data [0x61, 0x62, 0x63], .finish]
    let stderr : Source := [.data [0x64], .pause, .data [0x65], .finish]
    let before : List Act := [.stderr .take, .stdout (.copy .plenty), .stderr (.copy .plenty),
      .stderr (.reader (.read 1)), .stderr (.copy .plenty), .stderr (.copy .plenty), .stdin .finish,
      .stderr (.copy .plenty), .stdout (.copy .plenty)]
    let after : List Act := [.stderr (.reader (.read 4)), .stderr (.reader (.read 4))]
    let s := (perform act (attach ⟨true, true, false⟩ ⟨some 2, none⟩ stdout stderr
      (.ofBehaviour ⟨fun _ _ => .take 1, fun _ => none, none⟩)) before).2
    s.collect.1.result = .ok () ∧
      (perform act s.forgetCopiers after).2.output .utf8 = .ok (['b', 'c'], ['d', 'e']) := by
  intro stdout stderr before after s
  have hall : s.collect.2 = true := by decide +kernel
  have hok : s.collect.1.result = .ok () := by decide +kernel
  obtain ⟨-, hend⟩ := duplicates_output false ⟨some 2, none⟩ stdout stderr
    (.ofBehaviour ⟨fun _ _ => .take 1, fun _ => none, none⟩) before
  obtain ⟨-, -, -, -, houtput⟩ := hend hall hok after
  exact ⟨hok, (houtput .utf8).trans (by decide +kernel)⟩

/-! ## Input -/

section Input

variable (hasOutput hasErrors : Bool) (windows : Windows) (stdout stderr : Source) (b : Sink.Behaviour)

theorem input_tells (acts : List Act) :
    let s := attach ⟨hasOutput, hasErrors, true⟩ windows stdout stderr (.ofBehaviour b)
    ∃ h, InputPipe.Tells (logOf Act.stdin? (perform act s acts).1) (perform act s acts).2.stdin h := by
  intro s
  have hact : ∀ log p a, (∃ h, InputPipe.Tells log p h) →
      ∃ h, InputPipe.Tells (log ++ [(a, (p.act a).1)]) (p.act a).2 h := fun log p a ⟨_, ht⟩ => ht.act a
  exact stdin_keeps [] acts hact ⟨.empty, .start b⟩

theorem stdin_of_refused {s : Streams} {reason : Text} (h : s.stdin.Refused reason) (acts : List Act) :
    let t := (perform act s (.stdin .copy :: acts)).2
    t.stdin.copier = .ended (.failed reason) ∧ t.stdin.sink.taken = s.stdin.sink.taken := by
  intro t
  obtain ⟨hcopier, htaken⟩ := h.step
  let I := fun (_ : InputPipe.Log) (p : InputPipe) =>
    p.copier = .ended (.failed reason) ∧ p.sink.taken = s.stdin.sink.taken
  have hkept : ∀ log p a, I log p → I (log ++ [(a, (p.act a).1)]) (p.act a).2 := by
    rintro log p a ⟨hended, hsink⟩
    obtain ⟨hsame, hsame'⟩ := p.act_of_over (by rw [hended]; exact Copier.noConfusion) a
    exact ⟨hsame.trans hended, by rw [hsame', hsink]⟩
  exact stdin_keeps (s := (s.act (.stdin .copy)).2) [] acts hkept ⟨hcopier, htaken⟩

/-- **Input is delivered without loss.** Take a command with an input, which takes bytes in any portions, and any acts
of the copiers and of the holders of the readers and the writer, in any order. What the command has received is the
beginning of what was written, as much as its input has taken. When the copier has ended well, which takes a closing of
the writer's side or a request for the end of all copying, the command has received all that was written, and was shut
down after that, once; before that it is not shut down. The verdict is good only when the copier has ended well. And
when a portion is refused, the command has received as much as its input had taken by then and receives nothing more,
it is not shut down, and the verdict names the copying of the input unless another copier failed too. -/
theorem delivers_input (acts : List Act) :
    let s₀ := attach ⟨hasOutput, hasErrors, true⟩ windows stdout stderr (.ofBehaviour b)
    let log : InputPipe.Log := logOf Act.stdin? (perform act s₀ acts).1
    let s := (perform act s₀ acts).2
    s.stdin.sink.received = log.written.take s.stdin.sink.taken ∧
    (s.stdin.copier = .ended .done → (∃ e ∈ log, e.1.closes = true) ∧ s.stdin.sink.received = log.written ∧
      ∃ earlier, s.stdin.sink.events = .shutdown :: earlier ∧ .shutdown ∉ earlier) ∧
    (s.stdin.copier ≠ .ended .done → .shutdown ∉ s.stdin.sink.events) ∧
    (s.collect.2 = true → s.collect.1.result = .ok () → s.stdin.copier = .ended .done) ∧
    ∀ before after reason, acts = before ++ .stdin .copy :: after →
      (perform act s₀ before).2.stdin.Refused reason →
        s.stdin.sink.received = log.written.take (perform act s₀ before).2.stdin.sink.taken ∧
        .shutdown ∉ s.stdin.sink.events ∧ s.stdin.copier = .ended (.failed reason) ∧
        (s.collect.2 = true → s.collect.1.result =
          .error (.watch (((fault? (.stdout, s.stdout.copier)).or (fault? (.stderr, s.stderr.copier))).getD
            (.copy .stdin reason)))) := by
  intro s₀ log s
  obtain ⟨h, ht⟩ := input_tells hasOutput hasErrors windows stdout stderr b acts
  have hnotShut : s.stdin.copier ≠ .ended .done → .shutdown ∉ s.stdin.sink.events := fun hnot => (ht.inUse hnot).notShut
  refine ⟨ht.received_eq, fun hdone => ?_, hnotShut, fun hall hok => ?_, fun before after reason hacts hrefused => ?_⟩
  · obtain ⟨hclosed, -, -, last, hlast, -, hevents, -⟩ := ht.done hdone
    exact ⟨ht.closed hclosed, ht.received_of_done hdone, last.events, hevents, hlast.notShut⟩
  · obtain ⟨⟨-, -, hrun⟩, -⟩ := first_collect hall
    have hfault := (fault_eq_none hall hok).2.2
    rcases hcopier : s.stdin.copier with _ | _ | o
    · exact absurd hcopier ht.present
    · exact absurd hcopier hrun
    · rw [hcopier] at hfault
      rw [eq_done_of_fault_eq_none hfault rfl]
  · have hfailed : s.stdin.copier = .ended (.failed reason) ∧
        s.stdin.sink.taken = (perform act s₀ before).2.stdin.sink.taken := by
      have hend := stdin_of_refused hrefused after
      rwa [show s = (perform act (perform act s₀ before).2 (.stdin .copy :: after)).2 by
        change (perform act s₀ acts).2 = _
        rw [hacts, perform_append]]
    obtain ⟨hcopier, htaken⟩ := hfailed
    refine ⟨by rw [← htaken]; exact ht.received_eq, hnotShut (by rw [hcopier]; simp), hcopier, fun hall => ?_⟩
    have hfirst := (first_collect hall).2
    rw [hcopier] at hfirst
    rw [Verdict.result, hfirst]
    rcases fault? (.stdout, s.stdout.copier) with _ | e <;> rcases fault? (.stderr, s.stderr.copier) with _ | e' <;> rfl

end Input

/-- The input takes two bytes at once, and the end of all copying is asked for while the copier is at work. -/
theorem delivers_input_in_portions :
    let b : Sink.Behaviour := ⟨fun _ _ => .take 2, fun _ => none, none⟩
    let acts : List Act := [.stdin .copy, .stdin .take, .stdin (.write .plenty [1, 2]), .stdin (.write .plenty [3]),
      .stdin .copy, .stdin .copy, .stdin .finish, .stdin .copy, .stdin .copy]
    let s := (perform act (attach ⟨false, false, true⟩ .default [] [] (.ofBehaviour b)) acts).2
    s.collect.1.result = .ok () ∧ s.stdin.sink.received = [1, 2, 3] ∧
      ∃ earlier, s.stdin.sink.events = .shutdown :: earlier ∧ .shutdown ∉ earlier := by
  intro b acts s
  have hs : (perform act (attach ⟨false, false, true⟩ .default [] [] (.ofBehaviour b)) acts).2 = s := rfl
  have hall : s.collect.2 = true := by decide +kernel
  have hok : s.collect.1.result = .ok () := by decide +kernel
  have hwritten : InputPipe.Log.written (logOf Act.stdin?
      (perform act (attach ⟨false, false, true⟩ .default [] [] (.ofBehaviour b)) acts).1) = [1, 2, 3] := by
    decide +kernel
  have hinput := delivers_input false false .default [] [] b acts
  simp only [hs, hwritten] at hinput
  obtain ⟨-, hend, -, hdone, -⟩ := hinput
  exact ⟨hok, (hend (hdone hall hok)).2⟩

end Dialogue.Streams
