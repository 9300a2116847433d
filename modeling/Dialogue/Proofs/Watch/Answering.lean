import Dialogue.Conversation
import Dialogue.Proofs.Playbook
import Dialogue.Proofs.Trigger
import Dialogue.Proofs.Watch.Batching
import Dialogue.Proofs.Watch.Mirrors

/-!
# Answers to the lines of a stream

Conversations and triggers look tokens up in a playbook. When no rule waits for a token that may be a part of a line,
what they answer to a stream of lines does not depend on the batches in which it comes.

* `Playbook.consume`: a consumer that keeps the answers of a playbook;
* `Playbook.PrefixSafe`, `Playbook.patient_consume`: playbooks that wait for whole lines;
* `Outlet.Steady`, `Conversation.mirrors_playbook`: conversations with an outlet that never fails;
* `Trigger.Fired`, `Trigger.mirrors_playbook`: triggers with actions that never fail;
* **`answers_of_batches`**: what either does with a stream, however it is cut.
-/

namespace Dialogue

/-! ## Playbooks -/

namespace Playbook

variable {α : Type}

/-- Keeps the replies to the tokens that are looked up. -/
def consume : Consumer (Playbook α × List α) := fun (b, replies) token =>
  match b.lookup token with
  | (.error why, b) => ((b, replies), .stopped why)
  | (.ok none, b) => ((b, replies), .declined)
  | (.ok (some a), b) => ((b, replies ++ [a]), .accepted)

theorem offerAll_consume (b : Playbook α) (replies : List α) (tokens : List Text) :
    consume.offerAll (b, replies) tokens =
      (((b.answers tokens).2.2, replies ++ (b.answers tokens).1), (b.answers tokens).2.1) := by
  induction tokens generalizing b replies with
  | nil => rw [answers, List.append_nil]; rfl
  | cons token more ih =>
    rw [Consumer.offerAll, answers, consume]
    rcases b.lookup token with ⟨why | _ | a, b'⟩
    · simp only [List.append_nil]
    · exact ih b' replies
    · simp only [ih, List.append_assoc, List.singleton_append]

/-- No rule waits for a token that may be a part of a line. -/
def PrefixSafe (b : Playbook α) (text : Text) : Prop :=
  ∀ rule ∈ b.rules, ∀ token, Premature text token → rule.prompt.accepts token = .ok false

theorem patient_consume {b : Playbook α} {text : Text} (h : b.PrefixSafe text) :
    Patient consume (fun s => s.1.rules = b.rules) (Premature text) where
  keeps := by
    rintro ⟨b', replies⟩ token hs
    have hrules := b'.rules_lookup token
    rw [consume]
    rcases hlookup : b'.lookup token with ⟨why | _ | a, b''⟩ <;> rw [hlookup] at hrules <;> exact hrules.trans hs
  declined := by
    rintro ⟨b', replies⟩ s' token hs
    rw [consume] at hs
    rcases hlookup : b'.lookup token with ⟨why | _ | a, b''⟩ <;> rw [hlookup] at hs <;> cases hs
    rw [eq_of_lookup_none hlookup]
  waits := by
    rintro ⟨b', replies⟩ token hs hpremature
    have hquiet : b'.lookup token = (.ok none, b') :=
      lookup_of_quiet fun rule hrule => h rule (hs ▸ hrule) token hpremature
    rw [consume, hquiet]

end Playbook

/-! ## Conversations -/

/-- An outlet that never fails in the states with the property `steady`. -/
structure Outlet.Steady {ω : Type} (o : Outlet ω) (steady : ω → Prop) : Prop where
  send : ∀ {w} bs, steady w → (o.send w bs).1 = .ok () ∧ steady (o.send w bs).2
  flush : ∀ {w}, steady w → (o.flush w).1 = .ok () ∧ steady (o.flush w).2

namespace Conversation

variable {ω : Type}

/-- Writes and flushes a reply. -/
def deliver (o : Outlet ω) (e : Encoding) (w : ω) (reply : Text) : ω :=
  match e.encode reply with
  | .ok bs => (o.flush (o.send w bs).2).2
  | .error _ => w

/-- Every reply of a conversation has a byte form. -/
def Encodable (c : Conversation ω) : Prop :=
  ∀ rule ∈ c.book.rules, ∀ token reply, rule.reply.produce token = .ok reply → ∃ bs, c.encoding.encode reply = .ok bs

/-- A conversation that has sent some replies since it was in the state `c₀`. -/
structure Sent (o : Outlet ω) (steady : ω → Prop) (c₀ c : Conversation ω) (s : Playbook Text × List Text) : Prop where
  rules : s.1.rules = c₀.book.rules
  eq : c = { c₀ with book := s.1, out := s.2.foldl (deliver o c₀.encoding) c₀.out }
  steady : steady c.out

theorem mirrors_playbook {o : Outlet ω} {steady : ω → Prop} (ho : o.Steady steady) {c₀ : Conversation ω}
    (hencode : c₀.Encodable) : Mirrors (consume o) id Playbook.consume (Sent o steady c₀) where
  step := by
    rintro c ⟨b, replies⟩ token ⟨hrules, heq, hsteady⟩
    subst heq
    have hkeeps := b.rules_lookup token
    simp only [consume, Playbook.consume]
    rcases hlookup : b.lookup token with ⟨why | _ | reply, b'⟩
    · rw [hlookup] at hkeeps
      exact ⟨rfl, hkeeps.trans hrules, rfl, hsteady⟩
    · rw [hlookup] at hkeeps
      exact ⟨rfl, hkeeps.trans hrules, rfl, hsteady⟩
    · rw [hlookup] at hkeeps
      obtain ⟨rule, hmem, hproduce⟩ := Playbook.exists_rule_of_lookup hlookup
      obtain ⟨bs, hbs⟩ := hencode rule (hrules ▸ hmem) token reply hproduce
      obtain ⟨hsend, hsteady'⟩ := ho.send bs hsteady
      obtain ⟨hflush, hsteady''⟩ := ho.flush hsteady'
      have hdeliver : (replies ++ [reply]).foldl (deliver o c₀.encoding) c₀.out =
          (o.flush (o.send (replies.foldl (deliver o c₀.encoding) c₀.out) bs).2).2 := by
        rw [List.foldl_append, List.foldl_cons, List.foldl_nil, deliver, hbs]
      simp only [hbs, send]
      rcases hout : o.send (replies.foldl (deliver o c₀.encoding) c₀.out) bs with ⟨result, out⟩
      rw [hout] at hsend hsteady' hflush hsteady'' hdeliver
      obtain rfl : result = .ok () := hsend
      simp only at hflush hsteady'' hdeliver ⊢
      rcases hout' : o.flush out with ⟨result, out'⟩
      rw [hout'] at hflush hsteady'' hdeliver
      obtain rfl : result = .ok () := hflush
      exact ⟨rfl, hkeeps.trans hrules, by rw [hdeliver], hsteady''⟩
  settle := fun h => h

end Conversation

/-! ## Triggers -/

namespace Trigger

/-- The actions of a trigger never fail. -/
def Unfailing (t : Trigger) : Prop :=
  (∀ rule ∈ t.book.rules, ∀ token a, rule.reply.produce token = .ok a → a.ending = .done) ∧
    ∀ reason, t.executor ≠ .refusing reason

/-- A trigger that has performed some actions since it was in the state `t₀`, up to those that are put off. Nothing is
put off where nothing ever is. -/
structure Fired (t₀ t : Trigger) (s : Playbook Action × List Action) : Prop where
  rules : s.1.rules = t₀.book.rules
  book : t.book = s.1
  executor : t.executor = t₀.executor
  deferred : t.executor.defers = false → t.deferred = []
  eq : t.runDeferred = { s.2.foldl perform t₀ with book := s.1 }

theorem execute_accepted {t : Trigger} {a : Action} (ha : a.ending = .done)
    (hexecutor : ∀ reason, t.executor ≠ .refusing reason) : (t.execute a).2 = .accepted := by
  unfold execute
  cases h : t.executor with
  | inline => simp only [Action.result, ha]
  | spawned => rfl
  | blocking => rfl
  | keeping => rfl
  | refusing reason => exact absurd h (hexecutor reason)

theorem mirrors_playbook {t₀ : Trigger} (hunfailing : t₀.Unfailing) :
    Mirrors consume runDeferred Playbook.consume (Fired t₀) where
  step := by
    rintro t ⟨b, actions⟩ token ⟨hrules, rfl, hexecutor, hdeferred, heq⟩
    have hkeeps := t.book.rules_lookup token
    -- looking a token up changes the playbook alone
    have hlookup : ∀ b, b.rules = t.book.rules → Fired t₀ { t with book := b } (b, actions) := fun b hb =>
      ⟨hb.trans hrules, rfl, hexecutor, hdeferred, by rw [runDeferred_book, heq]⟩
    simp only [consume, Playbook.consume]
    rcases hresult : t.book.lookup token with ⟨why | _ | a, b⟩
    · rw [hresult] at hkeeps
      exact ⟨rfl, hlookup b hkeeps⟩
    · rw [hresult] at hkeeps
      exact ⟨rfl, hlookup b hkeeps⟩
    · rw [hresult] at hkeeps
      obtain ⟨rule, hmem, hproduce⟩ := Playbook.exists_rule_of_lookup hresult
      have ha := hunfailing.1 rule (hrules ▸ hmem) token a hproduce
      obtain ⟨hrules', hbook', hexecutor', hdeferred', heq'⟩ := hlookup b hkeeps
      obtain ⟨hbook, hframe, hsame⟩ := execute_frame { t with book := b } a
      refine ⟨execute_accepted ha fun reason => hexecutor ▸ hunfailing.2 reason, hrules', hbook,
        hframe.trans hexecutor, fun hdefers => ?_, ?_⟩
      · rw [hframe] at hdefers
        exact (hsame hdefers).trans (hdeferred' hdefers)
      · rw [runDeferred_execute hdeferred', heq', List.foldl_append, List.foldl_cons, List.foldl_nil, perform_book]
  settle := by
    rintro t ⟨b, actions⟩ ⟨hrules, rfl, hexecutor, hdeferred, heq⟩
    have hbook : t.runDeferred.book = t.book := by rw [heq]
    refine ⟨hrules, hbook, t.executor_runDeferred.trans hexecutor, fun _ => t.deferred_runDeferred, ?_⟩
    rw [runDeferred_of_nil t.deferred_runDeferred, heq]

end Trigger

/-! ## Any batches -/

/-- What a worker over lines does with a playbook that waits for whole lines. -/
theorem run_consume {α : Type} {b : Playbook α} {config : WatchConfig} {w : Worker} {batches : List Batch}
    {last : Batch} {d : Decoder} {text : Text} (hstart : Worker.start config .line = .ok w)
    (hidle : ∀ b ∈ batches, b.ending = .idle) (hlast : last.ending = .finished)
    (hread : (Decoder.start config.encoding config.strip).read ((batches ++ [last]).flatMap Batch.reads).flatten =
      .ok (d, text)) (hsafe : b.PrefixSafe text) :
    ∃ outcome, Worker.run Playbook.consume id (b, []) w (batches ++ [last]) =
        (((b.answers (lines text)).2.2, (b.answers (lines text)).1), .error outcome) ∧
      Outcome.Tells (b.answers (lines text)).2.1 outcome := by
  obtain rfl : w = ⟨.line, .start config.encoding config.strip, []⟩ := by
    unfold Worker.start at hstart
    split_ifs at hstart
    exact (Except.ok.inj hstart).symm
  have hrun := run_lines (Playbook.patient_consume hsafe) (s := (b, [])) (w := ⟨.line, _, []⟩) rfl rfl hidle hlast
    hread (.start _) (List.nil_append text).symm
  rwa [Playbook.offerAll_consume, List.nil_append] at hrun

/-- **Batches do not change the answers.** Take a stream that ends, is read without an error and has the text `text`,
and rules none of which waits for the empty token or for the beginning of a line of it. Then, whatever the batches, a
conversation whose replies can be sent and a trigger whose actions never fail do what they do when each line of the
text is looked up once: the replies are sent, or the actions are performed, in that order; and the worker ends with
the stream, or with the first look-up that fails. -/
theorem answers_of_batches {config : WatchConfig} {w : Worker} {batches : List Batch} {last : Batch} {d : Decoder}
    {text : Text} (hstart : Worker.start config .line = .ok w) (hidle : ∀ b ∈ batches, b.ending = .idle)
    (hlast : last.ending = .finished)
    (hread : (Decoder.start config.encoding config.strip).read ((batches ++ [last]).flatMap Batch.reads).flatten =
      .ok (d, text)) :
    (∀ (ω : Type) (o : Outlet ω) (steady : ω → Prop) (c : Conversation ω), o.Steady steady → steady c.out →
      c.Encodable → c.book.PrefixSafe text →
      let (replies, stop, book) := c.book.answers (lines text)
      ∃ outcome, Worker.run (Conversation.consume o) id c w (batches ++ [last]) =
          ({ c with book, out := replies.foldl (Conversation.deliver o c.encoding) c.out }, .error outcome) ∧
        Outcome.Tells stop outcome) ∧
    ∀ t : Trigger, t.deferred = [] → t.Unfailing → t.book.PrefixSafe text →
      let (actions, stop, book) := t.book.answers (lines text)
      ∃ outcome, Worker.run Trigger.consume Trigger.runDeferred t w (batches ++ [last]) =
          ({ actions.foldl Trigger.perform t with book }, .error outcome) ∧
        Outcome.Tells stop outcome := by
  refine ⟨fun ω o steady c hsteady hout hencode hsafe => ?_, fun t hdeferred hunfailing hsafe => ?_⟩
  · obtain ⟨outcome, hrun, htells⟩ := run_consume hstart hidle hlast hread hsafe
    have hbegin : c.Sent o steady c (c.book, []) := ⟨rfl, rfl, hout⟩
    obtain ⟨c', hsent, hrun'⟩ := (Conversation.mirrors_playbook hsteady hencode).run hbegin hrun
    refine ⟨outcome, ?_, htells⟩
    rw [hrun', id, hsent.eq]
  · obtain ⟨outcome, hrun, htells⟩ := run_consume hstart hidle hlast hread hsafe
    have hbegin : t.Fired t (t.book, []) := ⟨rfl, rfl, rfl, fun _ => hdeferred, Trigger.runDeferred_of_nil hdeferred⟩
    obtain ⟨t', hfired, hrun'⟩ := (Trigger.mirrors_playbook hunfailing).run hbegin hrun
    refine ⟨outcome, ?_, htells⟩
    rw [hrun', hfired.eq]

/-- A prompt is cut in the middle, and a line that no rule waits for never ends. -/
theorem answers_of_batches_of_cut_prompt :
    let prompt : Prompt := .exact ['a', 'b']
    let o : Outlet (List Bytes) := ⟨fun sent bs => (.ok (), sent ++ [bs]), fun sent => (.ok (), sent)⟩
    let w : Worker := ⟨.line, .start .utf8 false, []⟩
    let batches : List Batch := [⟨[[0x61]], .idle⟩, ⟨[[0x62], [0x0D, 0x0A]], .idle⟩, ⟨[[0x78]], .finished⟩]
    let replies : Playbook Text := .ofRules .ordered [⟨prompt, .fixed ['y']⟩]
    let actions : Playbook Action := .ofRules .unordered [⟨prompt, .fixed ⟨['r'], .done⟩⟩]
    (∃ chars bytes, Worker.run (Conversation.consume o) id ⟨replies, .utf8, []⟩ w batches =
      (⟨{ replies with cursor := 1 }, .utf8, [[0x79]]⟩, .error (.finished chars bytes))) ∧
    ∃ chars bytes, Worker.run Trigger.consume Trigger.runDeferred (.ofBook actions .spawned) w batches =
      (⟨actions, .spawned, [], [], [.run ['r']], []⟩, .error (.finished chars bytes)) := by
  intro prompt o w batches replies actions
  have hquiet : ∀ token, Premature ['a', 'b', '\r', '\n', 'x'] token → prompt.accepts token = .ok false := by
    intro token hpremature
    have hne : ¬ ['a', 'b'] = token := by
      rintro rfl
      revert hpremature
      unfold Premature
      decide
    rw [Prompt.accepts, beq_eq_false_iff_ne.mpr hne]
  have hstart : Worker.start .default .line = .ok w := rfl
  have hidle : ∀ b ∈ [Batch.mk [[0x61]] .idle, ⟨[[0x62], [0x0D, 0x0A]], .idle⟩], b.ending = .idle := by decide
  have hlast : (Batch.mk [[0x78]] .finished).ending = .finished := rfl
  have hread : (Decoder.start .utf8 false).read [0x61, 0x62, 0x0D, 0x0A, 0x78] =
      .ok (⟨.utf8, none, [], 5, .inl rfl⟩, ['a', 'b', '\r', '\n', 'x']) := by decide +kernel
  obtain ⟨hconversation, htrigger⟩ := answers_of_batches hstart hidle hlast hread
  refine ⟨?_, ?_⟩
  · have hsteady : o.Steady fun _ => True := ⟨fun _ _ => ⟨rfl, trivial⟩, fun _ => ⟨rfl, trivial⟩⟩
    have hencodable : Conversation.Encodable ⟨replies, .utf8, ([] : List Bytes)⟩ := fun _ _ _ _ _ => ⟨_, rfl⟩
    obtain ⟨outcome, hrun, chars, bytes, rfl⟩ := hconversation _ o _ ⟨replies, .utf8, []⟩ hsteady trivial hencodable
      (List.forall_mem_singleton.mpr hquiet)
    exact ⟨chars, bytes, hrun⟩
  · have hunfailing : (Trigger.ofBook actions .spawned).Unfailing :=
      ⟨List.forall_mem_singleton.mpr fun _ _ h => by cases h; rfl, fun _ => Executor.noConfusion⟩
    obtain ⟨outcome, hrun, chars, bytes, rfl⟩ := htrigger (.ofBook actions .spawned) rfl hunfailing
      (List.forall_mem_singleton.mpr hquiet)
    exact ⟨chars, bytes, hrun⟩

end Dialogue
