import Dialogue.Conversation
import Dialogue.Proofs.Playbook
import Dialogue.Proofs.Sink
import Dialogue.Proofs.Watch.Takes

/-!
# What a conversation sends

The bytes that the command's input receives are the byte forms of the replies, in the order in which the tokens were
offered. Only the last of them may be missing, as a whole or in part, and then the run ended with an error.

* `Encoding.encodeAll`: the bytes of several texts;
* `Delivered`: what a sink got of some replies;
* `Conversation.Answered`, `Conversation.answered_consume`: all that can happen to one token;
* `Conversation.delivered_of_takes`: several tokens;
* **`Conversation.run_sends`**: every run.
-/

namespace Dialogue

/-! ## The bytes of replies -/

/-- The bytes of texts one after another, up to the first text without a byte form. -/
def Encoding.encodeAll (e : Encoding) : List Text → Bytes
  | [] => []
  | text :: more =>
    match e.encode text with
    | .ok bs => bs ++ e.encodeAll more
    | .error _ => []

theorem Encoding.encodeAll_append {e : Encoding} {texts : List Text} {forms : List Bytes}
    (h : texts.map e.encode = forms.map .ok) (more : List Text) :
    e.encodeAll (texts ++ more) = forms.flatten ++ e.encodeAll more := by
  induction texts generalizing forms with
  | nil =>
    obtain rfl : forms = [] := List.map_eq_nil_iff.mp h.symm
    rfl
  | cons text texts ih =>
    rcases forms with _ | ⟨bs, forms⟩
    · cases h
    · obtain ⟨htext, htexts⟩ := List.cons.inj h
      rw [List.cons_append, encodeAll, htext, List.flatten_cons, List.append_assoc]
      exact congrArg _ (ih htexts)

/-- What the sink `s` has got of some replies, and the error that kept it from the rest, if there is a rest: all of
them; or all but the last one, which has no byte form or of which a part was written; or all of them, when the last one
could not be flushed. -/
inductive Delivered (e : Encoding) (s : Sink) : List Text → Bytes → Option StreamError → Prop where
  | all {replies : List Text} {forms : List Bytes} (h : replies.map e.encode = forms.map .ok) :
      Delivered e s replies forms.flatten none
  | unencodable {replies : List Text} {last : Text} {forms : List Bytes} {err : StreamError}
      (h : replies.map e.encode = forms.map .ok) (hlast : e.encode last = .error err) :
      Delivered e s (replies ++ [last]) forms.flatten (some err)
  | unwritten {replies : List Text} {last reason : Text} {forms : List Bytes} {bs part : Bytes}
      (h : replies.map e.encode = forms.map .ok) (hlast : e.encode last = .ok bs) (hpart : part <+: bs)
      (hne : part ≠ bs) (hfault : s.WriteFault (Text.lit "write zero") reason) :
      Delivered e s (replies ++ [last]) (forms.flatten ++ part) (some (.write reason))
  | unflushed {replies : List Text} {last reason : Text} {forms : List Bytes} {bs : Bytes}
      (h : replies.map e.encode = forms.map .ok) (hlast : e.encode last = .ok bs) (hfault : s.FlushFault reason) :
      Delivered e s (replies ++ [last]) (forms.flatten ++ bs) (some (.write reason))

namespace Delivered

variable {e : Encoding} {s : Sink} {replies : List Text} {sent : Bytes} {failure : Option StreamError}

theorem nothing : Delivered e s [] [] none := @all e s [] [] rfl

theorem cons {reply : Text} {bs : Bytes} (hreply : e.encode reply = .ok bs) (h : Delivered e s replies sent failure) :
    Delivered e s (reply :: replies) (bs ++ sent) failure := by
  have hcons : ∀ {replies : List Text} {forms : List Bytes}, replies.map e.encode = forms.map .ok →
      (reply :: replies).map e.encode = (bs :: forms).map .ok := by
    intro replies forms h
    rw [List.map_cons, hreply, h, List.map_cons]
  cases h with
  | all h => exact .all (hcons h)
  | unencodable h hlast => exact .unencodable (hcons h) hlast
  | unwritten h hlast hpart hne hfault =>
    rw [← List.append_assoc]
    exact .unwritten (hcons h) hlast hpart hne hfault
  | unflushed h hlast hfault =>
    rw [← List.append_assoc]
    exact .unflushed (hcons h) hlast hfault

theorem forms_of_none (h : Delivered e s replies sent none) :
    ∃ forms : List Bytes, replies.map e.encode = forms.map .ok ∧ sent = forms.flatten := by
  generalize hfailure : (none : Option StreamError) = failure at h
  cases h with
  | all h => exact ⟨_, h, rfl⟩
  | _ => cases hfailure

theorem prefix_encodeAll (h : Delivered e s replies sent failure) (more : List Text) :
    sent <+: e.encodeAll (replies ++ more) := by
  cases h with
  | all h =>
    rw [Encoding.encodeAll_append h]
    exact List.prefix_append _ _
  | unencodable h hlast =>
    rw [List.append_assoc, Encoding.encodeAll_append h]
    exact List.prefix_append _ _
  | unwritten h hlast hpart hne hfault =>
    rw [List.append_assoc, Encoding.encodeAll_append h, List.singleton_append, Encoding.encodeAll, hlast,
      List.prefix_append_right_inj]
    exact hpart.trans (List.prefix_append _ _)
  | unflushed h hlast hfault =>
    rw [List.append_assoc, Encoding.encodeAll_append h, List.singleton_append, Encoding.encodeAll, hlast,
      List.prefix_append_right_inj]
    exact List.prefix_append _ _

end Delivered

namespace Conversation

/-! ## One token -/

/-- All that can happen when a token is offered to a conversation. -/
inductive Answered (c : Conversation Sink) (token : Text) : Conversation Sink → Verdict → Prop where
  | failed {why : Stop} {book : Playbook Text} (hlookup : c.book.lookup token = (.error why, book)) :
      Answered c token { c with book } (.stopped why)
  | declined {book : Playbook Text} (hlookup : c.book.lookup token = (.ok none, book)) :
      Answered c token { c with book } .declined
  | replied {reply : Text} {bs : Bytes} {book : Playbook Text} {out : Sink}
      (hlookup : c.book.lookup token = (.ok (some reply), book)) (hencode : c.encoding.encode reply = .ok bs)
      (hout : c.out.Gets bs out) : Answered c token { c with book, out } .accepted
  | broken {reply : Text} {sent : Bytes} {err : StreamError} {book : Playbook Text} {out : Sink}
      (hlookup : c.book.lookup token = (.ok (some reply), book)) (hout : c.out.Gets sent out)
      (hsent : Delivered c.encoding out [reply] sent (some err)) :
      Answered c token { c with book, out } (.stopped (.error (.stream err)))

theorem answered_consume (c : Conversation Sink) (token : Text) :
    Answered c token (consume Sink.outlet c token).1 (consume Sink.outlet c token).2 := by
  rw [consume]
  rcases hlookup : c.book.lookup token with ⟨why | _ | reply, book⟩
  · exact .failed hlookup
  · exact .declined hlookup
  have hnone : ([] : List Text).map c.encoding.encode = ([] : List Bytes).map .ok := rfl
  rcases hencode : c.encoding.encode reply with err | bs <;> simp only [hencode]
  · exact .broken hlookup (.refl c.out) (.unencodable hnone hencode)
  simp only [send, Sink.outlet]
  rcases hwrite : c.out.writeAll (Text.lit "write zero") bs with ⟨reason | _, out⟩
  · obtain ⟨part, hpart, hne, hgets, hfault⟩ := Sink.writeAll_eq_error hwrite
    exact .broken hlookup hgets (.unwritten hnone hencode hpart hne hfault)
  · have hgets := Sink.writeAll_eq_ok hwrite
    rcases hflush : out.flush with ⟨reason | _, out'⟩ <;> simp only [hflush]
    · obtain ⟨hnothing, hfault⟩ := Sink.flush_eq_error hflush
      have hall := hgets.trans hnothing
      rw [List.append_nil] at hall
      exact .broken hlookup hall (.unflushed hnone hencode hfault)
    · have hall := hgets.trans (Sink.flush_eq_ok hflush)
      rw [List.append_nil] at hall
      exact .replied hlookup hencode hall

theorem Answered.out_of_declined {c c' : Conversation Sink} {token : Text} {v : Verdict} (h : Answered c token c' v)
    (hv : v = .declined) : c'.out = c.out := by
  cases h with
  | declined hlookup => rfl
  | failed hlookup => rfl
  | replied hlookup hencode hout => cases hv
  | broken hlookup hout hsent => cases hv

/-! ## Several tokens -/

/-- The error that stops a conversation: one of delivering, or else one of looking up. -/
def stopOf (failure : Option StreamError) (why : Option Stop) : Option Stop :=
  match failure with
  | some err => some (.error (.stream err))
  | none => why

/-- **The replies to tokens are delivered one after another**, and the first failure is the last thing to happen. -/
theorem delivered_of_takes {c c' : Conversation Sink} {offers : List Offer} {stop : Option Stop}
    (h : (consume Sink.outlet).Takes c offers c' stop) :
    let tokens := offers.map Offer.token
    c' = { c with book := (c.book.answers tokens).2.2, out := c'.out } ∧
      ∃ sent failure, c.out.Gets sent c'.out ∧
        Delivered c.encoding c'.out (c.book.answers tokens).1 sent failure ∧
          stop = stopOf failure (c.book.answers tokens).2.1 := by
  induction h with
  | nil c => exact ⟨rfl, [], none, .refl _, .nothing, rfl⟩
  | @stopped c c' token delimiter why hstop =>
    have hanswered := answered_consume c token
    rw [hstop] at hanswered
    simp only [List.map_cons, List.map_nil, Playbook.answers]
    cases hanswered with
    | failed hlookup =>
      rw [hlookup]
      exact ⟨rfl, [], none, .refl _, .nothing, rfl⟩
    | broken hlookup hout hsent =>
      rw [hlookup]
      exact ⟨rfl, _, _, hout, hsent, rfl⟩
  | @next c c₁ c' token delimiter v more stop hnext hv hmore ih =>
    have hanswered := answered_consume c token
    rw [hnext] at hanswered
    simp only [List.map_cons, Playbook.answers]
    cases hanswered with
    | failed hlookup => exact absurd rfl (hv _)
    | broken hlookup hout hsent => exact absurd rfl (hv _)
    | declined hlookup =>
      rw [hlookup]
      exact ih
    | replied hlookup hencode hout =>
      rw [hlookup]
      obtain ⟨hc', sent, failure, hgets, hsent, hwhy⟩ := ih
      exact ⟨hc', _, failure, hout.trans hgets, hsent.cons hencode, hwhy⟩

/-! ## Runs -/

/-- **A conversation sends its replies and nothing else.** Take any run of a conversation over a sink, and the tokens
that were offered, in that order.
* The sink receives the byte forms of the replies that looking the tokens up gives, one after another. Only the last
  reply may be missing: one without a byte form as a whole, one that could not be written from some place on; and one
  that could not be flushed is there. Then, and when a look-up fails, the run ends with that error.
* When a token is offered, the sink has received the replies to the tokens before it and nothing else. A token that is
  declined changes nothing in the sink, and a token that leads to an error is the last one.
* At every moment, what the sink has received from a script of fixed replies is a prefix of their byte forms. -/
theorem run_sends (c : Conversation Sink) (w : Worker) (batches : List Batch) :
    let talk := consume Sink.outlet
    let offers := w.offers talk id c batches
    let answers := c.book.answers (offers.map Offer.token)
    let c' := (w.run talk id c batches).1
    let result := (w.run talk id c batches).2
    (w.run talk.recording (Prod.map id id) (c, []) batches).1.2 = offers.map Offer.taken ∧
    c' = { c with book := answers.2.2, out := c'.out } ∧
    (∃ sent failure, c'.out.received = c.out.received ++ sent ∧ Delivered c.encoding c'.out answers.1 sent failure ∧
      ∀ why, stopOf failure answers.2.1 = some why → result = .error (.ofStop why)) ∧
    (∀ (before : List Offer) (o : Offer) (after : List Offer), offers = before ++ o :: after →
      let c₁ := (talk.offerAll c (before.map Offer.token)).1
      (∃ forms : List Bytes, (c.book.answers (before.map Offer.token)).1.map c.encoding.encode = forms.map .ok ∧
        c₁.out.received = c.out.received ++ forms.flatten) ∧
      o.verdict = (talk c₁ o.token).2 ∧
      (o.verdict = .declined → (talk c₁ o.token).1.out = c₁.out) ∧
      ∀ why, o.verdict = .stopped why → after = [] ∧ result = .error (.ofStop why)) ∧
    ∀ replies : List Text, c.book.discipline = .ordered → c.book.rules.map Rule.reply = replies.map .fixed →
      ∀ moment, moment <:+ c'.out.events →
        Sink.bytesOf moment <+: c.out.received ++ c.encoding.encodeAll (replies.drop c.book.cursor) := by
  intro talk offers answers c' result
  obtain ⟨stop, htakes, hresult⟩ := Worker.takes_run talk c w batches
  obtain ⟨hc', sent, failure, hgets, hsent, hstop⟩ := delivered_of_takes htakes
  refine ⟨by rw [Worker.run_recording, List.nil_append], hc', ⟨sent, failure, hgets.received, hsent, ?_⟩, ?_, ?_⟩
  · rintro why hwhy
    exact hresult why (hstop.trans hwhy)
  · intro before o after hsplit c₁
    have htakes' : talk.Takes c (before ++ o :: after) c' stop := hsplit ▸ htakes
    obtain ⟨c₂, hbefore, hafter⟩ := htakes'.split
    obtain rfl : c₁ = c₂ := congrArg Prod.fst hbefore.offerAll_eq
    obtain ⟨-, sent₁, failure₁, hgets₁, hsent₁, hstop₁⟩ := delivered_of_takes hbefore
    refine ⟨?_, hafter.verdict_eq, fun hdeclined => ?_, fun why hwhy => ?_⟩
    · cases failure₁ with
      | some err => cases hstop₁
      | none =>
        obtain ⟨forms, hforms, rfl⟩ := hsent₁.forms_of_none
        exact ⟨forms, hforms, hgets₁.received⟩
    · exact (answered_consume c₁ o.token).out_of_declined (hafter.verdict_eq ▸ hdeclined)
    · obtain ⟨hnil, hwhy'⟩ := hafter.eq_nil_of_stopped hwhy
      exact ⟨hnil, hresult why hwhy'⟩
  · intro replies hordered hfixed moment hmoment
    obtain ⟨rest, hrest⟩ := Playbook.answers_prefix hordered hfixed (offers.map Offer.token)
    have hnow := Sink.bytesOf_prefix hmoment
    have hall : c'.out.received <+: c.out.received ++ c.encoding.encodeAll (replies.drop c.book.cursor) := by
      rw [hgets.received, List.prefix_append_right_inj, ← hrest]
      exact hsent.prefix_encodeAll rest
    exact hnow.trans hall

/-- A sink with space for three bytes is full in the middle of the second reply of a script: the second token stops the
conversation, and at no moment has the sink received anything but the beginning of both replies. -/
theorem run_sends_of_full_sink :
    let c : Conversation Sink := ⟨.ofRules .ordered
      [⟨.exact ['a'], .fixed ['x', 'y']⟩, ⟨.exact ['b'], .fixed ['z', 'z']⟩], .utf8, .ofBehaviour ⟨fun _ taken => if taken < 3 then .take 1 else .fail ['!'], fun _ => none, none⟩⟩
    let run := Worker.run (consume Sink.outlet) id c ⟨.line, .start .utf8 false, []⟩
      [⟨[[0x61, 0x0A, 0x62], [0x0A, 0x63]], .idle⟩]
    run.2 = .error (.failed (.stream (.write ['!']))) ∧ run.1.out.received = [0x78, 0x79, 0x7A] ∧
      ∀ moment, moment <:+ run.1.out.events → Sink.bytesOf moment <+: [0x78, 0x79, 0x7A, 0x7A] := by
  intro c run
  obtain ⟨-, -, -, hoffers, hscript⟩ := run_sends c ⟨.line, .start .utf8 false, []⟩
    [⟨[[0x61, 0x0A, 0x62], [0x0A, 0x63]], .idle⟩]
  have hbroken : Worker.offers (consume Sink.outlet) id c ⟨.line, .start .utf8 false, []⟩
      [⟨[[0x61, 0x0A, 0x62], [0x0A, 0x63]], .idle⟩] =
      [⟨['a'], some ['\n'], .accepted⟩] ++
        ⟨['b'], some ['\n'], .stopped (.error (.stream (.write ['!'])))⟩ :: [] := by decide +kernel
  obtain ⟨-, -, -, hstops⟩ := hoffers _ _ _ hbroken
  exact ⟨(hstops _ rfl).2, by decide +kernel, hscript [['x', 'y'], ['z', 'z']] rfl rfl⟩

end Conversation

end Dialogue
