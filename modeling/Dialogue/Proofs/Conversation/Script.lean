import Dialogue.Conversation
import Dialogue.Proofs.Delimiter.Lines
import Dialogue.Proofs.Encoding.Texts
import Dialogue.Proofs.Sink
import Dialogue.Proofs.Watch.Batch

/-!
# A script is played to its end

A command prints some lines and a prompt, waits for the answer, and goes on with the next lines and the next prompt.
A conversation over lines whose script waits for these prompts answers every one of them as soon as it is complete,
however the bytes of the command are cut.

* `LineEnd`, `Turn`: what a command does up to the next answer;
* `Turn.quiet_closed`, `Turn.quiet_opened`: no other token of a turn is its prompt;
* `Consumer.pass_of_quiet`: a pass without an answer;
* `Turn.run_before_end`, `Turn.run_to_end`: the batches of a turn;
* **`Conversation.plays_script`**: all turns.
-/

namespace Dialogue

/-! ## Turns -/

/-- What ends a line. -/
inductive LineEnd where
  | lf
  | cr
  | crLf
  deriving DecidableEq, Repr

def LineEnd.text : LineEnd → Text
  | .lf => ['\n']
  | .cr => ['\r']
  | .crLf => ['\r', '\n']

/-- What a command does up to the next answer: it prints lines, each with its end, and a prompt, and their bytes reach
the worker in batches that are not empty; after each of them the command is not ready. No line begins with the prompt,
which is a part of a line itself. The `answer` is the byte form of the reply. -/
structure Turn (e : Encoding) where
  lines : List (Text × LineEnd)
  prompt : Text
  reply : Text
  answer : Bytes
  batches : List Batch
  lines_plain : ∀ l ∈ lines, ∀ c ∈ l.1, ¬ isLineEnd c
  lines_quiet : ∀ l ∈ lines, ¬ prompt <+: l.1
  prompt_plain : ∀ c ∈ prompt, ¬ isLineEnd c
  prompt_ne_nil : prompt ≠ []
  encode_reply : e.encode reply = .ok answer
  idle : ∀ b ∈ batches, b.ending = .idle
  nonempty : ∀ b ∈ batches, b.reads.flatten ≠ []
  encode_text : e.encode ((lines.flatMap fun l => l.1 ++ l.2.text) ++ prompt) =
    .ok (batches.flatMap Batch.reads).flatten

namespace Turn

variable {e : Encoding} (t : Turn e)

def text : Text := (t.lines.flatMap fun l => l.1 ++ l.2.text) ++ t.prompt

/-- The rule that answers the prompt. -/
def rule : Rule Text := ⟨.exact t.prompt, .fixed t.reply⟩

theorem cut_lines {lines : List (Text × LineEnd)} (h : ∀ l ∈ lines, ∀ c ∈ l.1, ¬ isLineEnd c) (rest : Text) :
    closed ((lines.flatMap fun l => l.1 ++ l.2.text) ++ rest) = (lines.map Prod.fst).filter (· ≠ []) ++ closed rest ∧
      opened ((lines.flatMap fun l => l.1 ++ l.2.text) ++ rest) = opened rest := by
  induction lines with
  | nil => exact ⟨rfl, rfl⟩
  | cons l lines ih =>
    obtain ⟨hl, hlines⟩ := List.forall_mem_cons.mp h
    obtain ⟨hclosed, hopened⟩ := ih hlines
    have hends : l.2.text = ['\r', '\n'] ∨ l.2.text = ['\r'] ∨ l.2.text = ['\n'] := by
      cases l.2
      · exact .inr (.inr rfl)
      · exact .inr (.inl rfl)
      · exact .inl rfl
    obtain ⟨hclosed', hopened'⟩ := cut_of_lineEnd hl hends ((lines.flatMap fun l => l.1 ++ l.2.text) ++ rest)
    have hfirst : (l.1 :: lines.map Prod.fst).filter (· ≠ []) =
        [l.1].filter (· ≠ []) ++ (lines.map Prod.fst).filter (· ≠ []) := by rw [← List.filter_append]; rfl
    rw [List.flatMap_cons, List.append_assoc, List.append_assoc, hclosed', hopened', hclosed, hopened, List.map_cons,
      hfirst, List.append_assoc]
    exact ⟨rfl, rfl⟩

theorem cut_prompt : closed t.prompt = [] ∧ opened t.prompt = t.prompt := by
  have hplain := cut_plain_append [] t.prompt_plain []
  rw [List.append_nil, List.nil_append] at hplain
  rw [closed, opened, hplain]
  exact ⟨rfl, rfl⟩

theorem opened_text : opened t.text = t.prompt := by
  rw [text, (cut_lines t.lines_plain t.prompt).2, t.cut_prompt.2]

theorem quiet_closed {token : Text} (h : token ∈ closed t.text) : ¬ t.prompt <+: token := by
  rw [text, (cut_lines t.lines_plain t.prompt).1, t.cut_prompt.1, List.append_nil] at h
  obtain ⟨l, hl, rfl⟩ := List.mem_map.mp (List.mem_filter.mp h).1
  exact t.lines_quiet l hl

/-- The line that has not ended is not the prompt as long as there is more to come. -/
theorem quiet_opened {part more : Text} (h : t.text = part ++ more) (hmore : more ≠ []) : opened part ≠ t.prompt := by
  intro hprompt
  obtain ⟨c, rest, rfl⟩ := List.exists_cons_of_ne_nil hmore
  have hquiet : ∀ token ∈ closed t.text, ¬ t.prompt <+: token := fun _ => t.quiet_closed
  have hopened := t.opened_text
  rw [h] at hquiet hopened
  by_cases hc : isLineEnd c
  · -- the line that has not ended ends here
    refine hquiet t.prompt ?_ List.prefix_rfl
    rw [closed_append_lineEnd hc, lines_of_opened_ne_nil (hprompt ▸ t.prompt_ne_nil), hprompt]
    simp
  · obtain ⟨l, hl, hprefix⟩ := exists_line_of_not_isLineEnd part hc rest
    rw [hprompt] at hprefix
    rw [lines_of_opened_ne_nil (hopened ▸ t.prompt_ne_nil), hopened] at hl
    rcases List.mem_append.mp hl with hl | hl
    · exact hquiet l hl ((List.prefix_append _ _).trans hprefix)
    · obtain rfl := List.mem_singleton.mp hl
      have hle := hprefix.length_le
      rw [List.length_append, List.length_singleton] at hle
      exact Nat.not_succ_le_self _ hle

end Turn

/-! ## The batches of a turn -/

section Quiet

variable {σ : Type} {consume : Consumer σ} {s s' : σ}

theorem Consumer.offerAll_of_quiet {tokens : List Text} (h : ∀ t ∈ tokens, consume s t = (s, .declined)) :
    consume.offerAll s tokens = (s, none) := by
  induction tokens with
  | nil => rfl
  | cons t tokens ih =>
    obtain ⟨ht, htokens⟩ := List.forall_mem_cons.mp h
    rw [offerAll, ht]
    exact ih htokens

theorem Consumer.pass_of_quiet {cs : Text} (hempty : consume s [] = (s, .declined))
    (hclosed : ∀ t ∈ closed cs, consume s t = (s, .declined)) :
    consume.pass s (Delimiter.line.split cs) =
      if opened cs = [] then (s, .ok [])
      else match consume s (opened cs) with
        | (s, .stopped why) => (s, .error why)
        | (s, .accepted) => (s, .ok [])
        | (s, .declined) => (s, .ok (opened cs)) := by
  have hpieces : ∀ t ∈ (Delimiter.line.split cs).pieces.map Prod.fst, consume s t = (s, .declined) := by
    intro t ht
    by_cases hnil : t = []
    · rwa [hnil]
    · refine hclosed t ?_
      rw [← tokens_split_line]
      exact List.mem_filter.mpr ⟨ht, decide_eq_true hnil⟩
  unfold pass
  rw [offerAll_of_quiet hpieces, rest_split_line]
  rcases hv : consume s (opened cs) with ⟨s₁, _ | _ | why⟩ <;> simp only [List.isEmpty_iff, hv]

namespace Turn

variable {e : Encoding} (t : Turn e) {part new more : Text}

/-- Only the prompt is answered. -/
structure Awaits (consume : Consumer σ) (s s' : σ) : Prop where
  quiet : ∀ token, token ≠ t.prompt → consume s token = (s, .declined)
  answer : consume s t.prompt = (s', .accepted)

variable {t}

/-- A pass within a turn offers nothing but lines that have ended and the one that has not. -/
theorem pass_eq (h : t.Awaits consume s s') (htext : t.text = part ++ new ++ more) :
    consume.pass s (Delimiter.line.split (opened part ++ new)) =
      if more = [] then (s', .ok []) else (s, .ok (opened (part ++ new))) := by
  have hclosed : ∀ token ∈ closed (opened part ++ new), consume s token = (s, .declined) := by
    intro token htoken
    have hmem : token ∈ closed t.text := by
      rw [htext, closed_append, closed_append part]
      exact List.mem_append_left _ (List.mem_append_right _ htoken)
    exact h.quiet token fun hprompt => t.quiet_closed hmem (hprompt.symm ▸ List.prefix_rfl)
  rw [Consumer.pass_of_quiet (h.quiet [] (Ne.symm t.prompt_ne_nil)) hclosed, ← opened_append]
  by_cases hmore : more = []
  · -- the prompt is complete
    have hprompt : opened (part ++ new) = t.prompt := by rw [← t.opened_text, htext, hmore, List.append_nil]
    rw [hprompt, if_neg t.prompt_ne_nil, h.answer, if_pos hmore]
  · rw [if_neg hmore]
    by_cases hnil : opened (part ++ new) = []
    · rw [if_pos hnil, hnil]
    · rw [if_neg hnil, h.quiet _ (t.quiet_opened htext hmore)]

theorem takeBatch_eq (h : t.Awaits consume s s') {b : Batch} (hidle : b.ending = .idle)
    (hbytes : b.reads.flatten ≠ []) {d d' : Decoder} (hread : d.read b.reads.flatten = .ok (d', new))
    (htext : t.text = part ++ new ++ more) :
    Worker.takeBatch consume s ⟨.line, d, opened part⟩ b =
      if more = [] then (s', .ok ⟨.line, d', []⟩) else (s, .ok ⟨.line, d', opened (part ++ new)⟩) := by
  have hdecode : Worker.decode ⟨.line, d, opened part⟩ b.reads = .ok ⟨.line, d', opened part ++ new⟩ := by
    rw [Worker.decode_eq, hread]
  have hreads : b.reads ≠ [] := by
    intro hnil
    rw [hnil] at hbytes
    exact hbytes rfl
  rw [Worker.takeBatch_idle hdecode hidle, if_neg hreads, Worker.offer, pass_eq h htext]
  by_cases hmore : more = []
  · rw [if_pos hmore, if_pos hmore]
  · rw [if_neg hmore, if_neg hmore]

theorem run_of_more (h : t.Awaits consume s s') {batches : List Batch} (hidle : ∀ b ∈ batches, b.ending = .idle)
    (hbytes : ∀ b ∈ batches, b.reads.flatten ≠ []) {d d' : Decoder}
    (hread : d.read (batches.flatMap Batch.reads).flatten = .ok (d', new)) (htext : t.text = part ++ new ++ more)
    (hmore : more ≠ []) :
    Worker.run consume id s ⟨.line, d, opened part⟩ batches = (s, .ok ⟨.line, d', opened (part ++ new)⟩) := by
  induction batches generalizing d part new with
  | nil =>
    rw [List.flatMap_nil, List.flatten_nil, Decoder.read_nil] at hread
    obtain ⟨rfl, rfl⟩ := Prod.mk.inj (Except.ok.inj hread)
    rw [List.append_nil]
    rfl
  | cons b batches ih =>
    obtain ⟨hb, hidle⟩ := List.forall_mem_cons.mp hidle
    obtain ⟨hb', hbytes⟩ := List.forall_mem_cons.mp hbytes
    rw [List.flatMap_cons, List.flatten_append] at hread
    obtain ⟨d₁, first, later, hfirst, hlater, rfl⟩ := Decoder.read_append_eq_ok hread
    have htext₁ : t.text = part ++ first ++ (later ++ more) := by rw [htext]; simp
    have hmore₁ : later ++ more ≠ [] := List.append_ne_nil_of_right_ne_nil _ hmore
    have htext₂ : t.text = part ++ first ++ later ++ more := by rw [htext₁]; simp
    rw [Worker.run, takeBatch_eq h hb hb' hfirst htext₁, if_neg hmore₁, ← List.append_assoc]
    exact ih hidle hbytes hlater htext₂

theorem read_cut (n : Nat) {read rest : List Batch} (hcut : t.batches = read ++ rest) :
    ∃ d part more m, Decoder.read ⟨e, none, [], n, .inl rfl⟩ (read.flatMap Batch.reads).flatten = .ok (d, part) ∧
      d.read (rest.flatMap Batch.reads).flatten = .ok (⟨e, none, [], m, .inl rfl⟩, more) ∧ t.text = part ++ more ∧
      (more = [] ↔ rest = []) := by
  obtain ⟨m, hall⟩ := Decoder.read_encode t.encode_text n
  change Decoder.read _ _ = .ok (_, t.text) at hall
  rw [hcut, List.flatMap_append, List.flatten_append] at hall
  obtain ⟨d, part, more, hread, hrest, htext⟩ := Decoder.read_append_eq_ok hall
  refine ⟨d, part, more, m, hread, hrest, htext, fun hmore => ?_, fun hnil => ?_⟩
  · by_contra hne
    obtain ⟨b, rest', rfl⟩ := List.exists_cons_of_ne_nil hne
    have hb : b.reads.flatten ≠ [] := t.nonempty b (hcut ▸ List.mem_append_right _ List.mem_cons_self)
    refine Decoder.ne_nil_of_read (Decoder.terminal_of_read rfl hread) ?_ hrest rfl hmore
    rw [List.flatMap_cons, List.flatten_append]
    exact List.append_ne_nil_of_left_ne_nil hb _
  · rw [hnil, List.flatMap_nil, List.flatten_nil, Decoder.read_nil] at hrest
    exact (Prod.mk.inj (Except.ok.inj hrest)).2.symm

/-- Batches at the beginning of a turn leave what has not ended pending. -/
theorem run_beginning (h : t.Awaits consume s s') (n : Nat) {read rest : List Batch} (hcut : t.batches = read ++ rest)
    (hrest : rest ≠ []) {d : Decoder} (hread : Decoder.read ⟨e, none, [], n, .inl rfl⟩ (read.flatMap Batch.reads).flatten =
      .ok (d, part)) (htext : t.text = part ++ more) (hmore : more = [] ↔ rest = []) :
    Worker.run consume id s ⟨.line, ⟨e, none, [], n, .inl rfl⟩, []⟩ read = (s, .ok ⟨.line, d, opened part⟩) := by
  have hsub : ∀ b ∈ read, b ∈ t.batches := fun b hb => hcut ▸ List.mem_append_left _ hb
  have htext' : t.text = [] ++ part ++ more := htext
  exact run_of_more h (fun b hb => t.idle b (hsub b hb)) (fun b hb => t.nonempty b (hsub b hb)) hread htext'
    (mt hmore.mp hrest)

/-- **Before the end of a turn** nothing is answered. -/
theorem run_before_end (h : t.Awaits consume s s') (n : Nat) {read rest : List Batch}
    (hcut : t.batches = read ++ rest) (hrest : rest ≠ []) :
    ∃ w, Worker.run consume id s ⟨.line, ⟨e, none, [], n, .inl rfl⟩, []⟩ read = (s, .ok w) := by
  obtain ⟨d, part, more, m, hread, -, htext, hmore⟩ := t.read_cut n hcut
  exact ⟨_, run_beginning h n hcut hrest hread htext hmore⟩

theorem batches_ne_nil (t : Turn e) : t.batches ≠ [] := by
  intro hnil
  obtain ⟨d, part, more, m, hread, -, htext, hmore⟩ := t.read_cut 0 (List.nil_append _).symm
  cases (Decoder.read_nil _).symm.trans hread
  have hopened := t.opened_text
  rw [htext, hmore.mpr hnil] at hopened
  exact t.prompt_ne_nil hopened.symm

/-- **At the end of a turn** the prompt is answered, and nothing is pending. -/
theorem run_to_end (h : t.Awaits consume s s') (n : Nat) :
    ∃ m, Worker.run consume id s ⟨.line, ⟨e, none, [], n, .inl rfl⟩, []⟩ t.batches =
      (s', .ok ⟨.line, ⟨e, none, [], m, .inl rfl⟩, []⟩) := by
  obtain ⟨front, last, hcut⟩ := (List.eq_nil_or_concat' t.batches).resolve_left t.batches_ne_nil
  obtain ⟨d, part, more, m, hread, hlast, htext, hmore⟩ := t.read_cut n hcut
  have hmem : last ∈ t.batches := hcut ▸ List.mem_append_right _ (List.mem_singleton_self last)
  have hfront := run_beginning h n hcut (List.cons_ne_nil _ _) hread htext hmore
  rw [List.flatMap_singleton] at hlast
  rw [← List.append_nil (part ++ more)] at htext
  refine ⟨m, ?_⟩
  rw [hcut, Worker.run_append_of_ok hfront, Worker.run,
    takeBatch_eq h (t.idle last hmem) (t.nonempty last hmem) hlast htext, if_pos rfl]
  rfl

end Turn

end Quiet

/-! ## Scripts -/

namespace Conversation

variable {e : Encoding} {c : Conversation Sink}

/-- A conversation awaits the prompt of the rule that its script has come to, and answers it. -/
theorem awaits (t : Turn e) (hencoding : c.encoding = e) (hordered : c.book.discipline = .ordered)
    (hrule : c.book.rules[c.book.cursor]? = some t.rule) (hout : c.out.behaviour.Unfailing) :
    ∃ out, c.out.Gets t.answer out ∧
      t.Awaits (consume Sink.outlet) c { c with book := { c.book with cursor := c.book.cursor + 1 }, out } := by
  have hlookup : ∀ token, c.book.lookup token =
      if t.prompt = token then (.ok (some t.reply), { c.book with cursor := c.book.cursor + 1 })
      else (.ok none, c.book) := by
    intro token
    simp only [Playbook.lookup, hordered, Playbook.lookupOrdered, hrule, Turn.rule, Prompt.accepts, Reply.produce]
    by_cases htoken : t.prompt = token
    · simp [htoken]
    · simp [htoken, beq_eq_false_iff_ne.mpr htoken]
  obtain ⟨written, hwrite, hgets⟩ := Sink.writeAll_of_unfailing hout (Text.lit "write zero") t.answer
  obtain ⟨out, hflush, hgets'⟩ := Sink.flush_of_unfailing (s := written) (hgets.behaviour ▸ hout)
  refine ⟨out, ?_, fun token htoken => ?_, ?_⟩
  · have hall := hgets.trans hgets'
    rwa [List.append_nil] at hall
  · rw [consume, hlookup, if_neg (Ne.symm htoken)]
  · rw [consume, hlookup, if_pos rfl]
    simp only [hencoding, t.encode_reply, send, Sink.outlet, hwrite, hflush]

/-- **Several turns** that the script waits for next. -/
theorem run_turns {turns : List (Turn e)} (hencoding : c.encoding = e) (hordered : c.book.discipline = .ordered)
    (hrules : turns.map Turn.rule <+: c.book.rules.drop c.book.cursor) (hout : c.out.behaviour.Unfailing) (n : Nat) :
    ∃ c' m, Worker.run (consume Sink.outlet) id c ⟨.line, ⟨e, none, [], n, .inl rfl⟩, []⟩ (turns.flatMap Turn.batches) =
        (c', .ok ⟨.line, ⟨e, none, [], m, .inl rfl⟩, []⟩) ∧
      c.out.Gets (turns.flatMap Turn.answer) c'.out ∧ c'.encoding = e ∧
        c'.book = { c.book with cursor := c.book.cursor + turns.length } := by
  induction turns generalizing c n with
  | nil => exact ⟨c, n, rfl, .refl _, hencoding, rfl⟩
  | cons t turns ih =>
    obtain ⟨later, hlater⟩ := hrules
    rw [List.map_cons, List.cons_append] at hlater
    have hrule : c.book.rules[c.book.cursor]? = some t.rule := by
      rw [← List.head?_drop, ← hlater]
      rfl
    have hmore : turns.map Turn.rule <+: c.book.rules.drop (c.book.cursor + 1) := by
      rw [← List.tail_drop, ← hlater]
      exact List.prefix_append _ _
    obtain ⟨out, hgets, hawaits⟩ := awaits t hencoding hordered hrule hout
    obtain ⟨m, hturn⟩ := Turn.run_to_end hawaits n
    obtain ⟨c', m', hrun, hgets', hencoding', hbook⟩ :=
      ih (c := { c with book := { c.book with cursor := c.book.cursor + 1 }, out }) hencoding hordered hmore
        (hgets.behaviour ▸ hout) m
    refine ⟨c', m', ?_, hgets.trans hgets', hencoding', ?_⟩
    · rw [List.flatMap_cons, Worker.run_append_of_ok hturn]
      exact hrun
    · rw [hbook, List.length_cons, Nat.add_assoc, Nat.add_comm 1]

/-- **A script is played to its end.** Take a conversation over lines, which keeps control sequences, with a script of
exact prompts and fixed replies and a sink that never fails; and a command that does what the script waits for, turn
after turn, with its bytes cut into batches in any way. When all batches before a turn were taken, and some of the
turn, the sink has received the answers to the turns before, and the answer to this one if and only if all of its
batches were taken; and the worker goes on. In the end all answers were received in order, and the script is
exhausted. -/
theorem plays_script {config : WatchConfig} {w : Worker} (hstart : Worker.start config .line = .ok w)
    (hstrip : config.strip = false) (turns : List (Turn config.encoding)) {out : Sink}
    (hout : out.behaviour.Unfailing) :
    let c : Conversation Sink := ⟨.ofRules .ordered (turns.map Turn.rule), config.encoding, out⟩
    let talk := consume Sink.outlet
    (∀ before t after read rest, turns = before ++ t :: after → t.batches = read ++ rest →
      ∃ c' w', w.run talk id c (before.flatMap Turn.batches ++ read) = (c', .ok w') ∧
        c'.out.received = out.received ++ before.flatMap Turn.answer ++ if rest = [] then t.answer else []) ∧
    ∃ c' w', w.run talk id c (turns.flatMap Turn.batches) = (c', .ok w') ∧
      c'.out.received = out.received ++ turns.flatMap Turn.answer ∧ c'.book.isExhausted = true := by
  intro c talk
  obtain rfl : w = ⟨.line, ⟨config.encoding, none, [], 0, .inl rfl⟩, []⟩ := by
    rw [Worker.start_eq_ok hstart, Decoder.start, hstrip]
    rfl
  refine ⟨fun before t after read rest hturns hcut => ?_, ?_⟩
  · have hrules : before.map Turn.rule <+: c.book.rules.drop c.book.cursor := by
      change _ <+: turns.map Turn.rule
      rw [hturns, List.map_append]
      exact List.prefix_append _ _
    obtain ⟨c₁, m, hbefore, hgets, hencoding, hbook⟩ := run_turns (c := c) rfl rfl hrules hout 0
    have hrule : c₁.book.rules[c₁.book.cursor]? = some t.rule := by
      rw [hbook]
      change (turns.map Turn.rule)[0 + before.length]? = _
      rw [hturns]
      simp
    obtain ⟨out', hgets', hawaits⟩ := awaits t hencoding (by rw [hbook]; rfl) hrule (hgets.behaviour ▸ hout)
    rw [Worker.run_append_of_ok hbefore]
    by_cases hrest : rest = []
    · obtain ⟨m', hturn⟩ := Turn.run_to_end hawaits m
      rw [hrest, List.append_nil] at hcut
      rw [← hcut, if_pos hrest, ← hgets.received]
      exact ⟨_, _, hturn, hgets'.received⟩
    · obtain ⟨w', hturn⟩ := Turn.run_before_end hawaits m hcut hrest
      rw [if_neg hrest, List.append_nil]
      exact ⟨_, _, hturn, hgets.received⟩
  · have hrules : turns.map Turn.rule <+: c.book.rules.drop c.book.cursor := List.prefix_rfl
    obtain ⟨c', m, hrun, hgets, -, hbook⟩ := run_turns (c := c) rfl rfl hrules hout 0
    refine ⟨c', _, hrun, hgets.received, ?_⟩
    rw [hbook]
    simp [Playbook.isExhausted, c, Playbook.ofRules]

/-- A character, a line end and the prompt are cut, and the sink takes one byte at a time. -/
theorem plays_script_of_cut_line_end :
    let front : List Batch := [⟨[[0xC3]], .idle⟩, ⟨[[0xA9, 0x0D]], .idle⟩, ⟨[[0x0A], [0x50]], .idle⟩]
    let last : Batch := ⟨[[0x3A]], .idle⟩
    let c : Conversation Sink := ⟨.ofRules .ordered [⟨.exact ['P', ':'], .fixed ['o', 'k']⟩], .utf8,
      .ofBehaviour ⟨fun _ _ => .take 1, fun _ => none, none⟩⟩
    let w : Worker := ⟨.line, .start .utf8 false, []⟩
    (∃ c' w', w.run (consume Sink.outlet) id c front = (c', .ok w') ∧ c'.out.received = []) ∧
      ∃ c' w', w.run (consume Sink.outlet) id c (front ++ [last]) = (c', .ok w') ∧
        c'.out.received = [0x6F, 0x6B] ∧ c'.book.isExhausted = true := by
  intro front last c w
  let turn : Turn .utf8 :=
    { lines := [(['é'], .crLf)], prompt := ['P', ':'], reply := ['o', 'k'], answer := [0x6F, 0x6B]
      batches := [⟨[[0xC3]], .idle⟩, ⟨[[0xA9, 0x0D]], .idle⟩, ⟨[[0x0A], [0x50]], .idle⟩, ⟨[[0x3A]], .idle⟩]
      lines_plain := by simp [isLineEnd], lines_quiet := by decide, prompt_plain := by simp [isLineEnd]
      prompt_ne_nil := List.cons_ne_nil _ _, encode_reply := rfl, idle := by decide, nonempty := by decide
      encode_text := rfl }
  have hunfailing : Sink.Behaviour.Unfailing ⟨fun _ _ => .take 1, fun _ => none, none⟩ :=
    ⟨fun _ _ => ⟨0, rfl⟩, fun _ => rfl⟩
  have hstart : Worker.start .default .line = .ok w := rfl
  obtain ⟨hpart, hall⟩ := @plays_script _ _ hstart rfl [turn] (.ofBehaviour _) hunfailing
  exact ⟨hpart [] turn [] front [last] rfl rfl, hall⟩

end Conversation

end Dialogue
