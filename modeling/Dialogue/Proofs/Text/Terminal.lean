import Dialogue.Text.Terminal
import Dialogue.Proofs.Text.Utf8

/-!
# What a terminal prints

The reader of control sequences prints no control character, in whatever state it is and whatever it reads, and it
prints nothing of a complete sequence.

* `Terminal.Plain`: the characters that are printed as they are;
* `byte_of_ne_ground`, **`plain_of_mem_text`**: what one byte prints, and what a text prints;
* **`text_of_plain`**: a text of plain characters is printed as it is;
* `ControlSequence`, `Interspersed`: complete sequences, and a text with some of them put in;
* **`text_of_interspersed`**: what was put in is not printed.
-/

namespace Dialogue.Terminal

/-! ## Plain characters -/

/-- No control character, apart from tab, line feed and carriage return. -/
def Plain (c : Char) : Prop :=
  (c.toNat < 0x20 → c = '\t' ∨ c = '\n' ∨ c = '\r') ∧ (c.toNat < 0x80 ∨ 0xA0 ≤ c.toNat)

instance : DecidablePred Plain := fun _ => inferInstanceAs (Decidable ((_ → _) ∧ (_ ∨ _)))

theorem Plain.ne_escape {c : Char} (h : Plain c) : c ≠ '\x1B' := by
  rintro rfl
  exact absurd h (by decide)

theorem plain_of_mem_execute {b : UInt8} {c : Char} (h : c ∈ execute b) : Plain c := by
  unfold execute at h
  split_ifs at h with hb
  · simp only [Bool.or_eq_true, beq_iff_eq] at hb
    obtain rfl := List.mem_singleton.mp h
    rcases hb with (rfl | rfl) | rfl <;> decide
  · simp at h

theorem print_of_plain {c : Char} (h : Plain c) : print c = [c] := by
  unfold print
  split_ifs with hc
  · have hlow : c.toNat < 0x20 := by
      have := h.2
      simp only [Bool.or_eq_true, Bool.and_eq_true, decide_eq_true_eq] at hc
      omega
    rcases h.1 hlow with rfl | rfl | rfl <;> rfl
  · rfl

theorem plain_of_mem_print {c d : Char} (h : d ∈ print c) : Plain d := by
  unfold print at h
  split_ifs at h with hc
  · exact plain_of_mem_execute h
  · obtain rfl := List.mem_singleton.mp h
    simp only [Bool.or_eq_true, Bool.and_eq_true, decide_eq_true_eq] at hc
    constructor
    · intro hlow
      omega
    · omega

/-! ## What is printed -/

theorem byte_of_ne_ground {t : Terminal} (ht : t ≠ .ground) (b : UInt8) :
    (t.byte b).2 = [] ∨ (t.byte b).2 = execute b := by
  cases t with
  | ground => exact absurd rfl ht
  | _ => grind [byte, inCsi, inDcs, anywhere, afterEscape]

/-- A byte outside every sequence that begins no character stands for U+FFFD, or is executed. -/
theorem plain_of_mem_byte_ground {b : UInt8} {c : Char} (h : c ∈ (byte .ground b).2) : Plain c := by
  simp only [byte] at h
  split_ifs at h with hescape hcontrol hascii hhigh
  · simp at h
  · exact plain_of_mem_execute h
  · rw [UInt8.lt_iff_toNat_lt] at hcontrol hascii
    obtain rfl := List.mem_singleton.mp h
    have hsame : (Char.ofNat b.toNat).toNat = b.toNat := Utf8.toNat_ofNat (.inl (Nat.lt_trans hascii (by decide)))
    unfold Plain
    rw [hsame]
    exact ⟨fun hlow => absurd hlow hcontrol, .inl hascii⟩
  · exact plain_of_mem_execute h
  · obtain rfl := List.mem_singleton.mp h
    decide

theorem plain_of_mem_byte {t : Terminal} {b : UInt8} {c : Char} (h : c ∈ (t.byte b).2) : Plain c := by
  by_cases ht : t = .ground
  · subst ht
    exact plain_of_mem_byte_ground h
  · rcases byte_of_ne_ground ht b with hb | hb
    · simp [hb] at h
    · rw [hb] at h
      exact plain_of_mem_execute h

theorem plain_of_mem_bytes {t : Terminal} {bs : Bytes} {c : Char} (h : c ∈ (t.bytes bs).2) : Plain c := by
  induction bs generalizing t with
  | nil => simp [bytes] at h
  | cons b rest ih =>
    rcases List.mem_append.mp h with hb | hrest
    · exact plain_of_mem_byte hb
    · exact ih hrest

theorem plain_of_mem_char {t : Terminal} {c d : Char} (h : d ∈ (t.char c).2) : Plain d := by
  unfold char at h
  split_ifs at h
  · exact plain_of_mem_print h
  · exact plain_of_mem_bytes h

/-- **Whatever is read, in whatever state, only plain characters are printed.** -/
theorem plain_of_mem_text {t : Terminal} {s : Text} {c : Char} (h : c ∈ (t.text s).2) : Plain c := by
  induction s generalizing t with
  | nil => simp [text] at h
  | cons d rest ih =>
    rcases List.mem_append.mp h with hd | hrest
    · exact plain_of_mem_char hd
    · exact ih hrest

theorem char_of_plain {c : Char} (h : Plain c) : ground.char c = (ground, [c]) := by
  rw [char, if_pos ⟨rfl, h.ne_escape⟩, print_of_plain h]

/-- **A text of plain characters is printed as it is.** -/
theorem text_of_plain {s : Text} (h : ∀ c ∈ s, Plain c) : ground.text s = (ground, s) := by
  induction s with
  | nil => rfl
  | cons c rest ih =>
    obtain ⟨hc, hrest⟩ := List.forall_mem_cons.mp h
    rw [text, char_of_plain hc, ih hrest]
    rfl

/-! ## Complete sequences -/

/-- A complete sequence, as a terminal takes it: the introducer, parameters and intermediates in any order, and the
final character; an operating system command, which BEL or ESC and a backslash ends; or intermediates and a final
character, which introduces no longer sequence. -/
inductive ControlSequence : Text → Prop where
  | control {body : Text} {final : Char} : (∀ c ∈ body, 0x20 ≤ c.toNat ∧ c.toNat ≤ 0x3F) →
    0x40 ≤ final.toNat → final.toNat ≤ 0x7E → ControlSequence ('\x1B' :: '[' :: (body ++ [final]))
  | command {body last : Text} : (∀ c ∈ body, c ≠ '\x07' ∧ c ≠ '\x18' ∧ c ≠ '\x1A' ∧ c ≠ '\x1B') →
    last = ['\x07'] ∨ last = ['\x1B', '\\'] → ControlSequence ('\x1B' :: ']' :: (body ++ last))
  | escape {body : Text} {final : Char} : (∀ c ∈ body, 0x20 ≤ c.toNat ∧ c.toNat ≤ 0x2F) →
    0x30 ≤ final.toNat → final.toNat ≤ 0x7E → (body = [] → final ∉ ['P', 'X', '[', ']', '^', '_']) →
    ControlSequence ('\x1B' :: (body ++ [final]))

/-- The second text is the first one with complete sequences put in, anywhere and any number of them. -/
inductive Interspersed : Text → Text → Prop where
  | nil : Interspersed [] []
  | char {s u : Text} (c : Char) : Interspersed s u → Interspersed (c :: s) (c :: u)
  | sequence {q s u : Text} : ControlSequence q → Interspersed s u → Interspersed s (q ++ u)

/-! ## Characters inside a sequence -/

theorem text_singleton (t : Terminal) (c : Char) : t.text [c] = t.char c := by simp [text, Prod.map]

theorem text_append_of_silent {t t' : Terminal} {r : Text} (h : t.text r = (t', [])) (s : Text) :
    t.text (r ++ s) = t'.text s := by
  rw [text_append, h]
  rfl

/-- A text prints nothing when each of its characters prints nothing and keeps the state of one kind. -/
theorem text_keeps {P : Terminal → Prop} {s : Text}
    (hstep : ∀ t, P t → ∀ c ∈ s, P (t.char c).1 ∧ (t.char c).2 = []) {t : Terminal} (ht : P t) :
    ∃ t', P t' ∧ t.text s = (t', []) := by
  induction s generalizing t with
  | nil => exact ⟨t, ht, rfl⟩
  | cons c rest ih =>
    obtain ⟨hkind, hnothing⟩ := hstep t ht c List.mem_cons_self
    obtain ⟨t', ht', hrest⟩ := ih (fun t ht d hd => hstep t ht d (List.mem_cons_of_mem c hd)) hkind
    refine ⟨t', ht', ?_⟩
    rw [text, hrest, hnothing]
    rfl

theorem char_of_ne_ground {t : Terminal} (ht : t ≠ .ground) (c : Char) : t.char c = t.bytes (Utf8.encodeChar c) := by
  rw [char, if_neg fun h => ht h.1]

theorem encodeChar_ascii {c : Char} (hc : c.toNat < 0x80) : Utf8.encodeChar c = [UInt8.ofNat c.toNat] := if_pos hc

theorem char_ascii {t : Terminal} (ht : t ≠ .ground) {c : Char} (hc : c.toNat < 0x80) :
    t.char c = t.byte (UInt8.ofNat c.toNat) := by
  rw [char_of_ne_ground ht, encodeChar_ascii hc, bytes, bytes]
  simp

/-- The bytes of a character are its number alone, or all lie above ASCII. -/
theorem toNat_of_mem_encodeChar {c : Char} {b : UInt8} (h : b ∈ Utf8.encodeChar c) :
    b.toNat = c.toNat ∨ 0x80 ≤ b.toNat := by
  have hmax : c.toNat < 0x110000 := by
    rcases c.valid with hlow | hhigh
    · exact Nat.lt_trans hlow (by decide)
    · exact hhigh.2
  have hhigh : ∀ n, n < 256 → 0x80 ≤ n → 0x80 ≤ (UInt8.ofNat n).toNat := by
    intro n hn hn'
    rwa [Utf8.toNat_byte hn]
  simp only [Utf8.encodeChar] at h
  split_ifs at h <;> simp only [List.mem_cons, List.not_mem_nil, or_false] at h
  · rw [h]
    exact .inl (Utf8.toNat_byte (by omega))
  · rcases h with rfl | rfl <;> exact .inr (hhigh _ (by omega) (by omega))
  · rcases h with rfl | rfl | rfl <;> exact .inr (hhigh _ (by omega) (by omega))
  · rcases h with rfl | rfl | rfl | rfl <;> exact .inr (hhigh _ (by omega) (by omega))

theorem ne_of_mem_encodeChar {c d : Char} {b : UInt8} (h : b ∈ Utf8.encodeChar c) (hne : c ≠ d) (hd : d.toNat < 0x80) :
    b ≠ UInt8.ofNat d.toNat := by
  rintro rfl
  have hbyte := toNat_of_mem_encodeChar h
  rw [Utf8.toNat_byte (by omega)] at hbyte
  apply hne
  rw [← Char.ofNat_toNat c, ← Char.ofNat_toNat d]
  congr 1
  omega

theorem byte_bounds {c : Char} {low high : Nat} (h : low ≤ c.toNat ∧ c.toNat ≤ high) (hhigh : high < 0x80) :
    UInt8.ofNat low ≤ UInt8.ofNat c.toNat ∧ UInt8.ofNat c.toNat ≤ UInt8.ofNat high := by
  rw [UInt8.le_iff_toNat_le, UInt8.le_iff_toNat_le, Utf8.toNat_byte (by omega), Utf8.toNat_byte (by omega),
    Utf8.toNat_byte (by omega)]
  exact h

/-! ## What sequences print -/

/-- The states after the introducer of a control sequence. -/
def InControl (t : Terminal) : Prop := t = .csiEntry ∨ t = .csiParam ∨ t = .csiIntermediate ∨ t = .csiIgnore

theorem InControl.ne_ground {t : Terminal} (ht : InControl t) : t ≠ .ground := by
  rintro rfl
  simp [InControl] at ht

section Characters

variable {t : Terminal} {c : Char}

theorem char_of_inControl (ht : InControl t) (h : 0x20 ≤ c.toNat ∧ c.toNat ≤ 0x3F) :
    InControl (t.char c).1 ∧ (t.char c).2 = [] := by
  obtain ⟨hlow, hhigh⟩ := byte_bounds h (by decide)
  rw [char_ascii ht.ne_ground (by omega)]
  rcases ht with rfl | rfl | rfl | rfl <;> grind [byte, inCsi, isControl, within, InControl]

theorem char_final_of_inControl (ht : InControl t) (h : 0x40 ≤ c.toNat ∧ c.toNat ≤ 0x7E) : t.char c = (ground, []) := by
  obtain ⟨hlow, hhigh⟩ := byte_bounds h (by decide)
  rw [char_ascii ht.ne_ground (by omega)]
  rcases ht with rfl | rfl | rfl | rfl <;> grind [byte, inCsi, isControl, within]

theorem bytes_osc {bs : Bytes} (h : ∀ b ∈ bs, b ≠ 0x07 ∧ b ≠ 0x18 ∧ b ≠ 0x1A ∧ b ≠ 0x1B) :
    bytes .osc bs = (osc, []) := by
  induction bs with
  | nil => rfl
  | cons b rest ih =>
    obtain ⟨hb, hrest⟩ := List.forall_mem_cons.mp h
    have hstay : byte .osc b = (osc, []) := by grind [byte, anywhere]
    rw [bytes, hstay, ih hrest]
    rfl

/-- The data of a command may hold any characters, also such as have several bytes. -/
theorem char_osc (h : c ≠ '\x07' ∧ c ≠ '\x18' ∧ c ≠ '\x1A' ∧ c ≠ '\x1B') : osc.char c = (osc, []) := by
  obtain ⟨hbel, hcan, hsub, hesc⟩ := h
  rw [char_of_ne_ground Terminal.noConfusion]
  apply bytes_osc
  intro b hb
  have hne : ∀ d : Char, d.toNat < 0x80 → c ≠ d → b ≠ UInt8.ofNat d.toNat :=
    fun d hd hcd => ne_of_mem_encodeChar hb hcd hd
  exact ⟨hne _ (by decide) hbel, hne _ (by decide) hcan, hne _ (by decide) hsub, hne _ (by decide) hesc⟩

theorem char_of_intermediate (ht : t = .escape ∨ t = .escapeIntermediate) (h : 0x20 ≤ c.toNat ∧ c.toNat ≤ 0x2F) :
    t.char c = (escapeIntermediate, []) := by
  obtain ⟨hlow, hhigh⟩ := byte_bounds h (by decide)
  rcases ht with rfl | rfl
  · rw [char_ascii Terminal.noConfusion (by omega)]
    grind [byte, afterEscape, isControl]
  · rw [char_ascii Terminal.noConfusion (by omega)]
    grind [byte, isControl]

theorem char_final_escapeIntermediate (h : 0x30 ≤ c.toNat ∧ c.toNat ≤ 0x7E) :
    escapeIntermediate.char c = (ground, []) := by
  obtain ⟨hlow, hhigh⟩ := byte_bounds h (by decide)
  rw [char_ascii Terminal.noConfusion (by omega)]
  grind [byte, isControl]

theorem char_final_escape (h : 0x30 ≤ c.toNat ∧ c.toNat ≤ 0x7E) (hlone : c ∉ ['P', 'X', '[', ']', '^', '_']) :
    escape.char c = (ground, []) := by
  obtain ⟨hlow, hhigh⟩ := byte_bounds h (by decide)
  have hascii : c.toNat < 0x80 := by omega
  have hbyte : ∀ d : Char, d ∈ ['P', 'X', '[', ']', '^', '_'] → UInt8.ofNat c.toNat ≠ UInt8.ofNat d.toNat := by
    have htable : ∀ d ∈ ['P', 'X', '[', ']', '^', '_'], d.toNat < 0x80 := by simp
    intro d hd
    have hmem : UInt8.ofNat c.toNat ∈ Utf8.encodeChar c := by simp [encodeChar_ascii hascii]
    exact ne_of_mem_encodeChar hmem (fun heq => hlone (heq ▸ hd)) (htable d hd)
  rw [char_ascii Terminal.noConfusion hascii]
  simp only [List.forall_mem_cons] at hbyte
  grind [byte, afterEscape, isControl]

end Characters

/-- **A complete sequence prints nothing** and leaves nothing behind. -/
theorem ControlSequence.text_eq {q : Text} (hq : ControlSequence q) : ground.text q = (ground, []) := by
  cases hq with
  | @control body final hbody hlow hhigh =>
    have hbegin : ground.text ['\x1B', '['] = (csiEntry, []) := by decide
    obtain ⟨t, ht, htext⟩ := text_keeps (fun t ht c hc => char_of_inControl ht (hbody c hc)) (.inl rfl : InControl csiEntry)
    change ground.text (['\x1B', '['] ++ (body ++ [final])) = _
    rw [text_append_of_silent hbegin, text_append_of_silent htext, text_singleton]
    exact char_final_of_inControl ht ⟨hlow, hhigh⟩
  | @command body last hbody hend =>
    have hbegin : ground.text ['\x1B', ']'] = (osc, []) := by decide
    obtain ⟨t, rfl, htext⟩ := text_keeps (P := (· = osc)) (fun t ht c hc => by
      rw [ht, char_osc (hbody c hc)]
      exact ⟨rfl, rfl⟩) rfl
    change ground.text (['\x1B', ']'] ++ (body ++ last)) = _
    rw [text_append_of_silent hbegin, text_append_of_silent htext]
    rcases hend with rfl | rfl <;> decide
  | @escape body final hbody hlow hhigh hlone =>
    have hbegin : ground.text ['\x1B'] = (Terminal.escape, []) := by decide
    change ground.text (['\x1B'] ++ (body ++ [final])) = _
    rw [text_append_of_silent hbegin]
    cases body with
    | nil => exact (text_singleton _ _).trans (char_final_escape ⟨hlow, hhigh⟩ (hlone rfl))
    | cons c rest =>
      obtain ⟨hc, hrest⟩ := List.forall_mem_cons.mp hbody
      have hfirst : Terminal.escape.text [c] = (escapeIntermediate, []) :=
        (text_singleton _ _).trans (char_of_intermediate (.inl rfl) hc)
      obtain ⟨t, rfl, htext⟩ := text_keeps (P := (· = escapeIntermediate)) (fun t ht d hd => by
        rw [char_of_intermediate (.inr ht) (hrest d hd)]
        exact ⟨rfl, rfl⟩) rfl
      change Terminal.escape.text ([c] ++ (rest ++ [final])) = _
      rw [text_append_of_silent hfirst, text_append_of_silent htext, text_singleton]
      exact char_final_escapeIntermediate ⟨hlow, hhigh⟩

/-- **What was put in is not printed.** -/
theorem text_of_interspersed {s u : Text} (hs : ∀ c ∈ s, Plain c) (hu : Interspersed s u) :
    ground.text u = (ground, s) := by
  induction hu with
  | nil => rfl
  | @char s u c hu ih =>
    obtain ⟨hc, hrest⟩ := List.forall_mem_cons.mp hs
    rw [text, char_of_plain hc, ih hrest]
    rfl
  | @sequence q s u hq hu ih => rw [text_append_of_silent hq.text_eq, ih hs]

end Dialogue.Terminal
