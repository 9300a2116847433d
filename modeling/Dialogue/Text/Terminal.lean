import Dialogue.Text.Utf8

/-!
# Terminal control sequences

What a terminal would print of a text, by the published state machine of ECMA-48 control sequences. Inside a
sequence the machine reads the bytes of the text; outside it takes whole characters. A device control string may
end at a byte within a character; the bytes of that character that are left stand alone.

* `Terminal`: where in a control sequence the reader is;
* `Terminal.byte`, `Terminal.char`, `Terminal.text`: what one byte, one character, one text prints;
* `Terminal.text_append`: a text may be read in parts.
-/

namespace Dialogue

/-- Where in a sequence a reader is: outside of all, after ESC, in a control sequence (`csi`), in a device control
string (`dcs`), in an operating system command (`osc`), or in a start-of-string, privacy or application string
(`sos`). -/
inductive Terminal where
  | ground
  | escape
  | escapeIntermediate
  | csiEntry
  | csiParam
  | csiIntermediate
  | csiIgnore
  | dcsEntry
  | dcsParam
  | dcsIntermediate
  | dcsPassthrough
  | dcsIgnore
  | osc
  | sos
  deriving DecidableEq, Repr, Inhabited

namespace Terminal

/-- What a control character leaves in the text: line feed, carriage return and tab, and nothing else. -/
def execute (b : UInt8) : Text := if b == 0x0A || b == 0x0D || b == 0x09 then [Char.ofNat b.toNat] else []

def isControl (b : UInt8) : Bool := b < 0x18 || b == 0x19 || (0x1C ≤ b && b < 0x20)

/-- What ends or abandons a sequence in every state: CAN and SUB are executed, ESC begins a new one. -/
def anywhere (t : Terminal) (b : UInt8) : Terminal × Text :=
  if b == 0x18 || b == 0x1A then (.ground, execute b)
  else if b == 0x1B then (.escape, [])
  else (t, [])

/-- The bytes of a parameter string or intermediate part: the state after `b`, one of `0x20` to `0x7E`, where
`param`, `intermediate`, `ignore` and `final` are the states for the four kinds of byte. -/
def within (b : UInt8) (intermediate digit other final : Terminal) : Terminal :=
  if b < 0x30 then intermediate else if b < 0x3C then digit else if b < 0x40 then other else final

def afterEscape (b : UInt8) : Terminal × Text :=
  if isControl b then (.escape, execute b)
  else if b == 0x18 || b == 0x1A then (.ground, [])
  else if b == 0x1B || b ≥ 0x7F then (.escape, [])
  else if b < 0x30 then (.escapeIntermediate, [])
  else if b == 0x50 then (.dcsEntry, [])
  else if b == 0x5B then (.csiEntry, [])
  else if b == 0x5D then (.osc, [])
  else if b == 0x58 || b == 0x5E || b == 0x5F then (.sos, [])
  else (.ground, [])

/-- A byte in a control sequence in state `t`, which says where the four kinds of graphic byte lead. -/
def inCsi (t intermediate digit other : Terminal) (b : UInt8) : Terminal × Text :=
  if isControl b then (t, execute b)
  else if 0x20 ≤ b && b < 0x7F then (within b intermediate digit other .ground, [])
  else anywhere t b

/-- A byte before the data of a device control string; controls print nothing there. -/
def inDcs (t intermediate digit other : Terminal) (b : UInt8) : Terminal × Text :=
  if 0x20 ≤ b && b < 0x7F then (within b intermediate digit other .dcsPassthrough, [])
  else anywhere t b

/-- The state after one byte, and what the byte prints. -/
def byte (t : Terminal) (b : UInt8) : Terminal × Text :=
  match t with
  | .ground =>
    if b == 0x1B then (.escape, [])
    else if b < 0x20 then (.ground, execute b)
    else if b < 0x80 then (.ground, [Char.ofNat b.toNat])
    else if b < 0xA0 then (.ground, execute b)
    else (.ground, [Utf8.replacement])
  | .escape => afterEscape b
  | .escapeIntermediate =>
    if isControl b then (t, execute b)
    else if 0x20 ≤ b && b < 0x30 then (t, [])
    else if 0x30 ≤ b && b < 0x7F then (.ground, [])
    else anywhere t b
  | .csiEntry => inCsi t .csiIntermediate .csiParam .csiParam b
  | .csiParam => inCsi t .csiIntermediate .csiParam .csiIgnore b
  | .csiIntermediate => inCsi t .csiIntermediate .csiIgnore .csiIgnore b
  | .csiIgnore => inCsi t .csiIgnore .csiIgnore .csiIgnore b
  | .dcsEntry => inDcs t .dcsIntermediate .dcsParam .dcsParam b
  | .dcsParam => inDcs t .dcsIntermediate .dcsParam .dcsIgnore b
  | .dcsIntermediate => inDcs t .dcsIntermediate .dcsIgnore .dcsIgnore b
  | .dcsPassthrough => if b == 0x9C then (.ground, []) else anywhere t b
  | .dcsIgnore => anywhere t b
  | .osc => if b == 0x07 then (.ground, []) else anywhere t b
  | .sos => anywhere t b

/-- The state after some bytes, and what they print. -/
def bytes (t : Terminal) : Bytes → Terminal × Text
  | [] => (t, [])
  | b :: rest => ((byte t b).1.bytes rest).map id ((byte t b).2 ++ ·)

/-- A character outside every sequence: controls are executed, all else is printed. -/
def print (c : Char) : Text :=
  if c.toNat < 0x20 || (0x80 ≤ c.toNat && c.toNat < 0xA0) then execute (UInt8.ofNat c.toNat) else [c]

/-- The state after one character, and what it prints. -/
def char (t : Terminal) (c : Char) : Terminal × Text :=
  if t = .ground ∧ c ≠ '\x1B' then (.ground, print c) else t.bytes (Utf8.encodeChar c)

/-- The state after a text, and what the text prints. -/
def text (t : Terminal) : Text → Terminal × Text
  | [] => (t, [])
  | c :: rest => ((t.char c).1.text rest).map id ((t.char c).2 ++ ·)

/-- A text may be read in parts: the state is all that the first part leaves to the second. -/
theorem text_append (t : Terminal) (r s : Text) :
    t.text (r ++ s) = ((t.text r).1.text s).map id ((t.text r).2 ++ ·) := by
  induction r generalizing t with
  | nil => rfl
  | cons c r ih => simp [text, ih, Prod.map]

end Terminal

end Dialogue
