import Dialogue.Error
import Dialogue.Text.Utf8

/-!
# Whole texts and byte strings

* `Encoding.encode`: the bytes of a text, or the first character that has none;
* `Encoding.decode`: the text of a complete byte string, or how far it is well formed.
-/

namespace Dialogue.Encoding

def latin1Text (bs : Bytes) : Text := bs.map fun b => Char.ofNat b.toNat

def latin1Byte (c : Char) : Except StreamError UInt8 :=
  if c.toNat < 256 then .ok (UInt8.ofNat c.toNat) else .error (.unencodable .latin1 c)

def encode (e : Encoding) (s : Text) : Except StreamError Bytes :=
  match e with
  | .utf8 | .utf8Lossy => .ok (Utf8.encode s)
  | .latin1 => s.mapM latin1Byte

/-- The text of a complete byte string. -/
def decode (e : Encoding) (bs : Bytes) : Except StreamError Text :=
  match e with
  | .utf8 => (Utf8.decode bs).mapError (.malformed .utf8)
  | .utf8Lossy => .ok (Utf8.decodeLossy bs)
  | .latin1 => .ok (latin1Text bs)

end Dialogue.Encoding
