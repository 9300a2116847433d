import Dialogue.Text.Basic

/-!
# Encodings

* `Encoding`: how a command's bytes stand for text;
* `Encoding.name`: the name used in messages.
-/

namespace Dialogue

/-- How bytes stand for text: UTF-8, where bytes that are no text are an error or are read as U+FFFD, or ISO-8859-1,
where each byte is the character of that number. -/
inductive Encoding where
  | utf8
  | utf8Lossy
  | latin1
  deriving DecidableEq, Repr, Inhabited

def Encoding.name : Encoding → Text
  | .utf8 | .utf8Lossy => Text.lit "UTF-8"
  | .latin1 => Text.lit "ISO-8859-1"

end Dialogue
