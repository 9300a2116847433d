import Dialogue.Channel
import Dialogue.Encoding.Whole
import Dialogue.Playbook
import Dialogue.Sink
import Dialogue.Watch.Pass

/-!
# Conversations

A conversation answers prompts: it looks a token up in its playbook, writes the reply to the command's input and
flushes it. A token without a reply is declined, so that a prompt that arrives in pieces comes back whole.

* `Outlet`, `Sink.outlet`, `Channel.outlet`: ways to the command's input;
* `Conversation`, `Conversation.consume`.
-/

namespace Dialogue

/-- A way to write to the command's input and to flush what was written. -/
structure Outlet (ω : Type) where
  send : ω → Bytes → Except Text Unit × ω
  flush : ω → Except Text Unit × ω

/-- A sink as the command's input. -/
def Sink.outlet : Outlet Sink := ⟨Sink.writeAll (Text.lit "write zero"), Sink.flush⟩

/-- A channel on the way to the command's input; flushing is up to whoever reads it. -/
def Channel.outlet [Memory] : Outlet Channel where
  send c bs :=
    if bs.isEmpty then (.ok (), c)
    else match c.write bs with
      | (.ok _, c) => (.ok (), c)
      | (.error e, c) => (.error e.message, c)
  flush c := (.ok (), c)

/-- A playbook of replies, with the encoding that turns them into bytes and the way they are sent. -/
structure Conversation (ω : Type) where
  book : Playbook Text
  encoding : Encoding
  out : ω

namespace Conversation

variable {ω : Type}

/-- Sends the bytes of a reply. -/
def send (o : Outlet ω) (c : Conversation ω) (bs : Bytes) : Conversation ω × Verdict :=
  match o.send c.out bs with
  | (.error reason, out) => ({ c with out }, .stopped (.error (.stream (.write reason))))
  | (.ok _, out) =>
    match o.flush out with
    | (.error reason, out) => ({ c with out }, .stopped (.error (.stream (.write reason))))
    | (.ok _, out) => ({ c with out }, .accepted)

/-- Answers a token. -/
def consume (o : Outlet ω) : Consumer (Conversation ω) := fun c token =>
  match c.book.lookup token with
  | (.error why, book) => ({ c with book }, .stopped why)
  | (.ok none, book) => ({ c with book }, .declined)
  | (.ok (some reply), book) =>
    match c.encoding.encode reply with
    | .error e => ({ c with book }, .stopped (.error (.stream e)))
    | .ok bs => send o { c with book } bs

end Conversation

end Dialogue
