import Dialogue.Scenario.Buffer
import Dialogue.Scenario.Lookup
import Dialogue.Scenario.Piped
import Dialogue.Scenario.Taking
import Dialogue.Scenario.Watching
import Dialogue.Proofs.Ring.History
import Dialogue.Proofs.Channel
import Dialogue.Proofs.Delimiter.Endings
import Dialogue.Proofs.Encoding.Chunks
import Dialogue.Proofs.Encoding.Texts
import Dialogue.Proofs.Encoding.Stripping
import Dialogue.Proofs.Encoding.RoundTrip
import Dialogue.Proofs.Playbook.Order
import Dialogue.Proofs.Playbook.Unordered
import Dialogue.Proofs.Process.Streams
import Dialogue.Proofs.Process.Verdict
import Dialogue.Proofs.Sink
import Dialogue.Proofs.Watch.Answering
import Dialogue.Proofs.Watch.LineTokens
import Dialogue.Proofs.Watch.Offers
import Dialogue.Proofs.Watch.Reads
import Dialogue.Proofs.Watch.Reoffers
import Dialogue.Proofs.Watch.Takes
import Dialogue.Proofs.Conversation.Replies
import Dialogue.Proofs.Conversation.Script
import Dialogue.Proofs.Trigger.Endings
import Dialogue.Proofs.Watch.Handle
import Dialogue.Proofs.Ring.Length
import Dialogue.Proofs.Channel.Waking
import Dialogue.Proofs.Ring.Safety
import Dialogue.Proofs.Regex.Compile
import Dialogue.Proofs.Regex.Search
import Dialogue.Proofs.Regex.Escapes
import Dialogue.Proofs.Regex.Brackets
import Dialogue.Proofs.Regex.Groups
import Dialogue.Proofs.Regex.Patterns
import Dialogue.Proofs.Prompt
