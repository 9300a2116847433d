import Dialogue.Process.Endpoints
import Dialogue.Scenario.Answer

/-!
# Making watchers of a command

A scenario about a command whose streams are taken by conversations and triggers, or one by one.

* `TakeStep`, `Taken`, `takeAll`.
-/

namespace Dialogue.Scenario

/-- A step with a command: a stream is taken, or a watcher is made and given up at once. -/
inductive TakeStep where
  | conversation
  | trigger
  | take (stream : Stream)

/-- What a step gives, what the command still has, and what was logged. -/
structure Taken where
  result : Result
  left : Command
  logs : List Text

def made : Except Error Unit → Result
  | .ok _ => .made false
  | .error e => .error e

def take (c : Command) : TakeStep → Taken
  | .conversation =>
    let (r, logs, c) := Command.endpoints.forConversation c
    ⟨made r, c, logs⟩
  | .trigger =>
    let (r, c) := Command.endpoints.forTrigger c
    ⟨made r, c, []⟩
  | .take .stdout => ⟨.bool (Command.endpoints.takeStdout c).1, (Command.endpoints.takeStdout c).2, []⟩
  | .take .stderr => ⟨.bool (Command.endpoints.takeStderr c).1, (Command.endpoints.takeStderr c).2, []⟩
  | .take .stdin => ⟨.bool (Command.endpoints.takeStdin c).1, (Command.endpoints.takeStdin c).2, []⟩

def takeAll (c : Command) : List TakeStep → List Taken
  | [] => []
  | a :: more => take c a :: takeAll (take c a).left more

end Dialogue.Scenario
