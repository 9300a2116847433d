import Dialogue.Event
import Dialogue.Playbook
import Dialogue.Watch.Pass

/-!
# Triggers

A trigger runs an action for every token that a rule of its playbook accepts. Where the action runs is up to the
executor: on the spot, and then its failure stops the trigger, or later, and then its failure is only logged.

* `Action`, `Action.result`;
* `Executor`, `Trigger`, `Trigger.execute`, `Trigger.consume`;
* `Trigger.runDeferred`, `Trigger.runKept`: the actions that were put off.
-/

namespace Dialogue

/-- How an action ends. -/
inductive ActionEnd where
  | done
  | failed (reason : Text)
  | panicked (text : Text)
  deriving DecidableEq, Repr

/-- Something to be done when a prompt appears. -/
structure Action where
  name : Text
  ending : ActionEnd
  deriving DecidableEq, Repr

/-- What the caller of an action is told. -/
def Action.result (a : Action) : Except Stop Unit :=
  match a.ending with
  | .done => .ok ()
  | .failed reason => .error (.error (.callback (.action reason)))
  | .panicked text => .error (.panic text)

def Action.shown (_ : Action) : Text := Text.lit "Action(..)"

/-- Where actions run: on the spot; each as a task of its own, or on a thread for blocking work; nowhere until they are
asked for; or nowhere at all, each being refused for the given reason. -/
inductive Executor where
  | inline
  | spawned
  | blocking
  | keeping
  | refusing (reason : Text)
  deriving DecidableEq, Repr

/-- Whether actions run by themselves, after the tokens of their batch. -/
def Executor.defers : Executor → Bool
  | .spawned | .blocking => true
  | .inline | .keeping | .refusing _ => false

/-- A playbook of actions with their executor. It has the actions that are going to run by themselves, those that are
kept until they are asked for, what happened and what was logged, the last ones first. -/
structure Trigger where
  book : Playbook Action
  executor : Executor
  deferred : List Action
  kept : List Action
  events : List Event
  logs : List Text

namespace Trigger

def ofBook (book : Playbook Action) (executor : Executor) : Trigger := ⟨book, executor, [], [], [], []⟩

def run (t : Trigger) (a : Action) : Trigger := { t with events := .run a.name :: t.events }

/-- Hands an action to the executor. -/
def execute (t : Trigger) (a : Action) : Trigger × Verdict :=
  match t.executor with
  | .inline =>
    match a.result with
    | .ok _ => (t.run a, .accepted)
    | .error why => (t.run a, .stopped why)
  | .spawned | .blocking => ({ t with deferred := a :: t.deferred }, .accepted)
  | .keeping => ({ t with kept := a :: t.kept, events := .queued :: t.events }, .accepted)
  | .refusing reason => (t, .stopped (.error (.callback (.action reason))))

/-- Fires on a token. -/
def consume : Consumer Trigger := fun t token =>
  match t.book.lookup token with
  | (.error why, book) => ({ t with book }, .stopped why)
  | (.ok none, book) => ({ t with book }, .declined)
  | (.ok (some a), book) => { t with book }.execute a

def failureLog (t : Trigger) (e : Error) : Text :=
  let kind := match t.executor with
    | .blocking => Text.lit "blocking"
    | _ => Text.lit "spawned"
  Text.lit "trigger: " ++ kind ++ Text.lit " action failed: " ++ e.message

/-- Runs an action that was put off; only a failure leaves a line in the log. -/
def runLater (t : Trigger) (a : Action) : Trigger :=
  match a.result with
  | .error (.error e) => { t.run a with logs := t.failureLog e :: t.logs }
  | .ok _ | .error (.panic _) => t.run a

/-- Runs the actions that were put off, in the order in which they were. -/
def runDeferred (t : Trigger) : Trigger := t.deferred.reverse.foldl runLater { t with deferred := [] }

/-- Runs the actions that were kept, in the order in which they were, and tells how each ended. -/
def runKept (t : Trigger) : List (Except Stop Unit) × Trigger :=
  (t.kept.reverse.map Action.result, t.kept.reverse.foldl run { t with kept := [] })

end Trigger

end Dialogue
