import Dialogue.Regex.Program

/-!
# Searching

All ways through a program are followed at once, character by character, as a list of threads in order of
preference. A thread that reaches the end of a match cuts off those it is preferred to, and as long as no match was
found a thread starts at every place: the match that is found begins leftmost and is the preferred one there.

* `Thread`, `Program.follow`, `Program.search`;
* `Program.find?`: the first match in a text;
* `Program.spans`: all matches, none of them overlapping;
* `Program.isMatch`: whether there is any.
-/

namespace Dialogue.Regex

/-- A way through a program: the instruction it has come to, and the place where its match would begin. -/
structure Thread where
  inst : Nat
  origin : Nat
  deriving DecidableEq, Repr

namespace Program

/-- Follows threads, in order of preference, to the next character or to the end of a match. The bits of `seen` are
the instructions that a preferred thread has been at; `live` holds the threads that are through, the last one
first. -/
def follow (p : Program) (before after : Option Char) : Nat → List Thread → Nat → List Thread → List Thread
  | 0, _, _, live => live.reverse
  | _ + 1, [], _, live => live.reverse
  | fuel + 1, t :: rest, seen, live =>
    if seen.testBit t.inst then follow p before after fuel rest seen live
    else
      let seen := seen ||| 1 <<< t.inst
      match p.code[t.inst]? with
      | none => follow p before after fuel rest seen live
      | some (.fork a b) => follow p before after fuel (⟨a, t.origin⟩ :: ⟨b, t.origin⟩ :: rest) seen live
      | some (.look l next) =>
        if l.holds before after then follow p before after fuel (⟨next, t.origin⟩ :: rest) seen live
        else follow p before after fuel rest seen live
      | some (.set _ _) => follow p before after fuel rest seen (t :: live)
      | some .accept => (t :: live).reverse

/-- Follows threads with fuel for a visit to every instruction. -/
def followAll (p : Program) (before after : Option Char) (threads : List Thread) : List Thread :=
  p.follow before after (threads.length + 2 * p.code.size + 1) threads 0 []

/-- Where a thread goes when it passes a character. -/
def pass (p : Program) (c : Char) (t : Thread) : Option Thread :=
  match p.code[t.inst]? with
  | some (.set s next) => if s.contains c then some ⟨next, t.origin⟩ else none
  | _ => none

def accepts (p : Program) (t : Thread) : Bool :=
  match p.code[t.inst]? with
  | some .accept => true
  | _ => false

/-- Where a match begins and ends, counted in characters. -/
abbrev Span := Nat × Nat

/-- The best match once the threads are followed at place `pos`. -/
def improve (p : Program) (pos : Nat) (live : List Thread) (best : Option Span) : Option Span :=
  match live.getLast? with
  | some t => if p.accepts t then some (t.origin, pos) else best
  | none => best

/-- Searches on from place `pos`, between the character `before` and the text `cs`, with the threads that came so
far and the best match so far. -/
def search (p : Program) (before : Option Char) (pos : Nat) (threads : List Thread) (best : Option Span) :
    Text → Option Span
  | [] =>
    let threads := if best.isNone then threads ++ [⟨p.start, pos⟩] else threads
    p.improve pos (p.followAll before none threads) best
  | c :: rest =>
    let threads := if best.isNone then threads ++ [⟨p.start, pos⟩] else threads
    let live := p.followAll before (some c) threads
    let best := p.improve pos live best
    let threads := live.filterMap (p.pass c)
    if threads.isEmpty && best.isSome then best else search p (some c) (pos + 1) threads best rest

/-- The first match at or after the beginning of `cs`, which follows the character `before`; places are counted from
the beginning of `cs`. -/
def find? (p : Program) (before : Option Char) (cs : Text) : Option Span := p.search before 0 [] none cs

def isMatch (p : Program) (cs : Text) : Bool := (p.find? none cs).isSome

/-- The next match after one that ended at the beginning of `cs`. An empty match right there does not count: the
search then goes on one character later. -/
def findNext? (p : Program) (before : Option Char) (afterMatch : Bool) (cs : Text) : Option Span :=
  match p.find? before cs with
  | some (0, 0) =>
    if afterMatch then
      match cs with
      | [] => none
      | c :: rest => (p.find? (some c) rest).map fun (i, j) => (i + 1, j + 1)
    else some (0, 0)
  | found => found

/-- The matches from place `pos` on, after those in `acc`, the last one first. -/
def spansFrom (p : Program) :
    Nat → Option Char → Nat → Bool → List Span → Text → List Span
  | 0, _, _, _, acc, _ => acc.reverse
  | fuel + 1, before, pos, afterMatch, acc, cs =>
    match p.findNext? before afterMatch cs with
    | none => acc.reverse
    | some (i, j) =>
      let before := if j = 0 then before else cs[j - 1]?
      spansFrom p fuel before (pos + j) true ((pos + i, pos + j) :: acc) (cs.drop j)

def spans (p : Program) (cs : Text) : List Span := p.spansFrom (cs.length + 2) none 0 false [] cs

end Program

end Dialogue.Regex
