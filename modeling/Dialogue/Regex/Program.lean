import Dialogue.Regex.Syntax

/-!
# Automata for regular expressions

An expression is compiled to instructions that name the instructions after them. Code is laid down from the end of a
match to its beginning, so that every instruction is added when the place it leads to is known; only the fork that
closes a loop is filled in later.

* `Inst`, `Program`;
* `Regex.compileTo`: the code of an expression in front of given code;
* `Program.ofRegex`: the code of an expression alone.
-/

namespace Dialogue.Regex

/-- An instruction: it passes one character of a set, goes on where an assertion holds, goes on in two ways and prefers
the first, or ends a match. -/
inductive Inst where
  | set (s : CharSet) (next : Nat)
  | look (l : Look) (next : Nat)
  | fork (first second : Nat)
  | accept
  deriving Inhabited

/-- Instructions, and the one that a match begins with. -/
structure Program where
  code : Array Inst
  start : Nat
  deriving Inhabited

/-- Code, and the instruction it is entered by. -/
abbrev Entry := Nat × Array Inst

/-- Adds an instruction, which becomes the entry. -/
def Entry.add (code : Array Inst) (i : Inst) : Entry := (code.size, code.push i)

/-- A fork that prefers `body` to `exit` when greedy, and `exit` to `body` otherwise. -/
def Inst.choice (greedy : Bool) (body exit : Nat) : Inst := if greedy then .fork body exit else .fork exit body

/-- `n` copies of a part, one after another, before the entry `e`. -/
def copies (part : Nat → Array Inst → Entry) : Nat → Entry → Entry
  | 0, e => e
  | n + 1, e => copies part n (part e.1 e.2)

/-- At most `n` copies of a part, each of which may be the last, before the instruction `exit`. -/
def options (part : Nat → Array Inst → Entry) (greedy : Bool) (exit : Nat) : Nat → Entry → Entry
  | 0, e => e
  | n + 1, e =>
    let e := options part greedy exit n e
    let body := part e.1 e.2
    Entry.add body.2 (.choice greedy body.1 exit)

/-- One or more copies of a part: the entry of the part, and the fork after it that closes the loop. -/
def loop (part : Nat → Array Inst → Entry) (greedy : Bool) (exit : Nat) (code : Array Inst) : Entry × Nat :=
  let close := code.size
  let body := part close (code.push .accept)
  ((body.1, body.2.set! close (.choice greedy body.1 exit)), close)

/-- The code of an expression in front of the instruction `next` of `code`. What may be empty is never the body of a
loop that is entered at its fork: such a repetition is an optional loop that is entered at its body. -/
def compileTo : Regex → Nat → Array Inst → Entry
  | .empty, next, code => (next, code)
  | .set s, next, code => Entry.add code (.set s next)
  | .look l, next, code => Entry.add code (.look l next)
  | .seq r s, next, code =>
    let e := compileTo s next code
    compileTo r e.1 e.2
  | .alt r s, next, code =>
    let e := compileTo s next code
    let d := compileTo r next e.2
    Entry.add d.2 (.fork d.1 e.1)
  | .repetition r 0 none greedy, next, code =>
    let (e, close) := loop (compileTo r) greedy next code
    if r.nullable then Entry.add e.2 (.choice greedy e.1 next) else (close, e.2)
  | .repetition r (n + 1) none greedy, next, code =>
    copies (compileTo r) n (loop (compileTo r) greedy next code).1
  | .repetition r min (some max) greedy, next, code =>
    copies (compileTo r) min (options (compileTo r) greedy next (max - min) (next, code))

def Program.ofRegex (r : Regex) : Program :=
  let e := compileTo r 0 #[.accept]
  ⟨e.2, e.1⟩

end Dialogue.Regex
