import Dialogue.Regex.Syntax

/-!
# What patterns are read with

Two things about a pattern are decided by tables and limits that are not written in it: which characters have a
property, and how large an automaton may be.

* `Library`: the sets of property names, and the limit of size.
-/

namespace Dialogue.Regex

/-- The set of a property that stands alone, such as `Greek`, and of one with a value, such as `sc` and `Greek`; and
whether the automaton of a pattern, from which an expression was read, is small enough to be made. -/
class Library where
  named? : Text → Option CharSet
  valued? : Text → Text → Option CharSet
  fits : Text → Regex → Bool

end Dialogue.Regex
