import Dialogue.Text.Basic

/-!
# Durations

A span of time is shown in the largest of the units s, ms, µs and ns in which it is at least one, with the exact
fraction and no zeros at its end.

* `Duration.text`: the span of a number of nanoseconds.
-/

namespace Dialogue.Duration

/-- The `width` digits of `n`, with zeros in front and none at the end. -/
def fraction (width n : Nat) : Text :=
  let digits := Text.decimal n
  ((List.replicate (width - digits.length) '0' ++ digits).reverse.dropWhile (· == '0')).reverse

/-- `n` parts of a unit made of `10 ^ width` parts. -/
def inUnit (width n : Nat) (unit : Text) : Text :=
  let whole := Text.decimal (n / Nat.pow 10 width)
  let part := n % Nat.pow 10 width
  if part == 0 then whole ++ unit else whole ++ '.' :: fraction width part ++ unit

/-- A span of `nanos` nanoseconds. -/
def text (nanos : Nat) : Text :=
  if nanos ≥ 1000000000 then inUnit 9 nanos ['s']
  else if nanos ≥ 1000000 then inUnit 6 nanos ['m', 's']
  else if nanos ≥ 1000 then inUnit 3 nanos ['µ', 's']
  else inUnit 0 nanos ['n', 's']

end Dialogue.Duration
