import ChainTx.Text.Decimal

/-!
Contract: lengths of time and how messages show them.

Owns: a length of time counted in nanoseconds, its text in the largest unit that leaves a nonzero
whole part (seconds at most), and the rounding of timers up to whole milliseconds.
-/

set_option autoImplicit false

namespace ChainTx

structure Duration where
  nanoseconds : Nat
deriving DecidableEq, Repr

namespace Duration

def ofSeconds (seconds : Nat) : Duration :=
  ⟨seconds * 1000000000⟩

/-- The whole milliseconds after which a timer of this length has run out. -/
def timerMilliseconds (duration : Duration) : Nat :=
  (duration.nanoseconds + 999999) / 1000000

/-- The fraction `part / 10 ^ width` behind a point, without trailing zeros; empty for zero. -/
def fraction (width part : Nat) : List Char :=
  let shown := ((Decimal.padded width part).reverse.dropWhile (· == '0')).reverse
  if shown.isEmpty then [] else '.' :: shown

/-- A count of nanoseconds in a unit of `10 ^ width` of them. -/
def inUnit (width count : Nat) (unit : String) : String :=
  String.ofList (Decimal.digits (count / 10 ^ width) ++ fraction width (count % 10 ^ width))
    ++ unit

/-- The text of a length of time, such as `1.5ms`. -/
def text (duration : Duration) : String :=
  let count := duration.nanoseconds
  if 1000000000 ≤ count then inUnit 9 count "s"
  else if 1000000 ≤ count then inUnit 6 count "ms"
  else if 1000 ≤ count then inUnit 3 count "µs"
  else inUnit 0 count "ns"

end Duration

end ChainTx
