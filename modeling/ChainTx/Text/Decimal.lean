/-!
Contract: decimal text of natural numbers.

Owns:
- the canonical decimal text of a number, without leading zeros;
- the value of a run of ASCII digits, leading zeros allowed;
- the strict and the signed-plus readers, and the reader into 64-bit words.

Does not own: decimal fractions, or digits outside ASCII.
-/

set_option autoImplicit false

namespace ChainTx.Decimal

/-- The ASCII digit of a number below ten. -/
def digitChar (digit : Nat) : Char :=
  Char.ofNat (48 + digit)

def digitValue (digit : Char) : Nat :=
  digit.toNat - 48

/-- The decimal digits of a number, most significant first. -/
def digits (number : Nat) : List Char :=
  if number < 10 then
    [digitChar number]
  else
    digits (number / 10) ++ [digitChar (number % 10)]
termination_by number

/-- The canonical decimal text of a number. -/
def text (number : Nat) : String :=
  String.ofList (digits number)

/-- The positional value of a run of ASCII digits. -/
def value (run : List Char) : Nat :=
  run.foldl (fun prior digit => 10 * prior + digitValue digit) 0

/-- Reads a nonempty run of ASCII digits and nothing else. -/
def read? (run : List Char) : Option Nat :=
  if run ≠ [] ∧ run.all Char.isDigit then some (value run) else none

/-- Reads a nonempty run of ASCII digits, which one plus sign may precede. -/
def readPlus? : List Char → Option Nat
  | '+' :: run => read? run
  | run => read? run

/-- Reads a number that fits in 64 bits, with an optional plus sign. -/
def uint64? (run : List Char) : Option UInt64 :=
  match readPlus? run with
  | some number => if number < 2 ^ 64 then some (UInt64.ofNat number) else none
  | none => none

/-- The number with its digits padded by leading zeros to at least `width`. -/
def padded (width number : Nat) : List Char :=
  let shown := digits number
  List.replicate (width - shown.length) '0' ++ shown

end ChainTx.Decimal
