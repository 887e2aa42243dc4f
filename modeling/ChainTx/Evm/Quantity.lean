import ChainTx.Json
import ChainTx.Text.Decimal

/-!
Contract: numbers in the answers of EVM nodes.

Owns: the reader of numbers of a given width. A text is read in base 16, 8 or 2 when it starts with
a mark for it, and in base 10 otherwise; underscores are passed over and the empty text is zero. A
JSON number counts as itself.
-/

set_option autoImplicit false

namespace ChainTx.Evm.Quantity

/-- The value of a letter or digit in bases up to 36. -/
def digitValue? (char : Char) : Option Nat :=
  if char.isDigit then some (char.toNat - 48)
  else if char.isLower then some (char.toNat - 87)
  else if char.isUpper then some (char.toNat - 55)
  else none

/-- Takes in one more digit, if the number then still has its width. -/
def step (width base : Nat) (prior : Nat) (char : Char) : Option Nat :=
  if char = '_' then some prior
  else do
    let digit ← digitValue? char
    let number := base * prior + digit
    if base ≤ digit ∨ 2 ^ width ≤ number then none else some number

/-- The base that a text names, and the digits behind the mark. -/
def splitBase : List Char → Nat × List Char
  | '0' :: 'x' :: rest => (16, rest)
  | '0' :: 'X' :: rest => (16, rest)
  | '0' :: 'o' :: rest => (8, rest)
  | '0' :: 'O' :: rest => (8, rest)
  | '0' :: 'b' :: rest => (2, rest)
  | '0' :: 'B' :: rest => (2, rest)
  | chars => (10, chars)

/-- Reads a text as a number of a width in bits. -/
def ofText? (width : Nat) (text : String) : Option Nat :=
  let (base, digits) := splitBase text.toList
  digits.foldlM (step width base) 0

/-- Reads a text or a number as a number of a width in bits. -/
def ofJson? (width : Nat) : Json → Option Nat
  | .string text => ofText? width text
  | .integer value => if 0 ≤ value ∧ value < 2 ^ width then some value.toNat else none
  | _ => none

end ChainTx.Evm.Quantity
