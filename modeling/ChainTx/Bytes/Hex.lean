import ChainTx.Bytes
import ChainTx.Text.Decimal
import ChainTx.Text.Quoted

/-!
Contract: hexadecimal text of byte strings.

Owns: the lower-case spelling of a byte string, the reader that takes both cases, and the reader's
faults. The reader looks at the bytes of the text, so that a fault names a byte and its position.
-/

set_option autoImplicit false

namespace ChainTx.Hex

/-- The two lower-case digits of a byte. -/
def encodeByte (byte : UInt8) : List Char :=
  [Quoted.hexDigit (byte.toNat / 16), Quoted.hexDigit (byte.toNat % 16)]

/-- The lower-case digits of a byte string. -/
def encodeChars (bytes : Bytes) : List Char :=
  bytes.flatMap encodeByte

/-- The lower-case hexadecimal text of a byte string. -/
def encode (bytes : Bytes) : String :=
  String.ofList (encodeChars bytes)

/-- The value of a hexadecimal digit, of either case. -/
def digitValue? (char : Char) : Option Nat :=
  let point := char.toNat
  if 48 ≤ point ∧ point ≤ 57 then some (point - 48)
  else if 97 ≤ point ∧ point ≤ 102 then some (point - 87)
  else if 65 ≤ point ∧ point ≤ 70 then some (point - 55)
  else none

/-- True of the digits `0` to `9`, `a` to `f` and `A` to `F`. -/
def isDigit (char : Char) : Bool :=
  (digitValue? char).isSome

/-- What can be wrong with a hexadecimal text. -/
inductive Fault where
  /-- A byte is left without its partner. -/
  | oddLength
  /-- The byte at this position, read as a Latin-1 character, is no digit. -/
  | invalidCharacter (char : Char) (position : Nat)
deriving DecidableEq, Repr

def Fault.message : Fault → String
  | .oddLength => "Odd number of digits"
  | .invalidCharacter char position =>
      "Invalid character " ++ Quoted.char char ++ " at position " ++ Decimal.text position

/-- The value of the digit at a position, or the fault that names it. -/
def digitAt (char : Char) (position : Nat) : Except Fault Nat :=
  match digitValue? char with
  | some digit => .ok digit
  | none => .error (.invalidCharacter char position)

/-- Reads digits two by two from a position on; a lone last digit is left out. -/
def decodeFrom : List Char → Nat → Except Fault Bytes
  | high :: low :: rest, position => do
      let upper ← digitAt high position
      let lower ← digitAt low (position + 1)
      let others ← decodeFrom rest (position + 2)
      .ok (UInt8.ofNat (16 * upper + lower) :: others)
  | _, _ => .ok []

/-- The bytes of a text as the characters of Latin-1. -/
def latin1 (text : String) : List Char :=
  (Bytes.ofText text).map fun byte => Char.ofNat byte.toNat

/-- Reads a hexadecimal text. An odd length is reported before any wrong character. -/
def decode (text : String) : Except Fault Bytes :=
  let chars := latin1 text
  if chars.length % 2 = 0 then decodeFrom chars 0 else .error .oddLength

end ChainTx.Hex
