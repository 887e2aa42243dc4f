import ChainTx.Bytes.Hex
import ChainTx.Text.Decimal
import ChainTx.Text.Quoted
import ChainTx.Text.Split

/-!
Contract: numeric hosts of URLs.

Owns:
- version 4 addresses: which names count as numbers, the decimal, octal and hexadecimal parts, the
  last part filling the bytes that are left, and the dotted text;
- version 6 addresses: eight pieces, one run of zero pieces written as two colons, an optional dotted
  quad for the last two pieces, and the text with the first longest run compressed.
-/

set_option autoImplicit false

namespace ChainTx.Url

namespace Ipv4

/-- What one part of a dotted name says. -/
inductive Part where
  | notANumber
  /-- A number of 32 bits or fewer. -/
  | number (value : Nat)
  /-- A number that needs more than 32 bits. -/
  | tooLarge
deriving DecidableEq, Repr

/-- The positional value of digits of either case. -/
def digitsValue (base : Nat) (digits : List Char) : Nat :=
  digits.foldl (fun prior digit => base * prior + (Hex.digitValue? digit).getD 0) 0

/-- Reads digits of a base; no digits at all mean zero. -/
def readDigits (base : Nat) (digits : List Char) : Part :=
  if digits.isEmpty then .number 0
  else if digits.all fun digit => match Hex.digitValue? digit with
      | some value => value < base
      | none => false then
    let value := digitsValue base digits
    if value < 2 ^ 32 then .number value else .tooLarge
  else .notANumber

/-- Reads one part: `0x` starts a hexadecimal number and another `0` an octal one. -/
def Part.read : List Char → Part
  | [] => .notANumber
  | '0' :: 'x' :: digits => readDigits 16 digits
  | '0' :: 'X' :: digits => readDigits 16 digits
  | ['0'] => .number 0
  | '0' :: digits => readDigits 8 digits
  | digits => readDigits 10 digits

/-- The parts of a name; an empty last part is left out. -/
def parts (name : List Char) : List (List Char) :=
  let all := splitOnChar '.' name
  if all.getLast? = some [] then all.dropLast else all

/-- True when the last part is a number, so that the name must be an address. -/
def endsInNumber (name : List Char) : Bool :=
  match (parts name).getLast? with
  | none => false
  | some part =>
      (!part.isEmpty && part.all Char.isDigit) || Part.read part != .notANumber

def numbers? (names : List (List Char)) : Option (List Nat) :=
  names.mapM fun part => match Part.read part with
    | .number value => some value
    | _ => none

/-- Reads an address of one to four parts. -/
def read? (name : List Char) : Option Nat := do
  let values ← numbers? (parts name)
  match values.reverse with
  | [] => none
  | last :: leadingReversed =>
      let leading := leadingReversed.reverse
      if 3 < leading.length then none
      else if leading.any (255 < ·) then none
      else if 256 ^ (4 - leading.length) ≤ last then none
      else
        let high := leading.foldl (fun prior value => 256 * prior + value) 0
        some (high * 256 ^ (4 - leading.length) + last)

def text (address : Nat) : List Char :=
  Decimal.digits (address / 2 ^ 24 % 256) ++ '.' :: Decimal.digits (address / 2 ^ 16 % 256)
    ++ '.' :: Decimal.digits (address / 2 ^ 8 % 256) ++ '.' :: Decimal.digits (address % 256)

/-- One number of a strict dotted quad: up to 255 and without leading zeros. -/
def strictNumber? (digits : List Char) : Option Nat :=
  match Decimal.read? digits with
  | some value =>
      if 255 < value ∨ Decimal.digits value ≠ digits then none else some value
  | none => none

/-- Reads a strict dotted quad as two pieces of sixteen bits. -/
def strictPieces? (name : List Char) : Option (List Nat) := do
  match ← (splitOnChar '.' name).mapM strictNumber? with
  | [a, b, c, d] => some [256 * a + b, 256 * c + d]
  | _ => none

end Ipv4

namespace Ipv6

/-- One piece of one to four hexadecimal digits. -/
def piece? (digits : List Char) : Option Nat :=
  if 1 ≤ digits.length ∧ digits.length ≤ 4 ∧ digits.all Hex.isDigit then
    some (Ipv4.digitsValue 16 digits)
  else none

/-- Reads groups between colons; only the last may be a dotted quad. -/
def groups? : List (List Char) → Option (List Nat)
  | [] => some []
  | [last] => if last.contains '.' then Ipv4.strictPieces? last else (piece? last).map ([·])
  | group :: rest => do
      let piece ← piece? group
      let others ← groups? rest
      some (piece :: others)

/-- Reads colon-separated groups; an empty text has none. -/
def side? (side : List Char) : Option (List Nat) :=
  if side.isEmpty then some [] else groups? (splitOnChar ':' side)

/-- The texts before and after the first double colon. -/
def splitCompressed : List Char → Option (List Char × List Char)
  | ':' :: ':' :: rest => some ([], rest)
  | char :: rest => (splitCompressed rest).map fun (before, after) => (char :: before, after)
  | [] => none

/-- Reads the text between the brackets as eight pieces. -/
def read? (name : List Char) : Option (List Nat) :=
  match splitCompressed name with
  | none => do
      let pieces ← side? name
      if pieces.length = 8 then some pieces else none
  | some (before, after) => do
      let leading ← side? before
      let trailing ← side? after
      if before.contains '.' ∨ 7 < leading.length + trailing.length then none
      else some (leading ++ List.replicate (8 - leading.length - trailing.length) 0 ++ trailing)

/-- The length of the run of zeros at the front. -/
def zeroRun (pieces : List Nat) : Nat :=
  (pieces.takeWhile (· == 0)).length

/-- Start and length of the first longest run of zeros. -/
def longestRun : Nat → List Nat → Nat × Nat
  | _, [] => (0, 0)
  | start, piece :: rest =>
      let here := zeroRun (piece :: rest)
      let later := longestRun (start + 1) rest
      if later.2 ≤ here ∧ 0 < here then (start, here) else later

/-- Pieces in lower-case hexadecimal, joined by colons. -/
def joined (pieces : List Nat) : List Char :=
  [':'].intercalate (pieces.map Quoted.hexDigits)

/-- The text of an address without its brackets. -/
def text (pieces : List Nat) : List Char :=
  let (start, length) := longestRun 0 pieces
  if 2 ≤ length then
    joined (pieces.take start) ++ ':' :: ':' :: joined (pieces.drop (start + length))
  else joined pieces

end Ipv6

end ChainTx.Url
