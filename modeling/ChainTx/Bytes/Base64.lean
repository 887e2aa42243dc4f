import ChainTx.Bytes

/-!
Contract: base64 with the standard alphabet and required padding.

Owns: the encoder, and the reader that takes exactly the canonical spellings: full groups of four,
padding in the last group only, and no bits left over after the last byte.
-/

set_option autoImplicit false

namespace ChainTx.Base64

/-- The digit of a number below 64. -/
def digit (number : Nat) : Char :=
  if number < 26 then Char.ofNat (65 + number)
  else if number < 52 then Char.ofNat (71 + number)
  else if number < 62 then Char.ofNat (number - 4)
  else if number = 62 then '+'
  else '/'

def digitValue? (char : Char) : Option Nat :=
  let point := char.toNat
  if 65 ≤ point ∧ point ≤ 90 then some (point - 65)
  else if 97 ≤ point ∧ point ≤ 122 then some (point - 71)
  else if 48 ≤ point ∧ point ≤ 57 then some (point + 4)
  else if char = '+' then some 62
  else if char = '/' then some 63
  else none

/-- The digits of a byte string, three bytes to four digits. -/
def encodeChars : Bytes → List Char
  | [] => []
  | [first] =>
      [digit (first.toNat / 4), digit (first.toNat % 4 * 16), '=', '=']
  | [first, second] =>
      [digit (first.toNat / 4), digit (first.toNat % 4 * 16 + second.toNat / 16),
        digit (second.toNat % 16 * 4), '=']
  | first :: second :: third :: rest =>
      digit (first.toNat / 4) :: digit (first.toNat % 4 * 16 + second.toNat / 16)
        :: digit (second.toNat % 16 * 4 + third.toNat / 64) :: digit (third.toNat % 64)
        :: encodeChars rest

/-- The base64 text of a byte string. -/
def encode (bytes : Bytes) : String :=
  String.ofList (encodeChars bytes)

/-- The byte of a number below 256. -/
private def byteOf (number : Nat) : UInt8 :=
  UInt8.ofNat number

def decodeChars : List Char → Option Bytes
  | [] => some []
  | [first, second, '=', '='] => do
      let a ← digitValue? first
      let b ← digitValue? second
      if b % 16 = 0 then some [byteOf (a * 4 + b / 16)] else none
  | [first, second, third, '='] => do
      let a ← digitValue? first
      let b ← digitValue? second
      let c ← digitValue? third
      if c % 4 = 0 then some [byteOf (a * 4 + b / 16), byteOf (b % 16 * 16 + c / 4)] else none
  | first :: second :: third :: fourth :: rest => do
      let a ← digitValue? first
      let b ← digitValue? second
      let c ← digitValue? third
      let d ← digitValue? fourth
      let others ← decodeChars rest
      some (byteOf (a * 4 + b / 16) :: byteOf (b % 16 * 16 + c / 4) :: byteOf (c % 4 * 64 + d)
        :: others)
  | _ => none

/-- Reads a base64 text. -/
def decode? (text : String) : Option Bytes :=
  decodeChars text.toList

end ChainTx.Base64
