import ChainTx.Bytes
import ChainTx.Text.Decimal

/-!
Contract: the recursive length encoding (RLP) of byte strings, numbers and lists.

Owns:
- headers, and the encoders of byte strings, numbers and lists;
- the faults of malformed encodings;
- readers that return what they read and the bytes behind it. They accept shortest forms only.

Does not own: the fields of transactions.
-/

set_option autoImplicit false

namespace ChainTx.Evm.Rlp

/-- What can be wrong with an encoding. -/
inductive Fault where
  | overflow
  | leadingZero
  | inputTooShort
  | nonCanonicalSingleByte
  | nonCanonicalSize
  | unexpectedLength
  | unexpectedString
  | unexpectedList
  | listLengthMismatch (found expected : Nat)
  /-- A truth value other than 0 and 1. -/
  | notTruthValue
  /-- A recovery number that belongs to no chain. -/
  | invalidParity
  /-- A version mark in front of blobs other than 1. -/
  | unknownWrapper
deriving DecidableEq, Repr

def Fault.message : Fault → String
  | .overflow => "overflow"
  | .leadingZero => "leading zero"
  | .inputTooShort => "input too short"
  | .nonCanonicalSingleByte => "non-canonical single byte"
  | .nonCanonicalSize => "non-canonical size"
  | .unexpectedLength => "unexpected length"
  | .unexpectedString => "unexpected string"
  | .unexpectedList => "unexpected list"
  | .listLengthMismatch found expected =>
      "unexpected list length (got " ++ Decimal.text found ++ ", expected "
        ++ Decimal.text expected ++ ")"
  | .notTruthValue => "invalid bool value, must be 0 or 1"
  | .invalidParity => "invalid parity value"
  | .unknownWrapper => "invalid wrapper version"

/-! ## Encoders -/

/-- The first byte of the empty string. -/
def emptyString : UInt8 := 0x80

/-- The bytes before a payload of some length: one byte up to 55, else the length's own length and
the length. -/
def header (isList : Bool) (length : Nat) : Bytes :=
  let base := if isList then 0xC0 else 0x80
  if length < 56 then [UInt8.ofNat (base + length)]
  else
    let spelled := Bytes.minimalBE length
    UInt8.ofNat (base + 55 + spelled.length) :: spelled

/-- A byte string; a single byte below 128 stands for itself. -/
def encodeBytes (payload : Bytes) : Bytes :=
  match payload with
  | [byte] => if byte < 0x80 then [byte] else header false 1 ++ payload
  | _ => header false payload.length ++ payload

/-- A number, as the byte string of its shortest spelling. -/
def encodeNat (number : Nat) : Bytes :=
  encodeBytes (Bytes.minimalBE number)

/-- A list of items that are already encoded. -/
def encodeList (payload : Bytes) : Bytes :=
  header true payload.length ++ payload

/-! ## Readers -/

structure Header where
  isList : Bool
  payloadLength : Nat
deriving DecidableEq, Repr

/-- A big-endian number of at most `width` bytes without leading zeros; length is judged first. -/
def wordOf (width : Nat) (bytes : Bytes) : Except Fault Nat :=
  if width < bytes.length then .error .overflow
  else if bytes.head? = some 0 then .error .leadingZero
  else .ok (Bytes.toNatBE bytes)

/-- Refuses a payload that is longer than the bytes that are left. -/
def checkRemaining (head : Header) (rest : Bytes) : Except Fault (Header × Bytes) :=
  if rest.length < head.payloadLength then .error .inputTooShort else .ok (head, rest)

/-- Reads a header whose length is spelled behind the first byte. -/
def readLongHeader (isList : Bool) (lengthOfLength : Nat) (rest : Bytes) :
    Except Fault (Header × Bytes) :=
  match Bytes.splitAt? lengthOfLength rest with
  | none => .error .inputTooShort
  | some (spelled, payload) => do
      let length ← wordOf 8 spelled
      if length < 56 then .error .nonCanonicalSize
      else checkRemaining ⟨isList, length⟩ payload

/-- Reads a header. A single byte that stands for itself is left in the rest. -/
def readHeader : Bytes → Except Fault (Header × Bytes)
  | [] => .error .inputTooShort
  | first :: rest =>
      let code := first.toNat
      if code < 0x80 then .ok (⟨false, 1⟩, first :: rest)
      else if code < 0xB8 then
        match code - 0x80, rest with
        | 1, [] => .error .inputTooShort
        | 1, byte :: _ =>
            if byte < 0x80 then .error .nonCanonicalSingleByte
            else checkRemaining ⟨false, 1⟩ rest
        | length, _ => checkRemaining ⟨false, length⟩ rest
      else if code < 0xC0 then readLongHeader false (code - 0xB7) rest
      else if code < 0xF8 then checkRemaining ⟨true, code - 0xC0⟩ rest
      else readLongHeader true (code - 0xF7) rest

/-- Reads the payload of a string or of a list, as asked for. -/
def readPayload (isList : Bool) (bytes : Bytes) : Except Fault (Bytes × Bytes) := do
  let (head, rest) ← readHeader bytes
  if head.isList = isList then
    .ok (rest.take head.payloadLength, rest.drop head.payloadLength)
  else .error (if isList then .unexpectedString else .unexpectedList)

def readBytes (bytes : Bytes) : Except Fault (Bytes × Bytes) :=
  readPayload false bytes

/-- Reads a number of at most `width` bytes; too many bytes are reported before a leading zero. -/
def readWord (width : Nat) (bytes : Bytes) : Except Fault (Nat × Bytes) := do
  let (payload, rest) ← readBytes bytes
  let number ← wordOf width payload
  .ok (number, rest)

/-- Reads a number of at most `width` bytes; a leading zero is reported before too many bytes. -/
def readWide (width : Nat) (bytes : Bytes) : Except Fault (Nat × Bytes) := do
  let (payload, rest) ← readBytes bytes
  if payload.head? = some 0 then .error .leadingZero
  else if width < payload.length then .error .overflow
  else .ok (Bytes.toNatBE payload, rest)

/-- Reads a number of 64 bits. -/
def readUInt64 (bytes : Bytes) : Except Fault (UInt64 × Bytes) := do
  let (number, rest) ← readWord 8 bytes
  .ok (UInt64.ofNat number, rest)

/-- Reads a number of 128 bits. -/
def readUInt128 (bytes : Bytes) : Except Fault (BitVec 128 × Bytes) := do
  let (number, rest) ← readWord 16 bytes
  .ok (BitVec.ofNat 128 number, rest)

/-- Reads a number of 256 bits. -/
def readUInt256 (bytes : Bytes) : Except Fault (BitVec 256 × Bytes) := do
  let (number, rest) ← readWide 32 bytes
  .ok (BitVec.ofNat 256 number, rest)

/-- Reads a byte string of exactly `width` bytes. -/
def readFixed (width : Nat) (bytes : Bytes) : Except Fault (Bytes × Bytes) := do
  let (payload, rest) ← readBytes bytes
  if payload.length = width then .ok (payload, rest) else .error .unexpectedLength

def readBool (bytes : Bytes) : Except Fault (Bool × Bytes) := do
  let (number, rest) ← readWord 1 bytes
  match number with
  | 0 => .ok (false, rest)
  | 1 => .ok (true, rest)
  | _ => .error .notTruthValue

end ChainTx.Evm.Rlp
