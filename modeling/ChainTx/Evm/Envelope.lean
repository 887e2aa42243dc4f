import ChainTx.Evm.LegacyTx

/-!
Contract: signed transactions of any type.

Owns: the type byte in front of a transaction, the field shapes of the types 1 to 4, and the reader
that accepts legacy transactions only. A transaction of another type is read in full before it is
refused, so that malformed ones are told apart from well-formed ones.

Does not own: the fields of legacy transactions.
-/

set_option autoImplicit false

namespace ChainTx.Evm

/-- The transaction types other than the legacy one. -/
inductive TypedKind where
  | eip2930
  | eip1559
  | eip4844
  | eip7702
deriving DecidableEq, Repr

namespace TypedKind

def ofByte? (byte : UInt8) : Option TypedKind :=
  match byte.toNat with
  | 1 => some .eip2930
  | 2 => some .eip1559
  | 3 => some .eip4844
  | 4 => some .eip7702
  | _ => none

def name : TypedKind → String
  | .eip2930 => "Eip2930"
  | .eip1559 => "Eip1559"
  | .eip4844 => "Eip4844"
  | .eip7702 => "Eip7702"

end TypedKind

/-! ## Shapes of fields -/

inductive Shape where
  /-- A number of at most so many bytes; too many bytes are reported before a leading zero. -/
  | word (width : Nat)
  /-- A number of at most so many bytes; a leading zero is reported before too many bytes. -/
  | wide (width : Nat)
  | truth
  | recipient
  | anyBytes
  | fixed (width : Nat)
  | listOf (item : Shape)
  | record (fields : List Shape)
deriving Repr

namespace Shape

/-- Reads items over and over until the bytes are used up; the count bounds the items. -/
def skipAll (skip : Bytes → Except Rlp.Fault Bytes) : Nat → Bytes → Except Rlp.Fault Unit
  | 0, _ => .ok ()
  | _ + 1, [] => .ok ()
  | count + 1, bytes => do
      let rest ← skip bytes
      skipAll skip count rest

/-- Checks that a list's items took up all of its payload. -/
def checkConsumed (head : Rlp.Header) (payload rest : Bytes) : Except Rlp.Fault Bytes :=
  let consumed := payload.length - rest.length
  if consumed = head.payloadLength then .ok rest
  else .error (.listLengthMismatch consumed head.payloadLength)

mutual

/-- Reads over an item and returns the bytes behind it. -/
def skip : Shape → Bytes → Except Rlp.Fault Bytes
  | .word width, bytes => (Rlp.readWord width bytes).map Prod.snd
  | .wide width, bytes => (Rlp.readWide width bytes).map Prod.snd
  | .truth, bytes => (Rlp.readBool bytes).map Prod.snd
  | .recipient, bytes => (LegacyTx.readRecipient bytes).map Prod.snd
  | .anyBytes, bytes => (Rlp.readBytes bytes).map Prod.snd
  | .fixed width, bytes => (Rlp.readFixed width bytes).map Prod.snd
  | .listOf item, bytes => do
      let (payload, rest) ← Rlp.readPayload true bytes
      skipAll item.skip payload.length payload
      .ok rest
  | .record fields, bytes => do
      let (head, payload) ← Rlp.readHeader bytes
      if head.isList = false then .error .unexpectedString
      else
        let rest ← skipFields fields payload
        checkConsumed head payload rest

def skipFields : List Shape → Bytes → Except Rlp.Fault Bytes
  | [], bytes => .ok bytes
  | field :: fields, bytes => do
      let rest ← field.skip bytes
      skipFields fields rest

end

/-- Addresses with the storage slots that a transaction will touch. -/
def accessList : Shape :=
  .listOf (.record [.fixed 20, .listOf (.fixed 32)])

def delegations : Shape :=
  .listOf (.record [.wide 32, .fixed 20, .word 8, .wide 1, .wide 32, .wide 32])

/-- Parity and the two numbers of a signature. -/
def signature : List Shape :=
  [.truth, .wide 32, .wide 32]

end Shape

/-- The fields of a transaction of a type, with its signature. -/
def TypedKind.fields : TypedKind → List Shape
  | .eip2930 =>
      [.word 8, .word 8, .word 16, .word 8, .recipient, .wide 32, .anyBytes, Shape.accessList]
        ++ Shape.signature
  | .eip1559 =>
      [.word 8, .word 8, .word 16, .word 16, .word 8, .recipient, .wide 32, .anyBytes,
        Shape.accessList] ++ Shape.signature
  | .eip4844 =>
      [.word 8, .word 8, .word 16, .word 16, .word 8, .fixed 20, .wide 32, .anyBytes,
        Shape.accessList, .word 16, .listOf (.fixed 32)] ++ Shape.signature
  | .eip7702 =>
      [.word 8, .word 8, .word 16, .word 16, .word 8, .fixed 20, .wide 32, .anyBytes,
        Shape.accessList, Shape.delegations] ++ Shape.signature

namespace TypedKind

/-- The lists of blobs, commitments and proofs that may come with a blob transaction. -/
def blobLists : List Shape :=
  [.listOf (.fixed 131072), .listOf (.fixed 48), .listOf (.fixed 48)]

/-- Reads over a blob transaction that comes with its blobs, with or without a version mark. -/
def skipWithBlobs (bytes : Bytes) : Except Rlp.Fault Bytes := do
  let (head, payload) ← Rlp.readHeader bytes
  if head.isList = false then .error .unexpectedString
  else
    let rest ← (Shape.record eip4844.fields).skip payload
    let blobs := if rest.head? = some 1 then rest.drop 1 else rest
    let rest ← Shape.skipFields blobLists blobs
    Shape.checkConsumed head payload rest

/-- True when the first item of a list is itself a list. -/
def opensWithList (bytes : Bytes) : Bool :=
  match Rlp.readHeader bytes with
  | .error _ => false
  | .ok (_, payload) =>
      match Rlp.readHeader payload with
      | .ok (inner, _) => inner.isList
      | .error _ => false

/-- Reads over a transaction behind its type byte. -/
def skip (kind : TypedKind) (bytes : Bytes) : Except Rlp.Fault Bytes :=
  let plain := (Shape.record kind.fields).skip bytes
  if kind = .eip4844 ∧ opensWithList bytes then
    match skipWithBlobs bytes with
    | .ok rest => .ok rest
    | .error _ => plain
  else plain

end TypedKind

/-! ## Signed transactions -/

/-- What can be wrong with the encoding of a signed transaction. -/
inductive SignedFault where
  /-- A text that starts like a legacy transaction and is none. -/
  | noLegacy
  | unknownType
  | rlp (fault : Rlp.Fault)
  | trailingBytes
  | otherType (kind : TypedKind)
deriving DecidableEq, Repr

def SignedFault.message : SignedFault → String
  | .noLegacy => "invalid signed transaction: Unexpected type flag. Got 0."
  | .unknownType => "invalid signed transaction: unexpected tx type"
  | .rlp fault => "invalid signed transaction: " ++ fault.message
  | .trailingBytes => "invalid signed transaction: trailing bytes"
  | .otherType kind => "expected a legacy transaction, found type " ++ kind.name

namespace SignedLegacyTx

def checkEnd {α : Type} (value : Except SignedFault α) (rest : Bytes) : Except SignedFault α :=
  if rest = [] then value else .error .trailingBytes

/-- Reads a transaction without a type byte; whatever is wrong with it gives one fault. -/
def decodeBare (bytes : Bytes) : Except SignedFault SignedLegacyTx :=
  match read bytes with
  | .error _ => .error .noLegacy
  | .ok (signed, rest) => checkEnd (.ok signed) rest

/-- Reads a transaction behind a type byte. -/
def decodeTyped (type : UInt8) (bytes : Bytes) : Except SignedFault SignedLegacyTx :=
  if type = 0 then do
    let (signed, rest) ← (read bytes).mapError .rlp
    checkEnd (.ok signed) rest
  else
    match TypedKind.ofByte? type with
    | none => .error .unknownType
    | some kind => do
        let rest ← (kind.skip bytes).mapError .rlp
        checkEnd (.error (.otherType kind)) rest

/-- Reads a signed legacy transaction, with or without its type byte 0. -/
def decode (bytes : Bytes) : Except SignedFault SignedLegacyTx :=
  match bytes with
  | [] => decodeBare []
  | first :: rest => if first < 0x80 then decodeTyped first rest else decodeBare bytes

end SignedLegacyTx

end ChainTx.Evm
