import ChainTx.Protobuf.Varint

/-!
Contract: messages of the protobuf wire format as lists of numbered fields.

Owns:
- fields, their encoder and their reader, which skips over groups;
- the fields by which a message shows a value; default values have none;
- the readings of one field as a number, a text, a byte string or a message of its own;
- the limit on nesting. A message at the limit admits neither messages inside it nor fields that
  it does not know.

Does not own: the records that fields belong to.
-/

set_option autoImplicit false

namespace ChainTx.Protobuf

inductive Value where
  | varint (number : UInt64)
  | fixed64 (bytes : Bytes)
  | delimited (bytes : Bytes)
  /-- A group, whose fields are not kept. -/
  | group
  | fixed32 (bytes : Bytes)
deriving DecidableEq, Repr

structure Field where
  number : Nat
  value : Value
deriving DecidableEq, Repr

def nestingLimit : Nat := 100

/-! ## Encoder -/

/-- The key of a field: its number and the mark of what it carries. -/
def encodeKey (number mark : Nat) : Bytes :=
  Varint.encode (8 * number + mark)

def Field.encode (field : Field) : Bytes :=
  match field.value with
  | .varint number => encodeKey field.number 0 ++ Varint.encode number.toNat
  | .fixed64 bytes => encodeKey field.number 1 ++ bytes
  | .delimited bytes => encodeKey field.number 2 ++ Varint.encode bytes.length ++ bytes
  | .group => encodeKey field.number 3 ++ encodeKey field.number 4
  | .fixed32 bytes => encodeKey field.number 5 ++ bytes

def encodeFields (fields : List Field) : Bytes :=
  fields.flatMap Field.encode

/-- A number, unless it is zero. -/
def uintField (number : Nat) (value : UInt64) : List Field :=
  if value = 0 then [] else [⟨number, .varint value⟩]

/-- A number of 32 bits with a sign, unless it is zero; it is spelled as one of 64 bits. -/
def int32Field (number : Nat) (value : Int32) : List Field :=
  uintField number value.toInt64.toUInt64

/-- A number of 64 bits with a sign, unless it is zero. -/
def int64Field (number : Nat) (value : Int64) : List Field :=
  uintField number value.toUInt64

/-- A byte string, unless it is empty. -/
def bytesField (number : Nat) (value : Bytes) : List Field :=
  if value = [] then [] else [⟨number, .delimited value⟩]

/-- A text, unless it is empty. -/
def textField (number : Nat) (value : String) : List Field :=
  bytesField number (Bytes.ofText value)

/-- A message inside, or one of several byte strings; the empty ones are shown as well. -/
def nestedField (number : Nat) (value : Bytes) : List Field :=
  [⟨number, .delimited value⟩]

/-! ## Reader -/

/-- Reads a key: a number of 32 bits whose field number is not zero. -/
def readKey (bytes : Bytes) : Option (Nat × Nat × Bytes) := do
  let (key, rest) ← Varint.read bytes
  let number := key.toNat / 8
  if 2 ^ 32 ≤ key.toNat ∨ number = 0 then none
  else some (number, key.toNat % 8, rest)

/-- Reads what a key with this mark announces, groups apart. -/
def readValue (mark : Nat) (bytes : Bytes) : Option (Value × Bytes) :=
  match mark with
  | 0 => (Varint.read bytes).map fun read => (.varint read.1, read.2)
  | 1 => (Bytes.splitAt? 8 bytes).map fun split => (.fixed64 split.1, split.2)
  | 2 => do
      let (length, rest) ← Varint.read bytes
      let (payload, rest) ← Bytes.splitAt? length.toNat rest
      some (.delimited payload, rest)
  | 5 => (Bytes.splitAt? 4 bytes).map fun split => (.fixed32 split.1, split.2)
  | _ => none

/-- Reads over the inside and the end of a group. Fields inside count as one level deeper; the
first argument bounds the fields and groups read. -/
def skipGroup : Nat → Nat → Nat → Bytes → Option Bytes
  | 0, _, _, _ => none
  | fuel + 1, limit, group, bytes => do
      let (number, mark, rest) ← readKey bytes
      if mark = 4 then
        if number = group then some rest else none
      else if limit = 0 then none
      else if mark = 3 then do
        let rest ← skipGroup fuel (limit - 1) number rest
        skipGroup fuel limit group rest
      else do
        let (_, rest) ← readValue mark rest
        skipGroup fuel limit group rest

/-- Reads one field of a message with a nesting limit. -/
def readField (limit : Nat) (bytes : Bytes) : Option (Field × Bytes) := do
  let (number, mark, rest) ← readKey bytes
  if mark = 3 then
    if limit = 0 then none
    else
      let rest ← skipGroup rest.length (limit - 1) number rest
      some (⟨number, .group⟩, rest)
  else
    let (value, rest) ← readValue mark rest
    some (⟨number, value⟩, rest)

/-- Reads fields until the bytes are used up; the first argument bounds their number. -/
def readFieldsAtMost : Nat → Nat → Bytes → Option (List Field)
  | _, _, [] => some []
  | 0, _, _ :: _ => none
  | count + 1, limit, bytes => do
      let (field, rest) ← readField limit bytes
      let fields ← readFieldsAtMost count limit rest
      some (field :: fields)

/-- The fields of a message with a nesting limit. -/
def readFields (limit : Nat) (bytes : Bytes) : Option (List Field) :=
  readFieldsAtMost bytes.length limit bytes

/-! ## Readings of one field -/

namespace Field

/-- A number of 64 bits. -/
def uint64? (field : Field) : Option UInt64 :=
  match field.value with
  | .varint number => some number
  | _ => none

/-- A number of 32 bits with a sign; higher bits are dropped. -/
def int32? (field : Field) : Option Int32 :=
  field.uint64?.map fun number => number.toUInt32.toInt32

/-- A number of 64 bits with a sign. -/
def int64? (field : Field) : Option Int64 :=
  field.uint64?.map UInt64.toInt64

def bytes? (field : Field) : Option Bytes :=
  match field.value with
  | .delimited bytes => some bytes
  | _ => none

/-- A text in UTF-8. -/
def text? (field : Field) : Option String :=
  field.bytes?.bind Bytes.toText?

end Field

/-- Keeps a record unchanged by a field that it does not know; at the limit there are none. -/
def skipUnknown {Record : Type} (limit : Nat) (record : Record) : Option Record :=
  if limit = 0 then none else some record

/-- Feeds the fields of a message into a record. -/
def mergeFields {Record : Type} (limit : Nat) (step : Record → Field → Option Record)
    (record : Record) (bytes : Bytes) : Option Record := do
  let fields ← readFields limit bytes
  fields.foldlM step record

/-- Feeds a message inside a field into a record, one level deeper. -/
def mergeNested {Record : Type} (limit : Nat) (merge : Nat → Record → Bytes → Option Record)
    (record : Record) (field : Field) : Option Record :=
  match limit with
  | 0 => none
  | limit + 1 => field.bytes?.bind (merge limit record)

end ChainTx.Protobuf
