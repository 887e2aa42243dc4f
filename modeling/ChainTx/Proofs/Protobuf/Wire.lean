import ChainTx.Proofs.Bytes
import ChainTx.Protobuf.Field

/-!
Contract: the readers of the protobuf wire format undo its encoders.

Owns:
- the laws of variable-length numbers, of keys and of single fields, with arbitrary bytes behind
  them, and from them the law of whole messages;
- the laws by which a record takes in the fields that show one of its members: a member at its
  default has no field, and a list has one field for every element.

Does not own: the records. Groups are read over and never written, so they have no law.
-/

set_option autoImplicit false

namespace ChainTx.Protobuf

/-! ## Numbers -/

namespace Varint

private theorem encode_ne_nil (number : Nat) :
    encode number ≠ [] := by
  rw [encode]
  split <;> simp

/-- Reading a spelling gives the number back if the count of bytes admits it. -/
theorem readAtMost_encode
    (count number : Nat)
    (rest : Bytes)
    (numberLt : number < 2 * 128 ^ count) :
    readAtMost (count + 1) (encode number ++ rest) = some (number, rest) := by
  induction count generalizing number with
  | zero =>
      have code : (UInt8.ofNat number).toNat = number := by
        rw [UInt8.toNat_ofNat']
        omega
      rw [encode, if_pos (by omega), List.singleton_append, readAtMost]
      simp only [code]
      rw [if_pos (by omega), if_neg (by omega)]
  | succ count inductionHypothesis =>
      rw [encode]
      by_cases small : number < 128
      · have code : (UInt8.ofNat number).toNat = number := by
          rw [UInt8.toNat_ofNat']
          omega
        rw [if_pos small, List.singleton_append, readAtMost]
        simp only [code]
        rw [if_pos small, if_neg (by omega)]
      · have code : (UInt8.ofNat (128 + number % 128)).toNat = 128 + number % 128 := by
          rw [UInt8.toNat_ofNat']
          omega
        have quotientLt : number / 128 < 2 * 128 ^ count := by
          rw [Nat.pow_succ] at numberLt
          exact Nat.div_lt_of_lt_mul (by omega)
        have sum : (128 + number % 128) % 128 + 128 * (number / 128) = number := by omega
        rw [if_neg small, List.cons_append, readAtMost]
        simp only [code, inductionHypothesis _ quotientLt]
        rw [if_neg (by omega), Option.bind_eq_bind, Option.bind_some, sum]

private theorem read_encode
    (word : UInt64)
    (rest : Bytes) :
    read (encode word.toNat ++ rest) = some (word, rest) := by
  have wordLt := word.toNat_lt
  rw [read, readAtMost_encode 9 word.toNat rest (by omega), Option.bind_eq_bind, Option.bind_some]
  simp only [UInt64.ofNat_toNat]

private theorem read_encode_ofNat
    (number : Nat)
    (rest : Bytes)
    (numberLt : number < 2 ^ 64) :
    read (encode number ++ rest) = some (UInt64.ofNat number, rest) := by
  have word := read_encode (UInt64.ofNat number) rest
  rw [UInt64.toNat_ofNat', Nat.mod_eq_of_lt numberLt] at word
  exact word

end Varint

/-! ## Fields -/

private theorem readKey_encodeKey
    (number mark : Nat)
    (rest : Bytes)
    (positive : 0 < number)
    (numberLt : number < 2 ^ 29)
    (markLt : mark < 8) :
    readKey (encodeKey number mark ++ rest) = some (number, mark, rest) := by
  have key : (UInt64.ofNat (8 * number + mark)).toNat = 8 * number + mark := by
    rw [UInt64.toNat_ofNat']
    omega
  have numberBack : (8 * number + mark) / 8 = number := by omega
  have markBack : (8 * number + mark) % 8 = mark := by omega
  rw [readKey, encodeKey, Varint.read_encode_ofNat _ rest (by omega), Option.bind_eq_bind,
    Option.bind_some]
  simp only [key, numberBack, markBack]
  rw [if_neg (by omega)]

/-- Fields that a record writes: their number has 29 bits and they carry a number or a byte
string. -/
def Field.Writable (field : Field) : Prop :=
  0 < field.number ∧ field.number < 2 ^ 29
    ∧ match field.value with
      | .varint _ | .delimited _ => True
      | .fixed64 _ | .group | .fixed32 _ => False

private theorem Field.length_le_encode
    (number : Nat)
    (payload : Bytes) :
    payload.length ≤ (Field.mk number (.delimited payload)).encode.length := by
  simp only [Field.encode, List.length_append]
  omega

private theorem Field.encode_ne_nil (field : Field) :
    field.encode ≠ [] := by
  unfold Field.encode encodeKey
  split <;> simp [Varint.encode_ne_nil]

private theorem readField_encode
    (limit : Nat)
    (field : Field)
    (rest : Bytes)
    (writable : field.Writable)
    (sized : field.encode.Sized) :
    readField limit (field.encode ++ rest) = some (field, rest) := by
  obtain ⟨number, value⟩ := field
  obtain ⟨positive, numberLt, kind⟩ := writable
  cases value with
  | varint word =>
      simp only [Field.encode, List.append_assoc]
      rw [readField, readKey_encodeKey number 0 _ positive numberLt (by omega)]
      simp [readValue, Varint.read_encode]
  | delimited payload =>
      have payloadLe := Field.length_le_encode number payload
      rw [Bytes.Sized] at sized
      have length : (UInt64.ofNat payload.length).toNat = payload.length := by
        rw [UInt64.toNat_ofNat']
        omega
      simp only [Field.encode, List.append_assoc]
      rw [readField, readKey_encodeKey number 2 _ positive numberLt (by omega)]
      simp [readValue, Varint.read_encode_ofNat _ _ (show payload.length < 2 ^ 64 by omega), length,
        Bytes.splitAt?_append]
  | fixed64 | group | fixed32 => cases kind

/-- All fields of a list are fields that a record writes. -/
def AllWritable (fields : List Field) : Prop :=
  ∀ field ∈ fields, field.Writable

@[simp] theorem allWritable_append (front rest : List Field) :
    AllWritable (front ++ rest) ↔ AllWritable front ∧ AllWritable rest :=
  List.forall_mem_append

theorem allWritable_flatMap
    {α : Type}
    {items : List α}
    {shown : α → List Field}
    (writable : ∀ item, AllWritable (shown item)) :
    AllWritable (items.flatMap shown) := by
  intro field member
  obtain ⟨item, _, shownMember⟩ := List.mem_flatMap.mp member
  exact writable item field shownMember

section Writable

variable {number : Nat} (positive : 0 < number) (numberLt : number < 2 ^ 29)

include positive numberLt

theorem allWritable_uintField (value : UInt64) :
    AllWritable (uintField number value) := by
  unfold uintField
  split
  · exact List.forall_mem_nil _
  · exact List.forall_mem_singleton.mpr ⟨positive, numberLt, trivial⟩

theorem allWritable_nestedField (value : Bytes) :
    AllWritable (nestedField number value) :=
  List.forall_mem_singleton.mpr ⟨positive, numberLt, trivial⟩

theorem allWritable_bytesField (value : Bytes) :
    AllWritable (bytesField number value) := by
  unfold bytesField
  split
  · exact List.forall_mem_nil _
  · exact allWritable_nestedField positive numberLt value

theorem allWritable_textField (value : String) :
    AllWritable (textField number value) :=
  allWritable_bytesField positive numberLt (Bytes.ofText value)

end Writable

/-! ## Messages -/

/-- Only the message without fields has no bytes. -/
theorem encodeFields_eq_nil_iff (fields : List Field) :
    encodeFields fields = [] ↔ fields = [] := by
  cases fields with
  | nil => simp [encodeFields]
  | cons field rest => simp [encodeFields, field.encode_ne_nil]

/-- A field is no longer than its message. -/
theorem sized_of_mem
    {fields : List Field}
    {field : Field}
    (member : field ∈ fields)
    (sized : (encodeFields fields).Sized) :
    field.encode.Sized := by
  have part : field.encode.Sublist (encodeFields fields) := by
    obtain ⟨front, rest, rfl⟩ := List.append_of_mem member
    simp only [encodeFields, List.flatMap_append, List.flatMap_cons]
    exact (List.sublist_append_left _ _).trans (List.sublist_append_right _ _)
  exact Nat.lt_of_le_of_lt part.length_le sized

/-- A byte string inside is no longer than the message. -/
theorem sized_of_delimited_mem
    {fields : List Field}
    {number : Nat}
    {payload : Bytes}
    (member : Field.mk number (.delimited payload) ∈ fields)
    (sized : (encodeFields fields).Sized) :
    payload.Sized :=
  Nat.lt_of_le_of_lt (Field.length_le_encode number payload)
    (sized_of_mem member sized)

/-- The messages of a list inside are no longer than the message. -/
theorem sized_of_nestedList
    {α : Type}
    {fields : List Field}
    {items : List α}
    {item : α}
    (number : Nat)
    (shown : α → Bytes)
    (part : (items.flatMap fun item => nestedField number (shown item)) ⊆ fields)
    (member : item ∈ items)
    (sized : (encodeFields fields).Sized) :
    (shown item).Sized := by
  have shownMember : Field.mk number (.delimited (shown item)) ∈ fields :=
    part (List.mem_flatMap.mpr ⟨item, member, List.mem_singleton_self _⟩)
  exact sized_of_delimited_mem shownMember sized

theorem sized_of_bytesField
    {fields : List Field}
    {number : Nat}
    {value : Bytes}
    (part : bytesField number value ⊆ fields)
    (sized : (encodeFields fields).Sized) :
    value.Sized := by
  by_cases empty : value = []
  · rw [empty, Bytes.Sized]
    decide
  · rw [bytesField, if_neg empty] at part
    exact sized_of_delimited_mem (part (List.mem_singleton_self _)) sized

private theorem readFieldsAtMost_encodeFields
    (limit count : Nat)
    (fields : List Field)
    (writable : AllWritable fields)
    (sized : (encodeFields fields).Sized)
    (enough : (encodeFields fields).length ≤ count) :
    readFieldsAtMost count limit (encodeFields fields) = some fields := by
  induction fields generalizing count with
  | nil =>
      rw [encodeFields, List.flatMap_nil]
      cases count <;> rfl
  | cons field rest inductionHypothesis =>
      have fieldFits := sized_of_mem List.mem_cons_self sized
      have encoded : encodeFields (field :: rest) = field.encode ++ encodeFields rest := by
        rw [encodeFields, List.flatMap_cons, encodeFields]
      have fieldPos := List.length_pos_iff.mpr field.encode_ne_nil
      rw [Bytes.Sized, encoded, List.length_append] at sized
      rw [encoded, List.length_append] at enough
      cases count with
      | zero => omega
      | succ count =>
          have fieldRead := readField_encode limit field (encodeFields rest)
            (writable field List.mem_cons_self) fieldFits
          have restRead := inductionHypothesis count
            (fun other member => writable other (List.mem_cons_of_mem field member))
            (by rw [Bytes.Sized]; omega) (by omega)
          have nonempty : field.encode ++ encodeFields rest ≠ [] := by
            simp [field.encode_ne_nil]
          rw [encoded, readFieldsAtMost, fieldRead, Option.bind_eq_bind, Option.bind_some]
          · simp only [restRead, Option.bind_eq_bind, Option.bind_some]
          · exact nonempty

theorem readFields_encodeFields
    (limit : Nat)
    (fields : List Field)
    (writable : AllWritable fields)
    (sized : (encodeFields fields).Sized) :
    readFields limit (encodeFields fields) = some fields :=
  readFieldsAtMost_encodeFields limit _ fields writable sized (Nat.le_refl _)

/-- A record takes in the fields that were written. -/
theorem mergeFields_encodeFields
    {Record : Type}
    (limit : Nat)
    (step : Record → Field → Option Record)
    (record : Record)
    (fields : List Field)
    (writable : AllWritable fields)
    (sized : (encodeFields fields).Sized) :
    mergeFields limit step record (encodeFields fields) = fields.foldlM step record := by
  rw [mergeFields, readFields_encodeFields limit fields writable sized, Option.bind_eq_bind,
    Option.bind_some]

/-! ## Members of records -/

@[simp] theorem Field.uint64?_varint (number : Nat) (value : UInt64) :
    (Field.mk number (.varint value)).uint64? = some value :=
  rfl

@[simp] theorem Field.bytes?_delimited (number : Nat) (value : Bytes) :
    (Field.mk number (.delimited value)).bytes? = some value :=
  rfl

@[simp] theorem Field.text?_delimited_ofText (number : Nat) (value : String) :
    (Field.mk number (.delimited (Bytes.ofText value))).text? = some value := by
  rw [text?, bytes?_delimited, Option.bind_some, Bytes.toText?_ofText]

@[simp] theorem mergeNested_delimited
    {Record : Type}
    (limit : Nat)
    (merge : Nat → Record → Bytes → Option Record)
    (record : Record)
    (number : Nat)
    (payload : Bytes) :
    mergeNested (limit + 1) merge record ⟨number, .delimited payload⟩
      = merge limit record payload :=
  rfl

section Members

variable {Record : Type} {step : Record → Field → Option Record} {record taken : Record}

theorem foldlM_append
    {between : Record}
    {front rest : List Field}
    (frontTaken : front.foldlM step record = some between)
    (restTaken : rest.foldlM step between = some taken) :
    (front ++ rest).foldlM step record = some taken := by
  rw [List.foldlM_append, frontTaken, Option.bind_eq_bind, Option.bind_some, restTaken]

theorem foldlM_uintField
    {number : Nat}
    {value : UInt64}
    (takes : step record ⟨number, .varint value⟩ = some taken)
    (default : value = 0 → record = taken) :
    (uintField number value).foldlM step record = some taken := by
  unfold uintField
  split
  · rename_i isZero
    rw [default isZero]
    rfl
  · rw [List.foldlM_cons, takes]
    rfl

theorem foldlM_bytesField
    {number : Nat}
    {value : Bytes}
    (takes : step record ⟨number, .delimited value⟩ = some taken)
    (default : value = [] → record = taken) :
    (bytesField number value).foldlM step record = some taken := by
  unfold bytesField
  split
  · rename_i isEmpty
    rw [default isEmpty]
    rfl
  · rw [List.foldlM_cons, takes]
    rfl

theorem foldlM_textField
    {number : Nat}
    {value : String}
    (takes : step record ⟨number, .delimited (Bytes.ofText value)⟩ = some taken)
    (default : value = "" → record = taken) :
    (textField number value).foldlM step record = some taken :=
  foldlM_bytesField takes fun noBytes => default (Bytes.eq_empty_of_ofText_eq_nil noBytes)

theorem foldlM_nestedField
    {number : Nat}
    {value : Bytes}
    (takes : step record ⟨number, .delimited value⟩ = some taken) :
    (nestedField number value).foldlM step record = some taken := by
  rw [nestedField, List.foldlM_cons, takes]
  rfl

theorem foldlM_delimitedList
    {α : Type}
    {number : Nat}
    {shown : α → Bytes}
    (holding : List α → Record)
    (items : List α)
    (takes : ∀ held, ∀ item ∈ items,
      step (holding held) ⟨number, .delimited (shown item)⟩ = some (holding (held ++ [item]))) :
    (items.flatMap fun item => nestedField number (shown item)).foldlM step (holding [])
      = some (holding items) := by
  suffices general : ∀ held,
      (items.flatMap fun item => nestedField number (shown item)).foldlM step (holding held)
        = some (holding (held ++ items)) from general []
  induction items with
  | nil => simp
  | cons item rest inductionHypothesis =>
      intro held
      have itemTaken := takes held item List.mem_cons_self
      have restTaken := inductionHypothesis
        (fun held other member => takes held other (List.mem_cons_of_mem item member))
        (held ++ [item])
      rw [List.append_assoc, List.singleton_append] at restTaken
      exact foldlM_append (foldlM_nestedField itemTaken) restTaken

section Nested

variable {α : Type} {limit number : Nat} {shown : α → Bytes} {fields : List Field}
  {merge : Nat → α → Bytes → Option α} {empty : α}

/-- A message that may be absent is taken in, if it reads back. -/
theorem foldlM_nestedOptional
    (holding : Option α → Record)
    (law : ∀ item, (shown item).Sized → merge limit empty (shown item) = some item)
    (takes : ∀ payload, step (holding none) ⟨number, .delimited payload⟩
      = (merge limit empty payload).map fun item => holding (some item))
    (item : Option α)
    (part : (item.toList.flatMap fun item => nestedField number (shown item)) ⊆ fields)
    (sized : (encodeFields fields).Sized) :
    (item.toList.flatMap fun item => nestedField number (shown item)).foldlM step (holding none)
      = some (holding item) := by
  cases item with
  | none => rfl
  | some present =>
      have fits := sized_of_nestedList number shown part List.mem_cons_self sized
      rw [Option.toList_some, List.flatMap_singleton]
      refine foldlM_nestedField ?_
      rw [takes, law present fits, Option.map_some]

/-- A list of messages is taken in, if each of them reads back. -/
theorem foldlM_nestedList
    (holding : List α → Record)
    (law : ∀ item, (shown item).Sized → merge limit empty (shown item) = some item)
    (takes : ∀ held payload, step (holding held) ⟨number, .delimited payload⟩
      = (merge limit empty payload).map fun item => holding (held ++ [item]))
    (items : List α)
    (part : (items.flatMap fun item => nestedField number (shown item)) ⊆ fields)
    (sized : (encodeFields fields).Sized) :
    (items.flatMap fun item => nestedField number (shown item)).foldlM step (holding [])
      = some (holding items) := by
  refine foldlM_delimitedList holding items fun held item member => ?_
  rw [takes, law item (sized_of_nestedList number shown part member sized),
    Option.map_some]

end Nested

end Members

end ChainTx.Protobuf
