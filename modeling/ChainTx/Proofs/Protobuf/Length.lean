import ChainTx.Proofs.Protobuf.Wire

/-!
Contract: the byte strings inside a message take up no more bytes than the message.

Owns:
- that every reader of the wire format leaves the fewer bytes behind, the more it hands out;
- from it, the law by which a record that takes in a message holds no more bytes than the message;
- how many bytes a field adds to the byte string it carries when it is written.

The readers accept fields in any order, fields that come twice and fields that no record knows, so
the laws hold of any bytes and not of written ones alone.
-/

set_option autoImplicit false

namespace ChainTx.Protobuf

/-! ## Readers -/

namespace Varint

private theorem length_lt_of_readAtMost
    {count number : Nat}
    {bytes rest : Bytes}
    (read : readAtMost count bytes = some (number, rest)) :
    rest.length < bytes.length := by
  induction count generalizing bytes number with
  | zero => cases read
  | succ count inductionHypothesis =>
      cases bytes with
      | nil => cases read
      | cons byte tail =>
          rw [readAtMost] at read
          split at read
          · split at read
            · cases read
            · cases read
              simp
          · obtain ⟨⟨higher, behind⟩, tailRead, read⟩ := Option.bind_eq_some_iff.mp read
            cases read
            have shorter := inductionHypothesis tailRead
            rw [List.length_cons]
            omega

private theorem length_lt_of_read
    {word : UInt64}
    {bytes rest : Bytes}
    (read : Varint.read bytes = some (word, rest)) :
    rest.length < bytes.length := by
  obtain ⟨⟨number, behind⟩, numberRead, read⟩ := Option.bind_eq_some_iff.mp read
  cases read
  exact length_lt_of_readAtMost numberRead

end Varint

/-- The count of bytes that a field carries as a byte string. -/
def Field.payloadLength (field : Field) : Nat :=
  (field.bytes?.getD []).length

theorem Field.payloadLength_of_bytes?
    {field : Field}
    {payload : Bytes}
    (carried : field.bytes? = some payload) :
    field.payloadLength = payload.length := by
  rw [payloadLength, carried, Option.getD_some]

private theorem length_lt_of_readKey
    {number mark : Nat}
    {bytes rest : Bytes}
    (read : readKey bytes = some (number, mark, rest)) :
    rest.length < bytes.length := by
  obtain ⟨⟨key, behind⟩, keyRead, read⟩ := Option.bind_eq_some_iff.mp read
  simp only at read
  split at read
  · cases read
  · cases read
    exact Varint.length_lt_of_read keyRead

private theorem length_le_of_readValue
    (number : Nat)
    {mark : Nat}
    {value : Value}
    {bytes rest : Bytes}
    (read : readValue mark bytes = some (value, rest)) :
    (Field.mk number value).payloadLength + rest.length ≤ bytes.length := by
  unfold readValue at read
  split at read
  · obtain ⟨⟨word, behind⟩, wordRead, taken⟩ := Option.map_eq_some_iff.mp read
    cases taken
    have shorter := Varint.length_lt_of_read wordRead
    simp only [Field.payloadLength, Field.bytes?, Option.getD_none, List.length_nil]
    omega
  · obtain ⟨⟨front, behind⟩, split, taken⟩ := Option.map_eq_some_iff.mp read
    cases taken
    have shorter := Bytes.length_add_of_splitAt? split
    simp only [Field.payloadLength, Field.bytes?, Option.getD_none, List.length_nil]
    omega
  · obtain ⟨⟨length, behind⟩, lengthRead, read⟩ := Option.bind_eq_some_iff.mp read
    obtain ⟨⟨payload, last⟩, split, read⟩ := Option.bind_eq_some_iff.mp read
    cases read
    have shorter := Varint.length_lt_of_read lengthRead
    have pieces := Bytes.length_add_of_splitAt? split
    simp only [Field.payloadLength, Field.bytes?, Option.getD_some]
    omega
  · obtain ⟨⟨front, behind⟩, split, taken⟩ := Option.map_eq_some_iff.mp read
    cases taken
    have shorter := Bytes.length_add_of_splitAt? split
    simp only [Field.payloadLength, Field.bytes?, Option.getD_none, List.length_nil]
    omega
  · cases read

private theorem length_le_of_skipGroup
    {fuel limit group : Nat}
    {bytes rest : Bytes}
    (skipped : skipGroup fuel limit group bytes = some rest) :
    rest.length ≤ bytes.length := by
  -- Each member costs one fuel. An inner group and the members behind it both get what is left, so
  -- that one hypothesis serves both.
  induction fuel generalizing limit group bytes rest with
  | zero => cases skipped
  | succ fuel inductionHypothesis =>
      obtain ⟨⟨number, mark, tail⟩, keyRead, skipped⟩ := Option.bind_eq_some_iff.mp skipped
      have tailShorter := length_lt_of_readKey keyRead
      simp only at skipped
      split at skipped
      · split at skipped
        · cases skipped
          omega
        · cases skipped
      · split at skipped
        · cases skipped
        · split at skipped
          · obtain ⟨behind, inner, outer⟩ := Option.bind_eq_some_iff.mp skipped
            have innerShorter := inductionHypothesis inner
            have outerShorter := inductionHypothesis outer
            omega
          · obtain ⟨⟨value, behind⟩, valueRead, outer⟩ := Option.bind_eq_some_iff.mp skipped
            have valueShorter := length_le_of_readValue number valueRead
            have outerShorter : rest.length ≤ behind.length := inductionHypothesis outer
            omega

/-- A field and the bytes behind it make up less than the bytes that were read. -/
theorem length_lt_of_readField
    {limit : Nat}
    {field : Field}
    {bytes rest : Bytes}
    (read : readField limit bytes = some (field, rest)) :
    field.payloadLength + rest.length < bytes.length := by
  obtain ⟨⟨number, mark, tail⟩, keyRead, read⟩ := Option.bind_eq_some_iff.mp read
  have tailShorter := length_lt_of_readKey keyRead
  simp only at read
  split at read
  · split at read
    · cases read
    · obtain ⟨behind, skipped, read⟩ := Option.bind_eq_some_iff.mp read
      cases read
      have skippedShorter := length_le_of_skipGroup skipped
      simp only [Field.payloadLength, Field.bytes?, Option.getD_none, List.length_nil]
      omega
  · obtain ⟨⟨value, behind⟩, valueRead, read⟩ := Option.bind_eq_some_iff.mp read
    simp only [Option.some.injEq, Prod.mk.injEq] at read
    obtain ⟨rfl, rfl⟩ := read
    have valueShorter := length_le_of_readValue number valueRead
    omega

/-! ## Records -/

section Records

variable {Record : Type} {limit : Nat} {step : Record → Field → Option Record}
  (measure : Record → Nat)
  (grows : ∀ {record field taken}, step record field = some taken →
    measure taken ≤ measure record + field.payloadLength)

include grows

private theorem measure_le_of_readFieldsAtMost
    {count : Nat}
    {bytes : Bytes}
    {fields : List Field}
    {record taken : Record}
    (read : readFieldsAtMost count limit bytes = some fields)
    (folded : fields.foldlM step record = some taken) :
    measure taken ≤ measure record + bytes.length := by
  fun_induction readFieldsAtMost count limit bytes generalizing fields record with
  | case1 =>
      cases read
      cases folded
      omega
  | case2 => cases read
  | case3 limit count bytes nonempty inductionHypothesis =>
      obtain ⟨⟨field, behind⟩, fieldRead, read⟩ := Option.bind_eq_some_iff.mp read
      obtain ⟨rest, restRead, read⟩ := Option.bind_eq_some_iff.mp read
      cases read
      obtain ⟨between, stepped, folded⟩ := Option.bind_eq_some_iff.mp folded
      have fieldShorter := length_lt_of_readField fieldRead
      have stepLe := grows stepped
      have restLe := inductionHypothesis _ restRead folded
      omega

/-- What a record holds grows with each field by no more than the field carries, and so with a
message by no more than its bytes. -/
theorem measure_le_of_mergeFields
    {bytes : Bytes}
    {record taken : Record}
    (merged : mergeFields limit step record bytes = some taken) :
    measure taken ≤ measure record + bytes.length := by
  obtain ⟨fields, read, folded⟩ := Option.bind_eq_some_iff.mp merged
  exact measure_le_of_readFieldsAtMost measure grows read folded

end Records

/-! ## Writers -/

private theorem Varint.length_encode_le
    (count number : Nat)
    (numberLt : number < 128 ^ (count + 1)) :
    (Varint.encode number).length ≤ count + 1 := by
  induction count generalizing number with
  | zero =>
      rw [encode, if_pos (by omega)]
      simp
  | succ count inductionHypothesis =>
      rw [encode]
      split
      · simp
      · have quotientLt : number / 128 < 128 ^ (count + 1) := by
          rw [Nat.pow_succ] at numberLt
          exact Nat.div_lt_of_lt_mul (by omega)
        have quotientLe := inductionHypothesis _ quotientLt
        rw [List.length_cons]
        omega

/-- A field adds at most fifteen bytes to the byte string it carries: five of its key and ten of the
length. -/
theorem length_encode_delimited_le
    (number : Nat)
    (payload : Bytes)
    (numberLt : number < 2 ^ 29)
    (sized : payload.Sized) :
    (Field.mk number (.delimited payload)).encode.length ≤ payload.length + 15 := by
  rw [Bytes.Sized] at sized
  have keyLe : (encodeKey number 2).length ≤ 5 :=
    Varint.length_encode_le 4 (8 * number + 2) (by omega)
  have lengthLe := Varint.length_encode_le 9 payload.length (by omega)
  simp only [Field.encode, List.length_append]
  omega

theorem length_encodeFields_bytesField_le
    (number : Nat)
    (value : Bytes)
    (numberLt : number < 2 ^ 29)
    (sized : value.Sized) :
    (encodeFields (bytesField number value)).length ≤ value.length + 15 := by
  unfold bytesField
  split
  · simp [encodeFields]
  · rw [encodeFields, List.flatMap_singleton]
    exact length_encode_delimited_le number value numberLt sized

end ChainTx.Protobuf
