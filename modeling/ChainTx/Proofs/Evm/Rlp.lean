import ChainTx.Evm.Rlp
import ChainTx.Proofs.Bytes

/-!
Contract: the readers of the recursive length encoding undo its encoders.

Owns: the law of headers, and from it the laws of byte strings, of numbers and of byte strings of a
fixed width. Every law leaves arbitrary bytes behind the item, so that items compose.

Does not own: strictness, that is, which byte strings the readers refuse.
-/

set_option autoImplicit false

namespace ChainTx.Evm.Rlp

/-! ## Headers -/

/-- A length that has 64 bits is read from its shortest spelling. -/
theorem wordOf_minimalBE
    (width number : Nat)
    (numberLt : number < 256 ^ width) :
    wordOf width (Bytes.minimalBE number) = .ok number := by
  have narrow := Bytes.length_minimalBE_le width number numberLt
  rw [wordOf, if_neg (by omega), if_neg (Bytes.head?_minimalBE_ne_zero number),
    Bytes.toNatBE_minimalBE]

private theorem checkRemaining_of_le
    (head : Header)
    (rest : Bytes)
    (enough : head.payloadLength ≤ rest.length) :
    checkRemaining head rest = .ok (head, rest) := by
  rw [checkRemaining, if_neg (by omega)]

/-- A length spelled behind the first byte is read back. -/
theorem readLongHeader_minimalBE
    (isList : Bool)
    (length : Nat)
    (rest : Bytes)
    (long : 56 ≤ length)
    (lengthLt : length < 2 ^ 64)
    (enough : length ≤ rest.length) :
    readLongHeader isList (Bytes.minimalBE length).length (Bytes.minimalBE length ++ rest)
      = .ok (⟨isList, length⟩, rest) := by
  have word : wordOf 8 (Bytes.minimalBE length) = .ok length :=
    wordOf_minimalBE 8 length (by omega)
  simp only [readLongHeader, Bytes.splitAt?_append, word, bind, Except.bind]
  rw [if_neg (by omega), checkRemaining_of_le _ _ enough]

/-- The first byte of a list of at most 55 bytes. -/
private theorem readHeader_shortList
    (length : Nat)
    (rest : Bytes)
    (short : length < 56)
    (enough : length ≤ rest.length) :
    readHeader (UInt8.ofNat (0xC0 + length) :: rest) = .ok (⟨true, length⟩, rest) := by
  have code : (UInt8.ofNat (0xC0 + length)).toNat = 0xC0 + length := by
    rw [UInt8.toNat_ofNat']
    omega
  unfold readHeader
  simp only [code]
  rw [if_neg (by omega), if_neg (by omega), if_neg (by omega), if_pos (by omega),
    Nat.add_sub_cancel_left]
  exact checkRemaining_of_le _ _ enough

/-- The first byte of a string of at most 55 bytes that does not stand for itself. -/
private theorem readHeader_shortString
    (length : Nat)
    (rest : Bytes)
    (short : length < 56)
    (enough : length ≤ rest.length)
    (marked : length = 1 → ∀ byte, rest.head? = some byte → ¬ byte < 0x80) :
    readHeader (UInt8.ofNat (0x80 + length) :: rest) = .ok (⟨false, length⟩, rest) := by
  have code : (UInt8.ofNat (0x80 + length)).toNat = 0x80 + length := by
    rw [UInt8.toNat_ofNat']
    omega
  unfold readHeader
  simp only [code]
  rw [if_neg (by omega), if_pos (by omega), Nat.add_sub_cancel_left]
  split
  · simp at enough
  · rename_i byte tail
    rw [if_neg (marked rfl byte rfl)]
    exact checkRemaining_of_le _ _ enough
  · exact checkRemaining_of_le _ _ enough

/-- The bytes in front of a list or string of more than 55 bytes. -/
private theorem readHeader_long
    (isList : Bool)
    (length : Nat)
    (rest : Bytes)
    (long : 56 ≤ length)
    (lengthLt : length < 2 ^ 64)
    (enough : length ≤ rest.length) :
    readHeader
        (UInt8.ofNat ((if isList then 0xF7 else 0xB7) + (Bytes.minimalBE length).length)
          :: (Bytes.minimalBE length ++ rest))
      = .ok (⟨isList, length⟩, rest) := by
  have spelledLe : (Bytes.minimalBE length).length ≤ 8 :=
    Bytes.length_minimalBE_le 8 length (by omega)
  have spelledPos : 0 < (Bytes.minimalBE length).length :=
    List.length_pos_iff.mpr (Bytes.minimalBE_ne_nil length (by omega))
  have readLong := readLongHeader_minimalBE isList length rest long lengthLt enough
  cases isList with
  | true =>
      have code : (UInt8.ofNat (0xF7 + (Bytes.minimalBE length).length)).toNat
          = 0xF7 + (Bytes.minimalBE length).length := by
        rw [UInt8.toNat_ofNat']
        omega
      unfold readHeader
      simp only [if_true, code]
      rw [if_neg (by omega), if_neg (by omega), if_neg (by omega), if_neg (by omega),
        Nat.add_sub_cancel_left]
      exact readLong
  | false =>
      have code : (UInt8.ofNat (0xB7 + (Bytes.minimalBE length).length)).toNat
          = 0xB7 + (Bytes.minimalBE length).length := by
        rw [UInt8.toNat_ofNat']
        omega
      unfold readHeader
      simp only [Bool.false_eq_true, if_false, code]
      rw [if_neg (by omega), if_neg (by omega), if_pos (by omega), Nat.add_sub_cancel_left]
      exact readLong

/-- Reading a header gives what was written. A string of one byte has a header only if the byte does
not stand for itself. -/
theorem readHeader_header
    (isList : Bool)
    (length : Nat)
    (rest : Bytes)
    (lengthLt : length < 2 ^ 64)
    (enough : length ≤ rest.length)
    (marked : isList = false → length = 1 → ∀ byte, rest.head? = some byte → ¬ byte < 0x80) :
    readHeader (header isList length ++ rest) = .ok (⟨isList, length⟩, rest) := by
  unfold header
  by_cases short : length < 56
  · rw [if_pos short]
    cases isList with
    | true => exact readHeader_shortList length rest short enough
    | false => exact readHeader_shortString length rest short enough (marked rfl)
  · rw [if_neg short]
    cases isList with
    | true => exact readHeader_long true length rest (by omega) lengthLt enough
    | false => exact readHeader_long false length rest (by omega) lengthLt enough

/-! ## Byte strings -/

/-- What stands behind a header is read as its payload. -/
theorem readPayload_header
    (isList : Bool)
    (payload rest : Bytes)
    (lengthLt : payload.length < 2 ^ 64)
    (marked : isList = false → ∀ byte, payload = [byte] → ¬ byte < 0x80) :
    readPayload isList (header isList payload.length ++ (payload ++ rest))
      = .ok (payload, rest) := by
  have headerRead :=
    readHeader_header isList payload.length (payload ++ rest) lengthLt (by simp) (by
      intro isString single byte first
      obtain ⟨only, rfl⟩ := List.length_eq_one_iff.mp single
      simp only [List.cons_append, List.head?_cons, Option.some.injEq] at first
      exact marked isString byte (by rw [first]))
  simp only [readPayload, headerRead, bind, Except.bind, if_true]
  rw [List.take_left, List.drop_left]

/-- A byte string that is not one small byte is written behind a header. -/
theorem encodeBytes_of_marked
    (payload : Bytes)
    (marked : ∀ byte, payload = [byte] → ¬ byte < 0x80) :
    encodeBytes payload = header false payload.length ++ payload := by
  unfold encodeBytes
  split
  · rename_i byte
    rw [if_neg (marked byte rfl)]
    rfl
  · rfl

theorem readBytes_encodeBytes
    (payload rest : Bytes)
    (lengthLt : payload.length < 2 ^ 64) :
    readBytes (encodeBytes payload ++ rest) = .ok (payload, rest) := by
  by_cases small : ∃ byte, payload = [byte] ∧ byte < 0x80
  · obtain ⟨byte, rfl, byteLt⟩ := small
    have code : byte.toNat < 0x80 := UInt8.lt_iff_toNat_lt.mp byteLt
    simp only [encodeBytes, if_pos byteLt, readBytes, readPayload, List.cons_append,
      List.nil_append]
    unfold readHeader
    simp only [if_pos code, bind, Except.bind, if_true]
    rfl
  · have marked : ∀ byte, payload = [byte] → ¬ byte < 0x80 :=
      fun byte single byteLt => small ⟨byte, single, byteLt⟩
    rw [encodeBytes_of_marked payload marked, List.append_assoc]
    exact readPayload_header false payload rest lengthLt (fun _ => marked)

theorem readFixed_encodeBytes
    (payload rest : Bytes)
    (lengthLt : payload.length < 2 ^ 64) :
    readFixed payload.length (encodeBytes payload ++ rest) = .ok (payload, rest) := by
  simp only [readFixed, readBytes_encodeBytes payload rest lengthLt, bind, Except.bind, if_true]

/-- A short byte string takes at most one byte more than its payload. -/
theorem length_encodeBytes_le
    (payload : Bytes)
    (short : payload.length < 56) :
    (encodeBytes payload).length ≤ payload.length + 1 := by
  unfold encodeBytes header
  split
  · split <;> simp
  · simp [short]

/-! ## Numbers -/

private theorem readWord_encodeNat
    (width number : Nat)
    (rest : Bytes)
    (narrow : width < 2 ^ 64)
    (numberLt : number < 256 ^ width) :
    readWord width (encodeNat number ++ rest) = .ok (number, rest) := by
  have spelledLe := Bytes.length_minimalBE_le width number numberLt
  simp only [readWord, encodeNat, readBytes_encodeBytes _ rest (Nat.lt_of_le_of_lt spelledLe narrow),
    wordOf_minimalBE width number numberLt, bind, Except.bind]

theorem readWide_encodeNat
    (width number : Nat)
    (rest : Bytes)
    (narrow : width < 2 ^ 64)
    (numberLt : number < 256 ^ width) :
    readWide width (encodeNat number ++ rest) = .ok (number, rest) := by
  have spelledLe := Bytes.length_minimalBE_le width number numberLt
  simp only [readWide, encodeNat, readBytes_encodeBytes _ rest (Nat.lt_of_le_of_lt spelledLe narrow),
    bind, Except.bind]
  rw [if_neg (Bytes.head?_minimalBE_ne_zero number), if_neg (by omega), Bytes.toNatBE_minimalBE]

theorem readUInt64_encodeNat
    (word : UInt64)
    (rest : Bytes) :
    readUInt64 (encodeNat word.toNat ++ rest) = .ok (word, rest) := by
  have wordLt := word.toNat_lt
  simp only [readUInt64, readWord_encodeNat 8 word.toNat rest (by omega) (by omega), bind,
    Except.bind, UInt64.ofNat_toNat]

theorem readUInt128_encodeNat
    (number : Nat)
    (rest : Bytes)
    (numberLt : number < 2 ^ 128) :
    readUInt128 (encodeNat number ++ rest) = .ok (BitVec.ofNat 128 number, rest) := by
  simp only [readUInt128, readWord_encodeNat 16 number rest (by omega) (by omega), bind, Except.bind]

theorem readUInt256_encodeNat
    (word : BitVec 256)
    (rest : Bytes) :
    readUInt256 (encodeNat word.toNat ++ rest) = .ok (word, rest) := by
  have wordLt := word.isLt
  simp only [readUInt256, readWide_encodeNat 32 word.toNat rest (by omega) (by omega), bind,
    Except.bind, BitVec.ofNat_toNat, BitVec.setWidth_eq]

/-- A number of at most 55 bytes is written with one byte more than its spelling. -/
theorem length_encodeNat_le
    (width number : Nat)
    (narrow : width < 56)
    (numberLt : number < 256 ^ width) :
    (encodeNat number).length ≤ width + 1 := by
  have spelledLe := Bytes.length_minimalBE_le width number numberLt
  have encodedLe := length_encodeBytes_le (Bytes.minimalBE number) (by omega)
  rw [encodeNat]
  omega

/-! ## Lists -/

theorem readHeader_encodeList
    (payload : Bytes)
    (lengthLt : payload.length < 2 ^ 64) :
    readHeader (encodeList payload) = .ok (⟨true, payload.length⟩, payload) := by
  rw [encodeList]
  exact readHeader_header true payload.length payload lengthLt (Nat.le_refl _) (by simp)

/-- A list starts with a byte of at least `0xC0`. -/
theorem encodeList_eq_cons
    (payload : Bytes)
    (lengthLt : payload.length < 2 ^ 64) :
    ∃ first rest, encodeList payload = first :: rest ∧ 0xC0 ≤ first.toNat := by
  have spelledLe : (Bytes.minimalBE payload.length).length ≤ 8 :=
    Bytes.length_minimalBE_le 8 payload.length (by omega)
  by_cases short : payload.length < 56
  · refine ⟨UInt8.ofNat (0xC0 + payload.length), payload, ?_, ?_⟩
    · simp [encodeList, header, short]
    · rw [UInt8.toNat_ofNat']
      omega
  · refine ⟨UInt8.ofNat (0xC0 + 55 + (Bytes.minimalBE payload.length).length),
      Bytes.minimalBE payload.length ++ payload, ?_, ?_⟩
    · simp [encodeList, header, short]
    · rw [UInt8.toNat_ofNat']
      omega

end ChainTx.Evm.Rlp
