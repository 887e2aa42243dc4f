import ChainTx.Proofs.Evm.Signing

/-!
Contract: how long the encodings of the EVM family are, and that a signature makes a transaction no
shorter.

Owns:
- that spellings, headers, numbers and lists of larger content are no shorter, whatever their size;
- the signed encoding of a transaction on a chain beside its unsigned one: what is read back from
  it, the recovery number that is written into it, and its length.

## Why the lengths can be compared

Both encodings are one list that opens with the same six fields. Behind them the unsigned one has
the chain id and two zeros, the signed one the recovery number and the two numbers of the signature.
A recovery number is larger than its chain id, and no number takes fewer bytes than zero does, so
every item is at least as long as the one in its place. What is left is that lengths grow with
numbers across all forms: a byte that stands for itself, a short header, a header with a length of
its own.
-/

set_option autoImplicit false

namespace ChainTx.Evm

/-! ## Spellings -/

private theorem length_minimalBE_of_pos
    {number : Nat}
    (positive : 0 < number) :
    (Bytes.minimalBE number).length = (Bytes.minimalBE (number / 256)).length + 1 := by
  rw [Bytes.minimalBE, if_neg (by omega), List.length_append, List.length_singleton]

/-- A larger number has no shorter spelling. -/
theorem length_minimalBE_mono
    {small large : Nat}
    (le : small ≤ large) :
    (Bytes.minimalBE small).length ≤ (Bytes.minimalBE large).length := by
  induction large using Nat.strongRecOn generalizing small with
  | ind large inductionHypothesis =>
      by_cases zero : small = 0
      · rw [zero, Bytes.minimalBE, if_pos rfl]
        exact Nat.zero_le _
      · have quotientLe : small / 256 ≤ large / 256 := Nat.div_le_div_right le
        have shorter := inductionHypothesis (large / 256) (by omega) quotientLe
        have largePos : 0 < large := by omega
        rw [length_minimalBE_of_pos (Nat.pos_of_ne_zero zero), length_minimalBE_of_pos largePos]
        exact Nat.succ_le_succ shorter

/-- A number below 256 other than zero is spelled by one byte. -/
theorem minimalBE_of_lt
    {number : Nat}
    (positive : 0 < number)
    (numberLt : number < 256) :
    Bytes.minimalBE number = [UInt8.ofNat number] := by
  have quotient : number / 256 = 0 := by omega
  have remainder : number % 256 = number := by omega
  rw [Bytes.minimalBE, if_neg (by omega), quotient, remainder, Bytes.minimalBE, if_pos rfl]
  rfl

namespace Rlp

/-! ## Headers and numbers -/

private theorem length_header_mono
    (isList : Bool)
    {small large : Nat}
    (le : small ≤ large) :
    (header isList small).length ≤ (header isList large).length := by
  unfold header
  by_cases smallShort : small < 56
  · by_cases largeShort : large < 56
    · simp [smallShort, largeShort]
    · simp [smallShort, largeShort]
  · have spelled := length_minimalBE_mono le
    have largeLong : ¬ large < 56 := by omega
    simpa [smallShort, largeLong] using spelled

/-- A number below 128 takes one byte. -/
theorem length_encodeNat_of_lt
    {number : Nat}
    (numberLt : number < 128) :
    (encodeNat number).length = 1 := by
  by_cases zero : number = 0
  · rw [zero, encodeNat, Bytes.minimalBE, if_pos rfl]
    rfl
  · have small : UInt8.ofNat number < 0x80 := by
      rw [UInt8.lt_iff_toNat_lt, UInt8.toNat_ofNat']
      simp only [UInt8.reduceToNat]
      omega
    rw [encodeNat, minimalBE_of_lt (by omega) (by omega)]
    simp [encodeBytes, small]

/-- Any other number takes a header in front of its spelling. -/
theorem length_encodeNat_of_ge
    {number : Nat}
    (numberGe : 128 ≤ number) :
    (encodeNat number).length
      = (header false (Bytes.minimalBE number).length).length
        + (Bytes.minimalBE number).length := by
  have marked : ∀ byte, Bytes.minimalBE number = [byte] → ¬ byte < 0x80 := by
    intro byte single byteLt
    have spelled := Bytes.toNatBE_minimalBE number
    rw [single] at spelled
    have byteEq : byte.toNat = number := by
      simpa [Bytes.toNatBE] using spelled
    rw [UInt8.lt_iff_toNat_lt] at byteLt
    simp only [UInt8.reduceToNat] at byteLt
    omega
  rw [encodeNat, encodeBytes_of_marked _ marked, List.length_append]

private theorem length_header_pos
    (isList : Bool)
    (length : Nat) :
    1 ≤ (header isList length).length := by
  unfold header
  by_cases short : length < 56
  · simp [short]
  · simp [short]

/-- A number of 128 or more takes more than one byte. -/
theorem one_lt_length_encodeNat
    {number : Nat}
    (numberGe : 128 ≤ number) :
    1 < (encodeNat number).length := by
  have headerPos := length_header_pos false (Bytes.minimalBE number).length
  have spelledPos : 0 < (Bytes.minimalBE number).length :=
    List.length_pos_iff.mpr (Bytes.minimalBE_ne_nil number (by omega))
  rw [length_encodeNat_of_ge numberGe]
  omega

private theorem one_le_length_encodeNat (number : Nat) :
    1 ≤ (encodeNat number).length := by
  by_cases small : number < 128
  · exact Nat.le_of_eq (length_encodeNat_of_lt small).symm
  · exact Nat.le_of_lt (one_lt_length_encodeNat (by omega))

/-- A larger number takes no fewer bytes. -/
theorem length_encodeNat_mono
    {small large : Nat}
    (le : small ≤ large) :
    (encodeNat small).length ≤ (encodeNat large).length := by
  by_cases smallLt : small < 128
  · rw [length_encodeNat_of_lt smallLt]
    exact one_le_length_encodeNat large
  · have spelled := length_minimalBE_mono le
    have headers := length_header_mono false spelled
    rw [length_encodeNat_of_ge (by omega), length_encodeNat_of_ge (by omega)]
    exact Nat.add_le_add headers spelled

/-! ## Lists -/

private theorem length_encodeList (payload : Bytes) :
    (encodeList payload).length = (header true payload.length).length + payload.length := by
  rw [encodeList, List.length_append]

/-- A longer payload makes a longer list, by no fewer bytes than it is longer itself. -/
theorem length_encodeList_add_le
    {short long : Bytes}
    {count : Nat}
    (le : short.length + count ≤ long.length) :
    (encodeList short).length + count ≤ (encodeList long).length := by
  have headers : (header true short.length).length ≤ (header true long.length).length :=
    length_header_mono true (by omega)
  rw [length_encodeList, length_encodeList]
  omega

end Rlp

/-! ## The two encodings of a transaction -/

namespace LegacyTx

/-- A recovery number fits into 128 bits: computed there, it does not wrap. -/
theorem toNat_recoveryWord
    (chainId : UInt64)
    (yIsOdd : Bool) :
    (35 + 2 * BitVec.setWidth 128 chainId.toBitVec
        + BitVec.setWidth 128 (BitVec.ofBool yIsOdd) : BitVec 128).toNat
      = recoveryNumber (some chainId) yIsOdd := by
  have chainIdLt := chainId.toNat_lt
  have parity : yIsOdd.toNat ≤ 1 := Bool.toNat_le yIsOdd
  simp only [recoveryNumber, BitVec.toNat_add, BitVec.toNat_mul, BitVec.toNat_setWidth,
    BitVec.toNat_ofBool, UInt64.toNat_toBitVec, BitVec.reduceToNat]
  omega

private theorem length_encodeTrailer (chainId : UInt64) :
    (encodeTrailer (some chainId)).length = (Rlp.encodeNat chainId.toNat).length + 2 := by
  have zero : (Rlp.encodeNat 0).length = 1 := Rlp.length_encodeNat_of_lt (by omega)
  simp only [encodeTrailer, List.length_append, zero]

end LegacyTx

namespace SignedLegacyTx

/-- A signature makes a transaction on a chain longer by at least the bytes that its two numbers
take beyond one each. -/
theorem length_encodeUnsigned_add_le
    {tx : LegacyTx}
    {chainId : UInt64}
    (onChain : tx.chainId = some chainId)
    (signature : Ecdsa.Signature) :
    tx.encodeUnsigned.length + ((Rlp.encodeNat signature.r.toNat).length - 1)
        + ((Rlp.encodeNat signature.s.toNat).length - 1)
      ≤ (SignedLegacyTx.mk tx signature).encode.length := by
  have rPos := Rlp.one_le_length_encodeNat signature.r.toNat
  have sPos := Rlp.one_le_length_encodeNat signature.s.toNat
  have recoveryGe : chainId.toNat ≤ LegacyTx.recoveryNumber (some chainId) signature.yIsOdd := by
    rw [LegacyTx.recoveryNumber]
    omega
  have recoveryLonger := Rlp.length_encodeNat_mono recoveryGe
  rw [LegacyTx.encodeUnsigned, encode, Nat.add_assoc]
  apply Rlp.length_encodeList_add_le
  simp only [onChain, List.length_append, LegacyTx.length_encodeTrailer]
  omega

/-- The signed encoding of a transaction on a chain, for every chain id and every signature. It is
read back as the transaction and the signature. The recovery number in it is 35, twice the chain id
and the parity, and has 128 bits. It is no shorter than the unsigned encoding, also with a number
that is zero, and it is longer if one of the two numbers is 128 or more. -/
theorem readable_and_longer
    (tx : LegacyTx)
    (chainId : UInt64)
    (signature : Ecdsa.Signature)
    (onChain : tx.chainId = some chainId)
    (addressable : tx.encodeUnsigned.Addressable) :
    decodeSigned (SignedLegacyTx.mk tx signature).encode = .ok ⟨tx, signature⟩
      ∧ LegacyTx.recoveryNumber tx.chainId signature.yIsOdd
        = 35 + 2 * chainId.toNat + signature.yIsOdd.toNat
      ∧ (35 + 2 * BitVec.setWidth 128 chainId.toBitVec
          + BitVec.setWidth 128 (BitVec.ofBool signature.yIsOdd) : BitVec 128).toNat
        = LegacyTx.recoveryNumber tx.chainId signature.yIsOdd
      ∧ tx.encodeUnsigned.length ≤ (SignedLegacyTx.mk tx signature).encode.length
      ∧ (128 ≤ signature.r.toNat ∨ 128 ≤ signature.s.toNat →
        tx.encodeUnsigned.length < (SignedLegacyTx.mk tx signature).encode.length) := by
  have longer := length_encodeUnsigned_add_le onChain signature
  refine ⟨decodeSigned_encode _ addressable, ?_, ?_, by omega, ?_⟩
  · rw [onChain, LegacyTx.recoveryNumber]
  · rw [onChain]
    exact LegacyTx.toNat_recoveryWord chainId signature.yIsOdd
  · rintro (rLarge | sLarge)
    · have rLong := Rlp.one_lt_length_encodeNat rLarge
      omega
    · have sLong := Rlp.one_lt_length_encodeNat sLarge
      omega

/-- A signature of which one number takes one byte and the other two. -/
def smallSignature : Ecdsa.Signature :=
  ⟨0x7f, 0x80, true⟩

/-- The largest chain id, and the least signature that makes a transaction longer. -/
theorem largestNumbers_readable_and_longer :
    largestNumbers.chainId = some 0xffffffffffffffff
      ∧ largestNumbers.encodeUnsigned.Addressable
      ∧ 128 ≤ smallSignature.s.toNat
      ∧ decodeSigned (SignedLegacyTx.mk largestNumbers smallSignature).encode
        = .ok ⟨largestNumbers, smallSignature⟩
      ∧ LegacyTx.recoveryNumber largestNumbers.chainId smallSignature.yIsOdd = 2 ^ 65 + 34
      ∧ largestNumbers.encodeUnsigned.length
        < (SignedLegacyTx.mk largestNumbers smallSignature).encode.length := by
  have addressable : largestNumbers.encodeUnsigned.Addressable := by
    rw [encodeUnsigned_largestNumbers, Bytes.Addressable]
    decide
  obtain ⟨read, recovery, -, -, longer⟩ :=
    readable_and_longer largestNumbers 0xffffffffffffffff smallSignature rfl addressable
  exact ⟨rfl, addressable, by decide, read, recovery, longer (.inr (by decide))⟩

end SignedLegacyTx

end ChainTx.Evm
