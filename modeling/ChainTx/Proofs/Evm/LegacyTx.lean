import ChainTx.Evm.Envelope
import ChainTx.Proofs.Checks
import ChainTx.Proofs.Evm.Rlp

/-!
Contract: legacy transactions survive both of their encodings.

Owns:
- the law of the six fields that both encodings share, with arbitrary bytes behind them;
- the law of the unsigned encoding and its reader;
- the law of recovery numbers, and of the signed encoding and its reader.

The encodings are as long as the call data is, so the laws ask that the bytes fit in memory.
-/

set_option autoImplicit false

namespace ChainTx.Evm

@[simp] theorem Address.length_bytes (address : Address) :
    address.bytes.length = 20 := by
  rw [Address.bytes, Bytes.length_ofNatBE]

theorem Address.ofBytes_bytes (address : Address) :
    Address.ofBytes address.bytes = address := by
  have addressLt := address.isLt
  rw [Address.ofBytes, Address.bytes, Bytes.toNatBE_ofNatBE 20 address.toNat (by omega),
    BitVec.ofNat_toNat, BitVec.setWidth_eq]

namespace LegacyTx

/-! ## The shared fields -/

/-- A recipient is written as one byte, or as the 20 bytes of its address behind one byte. -/
theorem encodeRecipient_some (address : Address) :
    encodeRecipient (some address) = 0x94 :: address.bytes := by
  have marked : ∀ byte, address.bytes = [byte] → ¬ byte < 0x80 := by
    intro byte single
    have length := address.length_bytes
    rw [single] at length
    simp at length
  rw [encodeRecipient, Rlp.encodeBytes_of_marked _ marked, Address.length_bytes, Rlp.header,
    if_pos (by decide), List.singleton_append]
  rfl

private theorem readRecipient_encodeRecipient
    (recipient : Option Address)
    (rest : Bytes) :
    readRecipient (encodeRecipient recipient ++ rest) = .ok (recipient, rest) := by
  cases recipient with
  | none => rfl
  | some address =>
      have fixed := Rlp.readFixed_encodeBytes address.bytes rest (by simp)
      rw [Address.length_bytes] at fixed
      change Rlp.readFixed 20 (encodeRecipient (some address) ++ rest) = _ at fixed
      rw [encodeRecipient_some, List.cons_append] at fixed ⊢
      rw [readRecipient, if_neg (by decide), fixed]
      simp only [bind, Except.bind, Address.ofBytes_bytes]

/-- Reading the shared fields gives what was written, but for the chain id. -/
theorem readFields_encodeFields
    (tx : LegacyTx)
    (rest : Bytes)
    (inputLt : tx.input.length < 2 ^ 64) :
    readFields (tx.encodeFields ++ rest) = .ok ({ tx with chainId := none }, rest) := by
  have price := tx.gasPrice.isLt
  simp only [readFields, encodeFields, List.append_assoc, Rlp.readUInt64_encodeNat,
    Rlp.readUInt128_encodeNat _ _ price, readRecipient_encodeRecipient,
    Rlp.readUInt256_encodeNat, Rlp.readBytes_encodeBytes tx.input rest inputLt, bind, Except.bind,
    BitVec.ofNat_toNat, BitVec.setWidth_eq]

theorem length_input_le_encodeFields (tx : LegacyTx) :
    tx.input.length ≤ tx.encodeFields.length := by
  have inputLe : tx.input.length ≤ (Rlp.encodeBytes tx.input).length := by
    unfold Rlp.encodeBytes
    split
    · rename_i byte single
      split <;> simp [single]
    · simp
  simp only [encodeFields, List.length_append]
  omega

private theorem length_payload_le_encodeUnsigned (tx : LegacyTx) :
    (tx.encodeFields ++ encodeTrailer tx.chainId).length ≤ tx.encodeUnsigned.length := by
  rw [encodeUnsigned, Rlp.encodeList]
  exact (List.sublist_append_right _ _).length_le

/-! ## The unsigned encoding -/

/-- Reading the unsigned encoding of a transaction on a chain gives the transaction. -/
theorem decodeUnsigned_encodeUnsigned
    (tx : LegacyTx)
    (chainId : UInt64)
    (onChain : tx.chainId = some chainId)
    (addressable : tx.encodeUnsigned.Addressable) :
    decodeUnsigned tx.encodeUnsigned = .ok tx := by
  have payloadLe := length_payload_le_encodeUnsigned tx
  have inputLe := length_input_le_encodeFields tx
  rw [Bytes.Addressable] at addressable
  have payloadLt : (tx.encodeFields ++ encodeTrailer tx.chainId).length < 2 ^ 64 := by omega
  have inputLt : tx.input.length < 2 ^ 64 := by
    rw [List.length_append] at payloadLe
    omega
  have fieldsRead := readFields_encodeFields tx (encodeTrailer tx.chainId) inputLt
  have trailer : encodeTrailer tx.chainId
      = Rlp.encodeNat chainId.toNat
        ++ (Rlp.encodeNat (0 : UInt64).toNat ++ (Rlp.encodeNat (0 : UInt64).toNat ++ [])) := by
    rw [onChain, encodeTrailer, List.append_assoc, List.append_nil]
    rfl
  have sameTx : { tx with chainId := some chainId } = tx := by
    rw [← onChain]
  simp only [decodeUnsigned, encodeUnsigned, Rlp.readHeader_encodeList _ payloadLt, fieldsRead,
    mapError_ok, bind, Except.bind]
  simp only [trailer, Rlp.readUInt64_encodeNat, mapError_ok]
  simp [sameTx]

/-! ## Recovery numbers -/

theorem recoveryNumber_lt
    (chainId : Option UInt64)
    (yIsOdd : Bool) :
    recoveryNumber chainId yIsOdd < 2 ^ 66 := by
  have parity : yIsOdd.toNat ≤ 1 := Bool.toNat_le yIsOdd
  cases chainId with
  | none =>
      simp only [recoveryNumber]
      omega
  | some chainId =>
      have chainIdLt := chainId.toNat_lt
      simp only [recoveryNumber]
      omega

/-- A recovery number tells its parity and its chain. -/
theorem ofRecoveryNumber?_recoveryNumber
    (chainId : Option UInt64)
    (yIsOdd : Bool) :
    ofRecoveryNumber? (recoveryNumber chainId yIsOdd) = some (yIsOdd, chainId) := by
  cases chainId with
  | none => cases yIsOdd <;> rfl
  | some chainId =>
      have chainIdLt := chainId.toNat_lt
      have parity : yIsOdd.toNat ≤ 1 := Bool.toNat_le yIsOdd
      have half : (35 + 2 * chainId.toNat + yIsOdd.toNat - 35) / 2 = chainId.toNat := by omega
      have odd : (35 + 2 * chainId.toNat + yIsOdd.toNat - 35) % 2 = yIsOdd.toNat := by omega
      rw [recoveryNumber, ofRecoveryNumber?, if_neg (by omega), if_neg (by omega),
        if_neg (by omega)]
      simp only [half, odd, if_pos chainIdLt, UInt64.ofNat_toNat]
      cases yIsOdd <;> rfl

private theorem readRecovery_encodeNat
    (chainId : Option UInt64)
    (yIsOdd : Bool)
    (rest : Bytes) :
    readRecovery (Rlp.encodeNat (recoveryNumber chainId yIsOdd) ++ rest)
      = .ok ((yIsOdd, chainId), rest) := by
  have numberLt := recoveryNumber_lt chainId yIsOdd
  have numberRead :=
    Rlp.readUInt128_encodeNat (recoveryNumber chainId yIsOdd) rest (by omega)
  have back : (BitVec.ofNat 128 (recoveryNumber chainId yIsOdd)).toNat
      = recoveryNumber chainId yIsOdd := by
    rw [BitVec.toNat_ofNat]
    omega
  simp only [readRecovery, numberRead, bind, Except.bind, back, ofRecoveryNumber?_recoveryNumber]

end LegacyTx

/-! ## The signed encoding -/

namespace SignedLegacyTx

/-- The items of a signed encoding take up fewer than `2 ^ 64` bytes if the unsigned encoding fits
in memory: a signature adds less than a hundred bytes. -/
theorem length_items_lt
    (signed : SignedLegacyTx)
    (addressable : signed.tx.encodeUnsigned.Addressable) :
    (signed.tx.encodeFields
        ++ Rlp.encodeNat (LegacyTx.recoveryNumber signed.tx.chainId signed.signature.yIsOdd)
        ++ Rlp.encodeNat signed.signature.r.toNat
        ++ Rlp.encodeNat signed.signature.s.toNat).length < 2 ^ 64 := by
  have payloadLe := signed.tx.length_payload_le_encodeUnsigned
  have recoveryLt :=
    LegacyTx.recoveryNumber_lt signed.tx.chainId signed.signature.yIsOdd
  have recoveryLe := Rlp.length_encodeNat_le 9 _ (by omega)
    (show LegacyTx.recoveryNumber signed.tx.chainId signed.signature.yIsOdd < 256 ^ 9 by omega)
  have rLt := signed.signature.r.isLt
  have rLe := Rlp.length_encodeNat_le 32 signed.signature.r.toNat (by omega) (by omega)
  have sLt := signed.signature.s.isLt
  have sLe := Rlp.length_encodeNat_le 32 signed.signature.s.toNat (by omega) (by omega)
  rw [Bytes.Addressable] at addressable
  simp only [List.length_append] at payloadLe ⊢
  omega

/-- Reading the signed encoding of a transaction gives the transaction and leaves nothing. -/
theorem read_encode
    (signed : SignedLegacyTx)
    (addressable : signed.tx.encodeUnsigned.Addressable) :
    read signed.encode = .ok (signed, []) := by
  have itemsLt := length_items_lt signed addressable
  have payloadLe := signed.tx.length_payload_le_encodeUnsigned
  have inputLe := signed.tx.length_input_le_encodeFields
  rw [Bytes.Addressable] at addressable
  have inputLt : signed.tx.input.length < 2 ^ 64 := by
    rw [List.length_append] at payloadLe
    omega
  have nothing : Rlp.encodeNat signed.signature.s.toNat
      = Rlp.encodeNat signed.signature.s.toNat ++ [] := by
    rw [List.append_nil]
  simp only [read, encode, Rlp.readHeader_encodeList _ itemsLt, bind, Except.bind]
  rw [if_neg (by simp), List.append_assoc, List.append_assoc,
    LegacyTx.readFields_encodeFields _ _ inputLt, nothing]
  simp only [LegacyTx.readRecovery_encodeNat, Rlp.readUInt256_encodeNat]
  simp

theorem decode_encode
    (signed : SignedLegacyTx)
    (addressable : signed.tx.encodeUnsigned.Addressable) :
    decode signed.encode = .ok signed := by
  obtain ⟨first, rest, encoded, firstGe⟩ :=
    Rlp.encodeList_eq_cons _ (length_items_lt signed addressable)
  have whole : signed.encode = first :: rest := encoded
  have noType : ¬ first < 0x80 := by
    rw [UInt8.lt_iff_toNat_lt]
    simp only [UInt8.reduceToNat]
    omega
  rw [whole, decode, if_neg noType, ← whole, decodeBare, read_encode signed addressable]
  rfl

end SignedLegacyTx

end ChainTx.Evm
