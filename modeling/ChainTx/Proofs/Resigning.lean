import ChainTx.Proofs.Cosmos.Signing
import ChainTx.Proofs.Evm.Signing

/-!
Contract: what has been signed is not signed again.

Owns: that signing refuses, in both families, every transaction that signing returned, whatever sign
doc, numbers and key come with it. The Cosmos family finds the signature in the bytes. The EVM family
finds the two numbers of the signature where an unsigned transaction has zeros.
-/

set_option autoImplicit false

namespace ChainTx

/-! ## The Cosmos family -/

/-- A transaction that is read with a signature is refused. -/
theorem Cosmos.signTx_error_of_signed
    {unsigned : UnsignedTx}
    {raw : TxRaw}
    (key : SigningKey)
    (read : decodeTxRaw unsigned.txBytes = .ok raw)
    (isSigned : raw.signatures ≠ []) :
    ∃ error, signTx unsigned key = .error error := by
  cases outcome : signTx unsigned key with
  | error error => exact ⟨error, rfl⟩
  | ok signed =>
      obtain ⟨_, _, _, _, _, passed⟩ := signTx_eq_ok_iff.mp outcome
      cases read.symm.trans passed.rawRead
      exact absurd passed.bare isSigned

/-- What signing returned is read with the signature it attached. -/
theorem Cosmos.decodeTxRaw_of_signTx
    {unsigned : UnsignedTx}
    {key : SigningKey}
    {signed : SignedTx}
    (addressable : unsigned.txBytes.Addressable)
    (signs : signTx unsigned key = .ok signed) :
    ∃ bodyBytes authInfoBytes,
      decodeTxRaw signed.txBytes = .ok ⟨bodyBytes, authInfoBytes, [signed.signature]⟩ := by
  obtain ⟨_, raw, _, _, _, passed⟩ := signTx_eq_ok_iff.mp signs
  exact ⟨raw.bodyBytes, raw.authInfoBytes, passed.decodeTxRaw_signed addressable⟩

/-! ## The EVM family -/

namespace Evm

/-- A number of 256 bits and the bytes behind it are told apart. -/
theorem Rlp.encodeNat_append_inj
    {left right : Nat}
    {behindLeft behindRight : Bytes}
    (leftLt : left < 2 ^ 256)
    (rightLt : right < 2 ^ 256)
    (same : encodeNat left ++ behindLeft = encodeNat right ++ behindRight) :
    left = right ∧ behindLeft = behindRight := by
  have leftRead := readWide_encodeNat 32 left behindLeft (by decide) (by omega)
  have rightRead := readWide_encodeNat 32 right behindRight (by decide) (by omega)
  rw [same, rightRead, Except.ok.injEq, Prod.mk.injEq] at leftRead
  exact ⟨leftRead.1.symm, leftRead.2.symm⟩

namespace LegacyTx

/-- What is read as an unsigned transaction has the chain id and two zeros behind the six shared
fields, and nothing else. -/
theorem trailer_of_decodeUnsigned
    {fields tx : LegacyTx}
    {behind : Bytes}
    (itemsLt : (fields.encodeFields ++ behind).length < 2 ^ 64)
    (read : decodeUnsigned (Rlp.encodeList (fields.encodeFields ++ behind)) = .ok tx) :
    ∃ chainId, behind = encodeTrailer (some chainId) := by
  have inputLe := fields.length_input_le_encodeFields
  have inputLt : fields.input.length < 2 ^ 64 := by
    rw [List.length_append] at itemsLt
    omega
  simp only [decodeUnsigned, Rlp.readHeader_encodeList _ itemsLt, mapError_ok, bind_eq_ok_iff,
    Except.ok.injEq, exists_eq_left', Bool.true_eq_false, if_false, ne_eq, not_true_eq_false,
    readFields_encodeFields fields behind inputLt, mapError_eq_ok_iff, Prod.exists] at read
  obtain ⟨chainId, afterChain, chainRead, r, afterR, rRead, s, afterS, sRead, read⟩ := read
  split at read
  · cases read
  · rename_i zeros
    split at read
    · cases read
    · rename_i nothing
      simp only [not_or, Classical.not_not] at zeros nothing
      obtain ⟨rfl, rfl⟩ := zeros
      refine ⟨chainId, ?_⟩
      rw [Rlp.eq_encodeNat_of_readUInt64 chainRead, Rlp.eq_encodeNat_of_readUInt64 rRead,
        Rlp.eq_encodeNat_of_readUInt64 sRead, nothing, List.append_nil, encodeTrailer,
        List.append_assoc]
      rfl

/-- A signed encoding is read as an unsigned one only if both numbers of the signature are zero. -/
theorem zeros_of_decodeUnsigned_encode
    (signed : SignedLegacyTx)
    {tx : LegacyTx}
    (addressable : signed.tx.encodeUnsigned.Addressable)
    (read : decodeUnsigned signed.encode = .ok tx) :
    signed.signature.r = 0 ∧ signed.signature.s = 0 := by
  have itemsLt := SignedLegacyTx.length_items_lt signed addressable
  have recoveryLt := recoveryNumber_lt signed.tx.chainId signed.signature.yIsOdd
  have rLt := signed.signature.r.isLt
  have sLt := signed.signature.s.isLt
  rw [SignedLegacyTx.encode] at read
  simp only [List.append_assoc] at itemsLt read
  obtain ⟨chainId, trailer⟩ := trailer_of_decodeUnsigned itemsLt read
  have chainIdLt := chainId.toNat_lt
  -- Number by number: the recovery number stands where the chain id does.
  rw [encodeTrailer, List.append_assoc] at trailer
  obtain ⟨-, behindChain⟩ := Rlp.encodeNat_append_inj (by omega) (by omega) trailer
  obtain ⟨rZero, behindR⟩ := Rlp.encodeNat_append_inj (by omega) (by decide) behindChain
  rw [← List.append_nil (Rlp.encodeNat 0), ← List.append_nil (Rlp.encodeNat _)] at behindR
  obtain ⟨sZero, -⟩ := Rlp.encodeNat_append_inj (by omega) (by decide) behindR
  exact ⟨BitVec.eq_of_toNat_eq rZero, BitVec.eq_of_toNat_eq sZero⟩

end LegacyTx

/-- A signed encoding of a signature with a number other than zero is refused. -/
theorem decodeUnsigned_error_of_signed
    (tx : LegacyTx)
    (signature : Ecdsa.Signature)
    (addressable : tx.encodeUnsigned.Addressable)
    (nonzero : signature.r ≠ 0 ∨ signature.s ≠ 0) :
    ∃ error, decodeUnsigned (SignedLegacyTx.mk tx signature).encode = .error error := by
  cases outcome : decodeUnsigned (SignedLegacyTx.mk tx signature).encode with
  | error error => exact ⟨error, rfl⟩
  | ok read =>
      obtain ⟨rZero, sZero⟩ := LegacyTx.zeros_of_decodeUnsigned_encode ⟨tx, signature⟩ addressable
        (mapError_eq_ok_iff.mp outcome)
      exact absurd sZero (nonzero.resolve_left (not_not_intro rZero))

/-- What signing returned is refused by the reader, and so by signing. -/
theorem signTx_error_of_signTx
    {unsigned again : UnsignedTx}
    {key : SigningKey}
    {signed : SignedTx}
    (otherKey : SigningKey)
    (addressable : unsigned.txBytes.Addressable)
    (signs : signTx unsigned key = .ok signed)
    (sameBytes : again.txBytes = signed.txBytes) :
    ∃ error, signTx again otherKey = .error error := by
  obtain ⟨tx, privateKey, passed⟩ := signTx_eq_ok_iff.mp signs
  obtain rfl := passed.attached
  rw [← (encodeUnsigned_of_decodeUnsigned passed.txRead).2] at addressable
  obtain ⟨refusal, refused⟩ :=
    decodeUnsigned_error_of_signed tx _ addressable (.inl passed.rNonzero)
  cases outcome : signTx again otherKey with
  | error error => exact ⟨error, rfl⟩
  | ok signedAgain =>
      obtain ⟨_, _, passedAgain⟩ := signTx_eq_ok_iff.mp outcome
      have readAgain := passedAgain.txRead
      rw [sameBytes, refused] at readAgain
      cases readAgain

end Evm

/-! ## Both families -/

/-- What signing returned is an error to sign again, in either family and with whatever comes with it.
The EVM family refuses already to read it: a transaction on a chain with a signature whose numbers
are not both zero is not read as an unsigned one. -/
theorem signed_not_signed_again :
    (∀ (unsigned : UnsignedTx) (key : SigningKey) (signed : SignedTx),
        unsigned.txBytes.Addressable →
        Cosmos.signTx unsigned key = .ok signed →
        ∀ (signDoc : Bytes) (accountNumber sequence : UInt64) (otherKey : SigningKey),
          ∃ error,
            Cosmos.signTx ⟨signed.txBytes, signDoc, accountNumber, sequence⟩ otherKey
              = .error error)
      ∧ (∀ (unsigned : UnsignedTx) (key : SigningKey) (signed : SignedTx),
        unsigned.txBytes.Addressable →
        Evm.signTx unsigned key = .ok signed →
        ∀ (signDoc : Bytes) (accountNumber sequence : UInt64) (otherKey : SigningKey),
          ∃ error,
            Evm.signTx ⟨signed.txBytes, signDoc, accountNumber, sequence⟩ otherKey
              = .error error)
      ∧ ∀ (tx : Evm.LegacyTx) (signature : Ecdsa.Signature),
        (∃ chainId, tx.chainId = some chainId) →
        tx.encodeUnsigned.Addressable →
        signature.r ≠ 0 ∨ signature.s ≠ 0 →
        ∃ error,
          Evm.decodeUnsigned (Evm.SignedLegacyTx.mk tx signature).encode = .error error := by
  refine ⟨?_, ?_, ?_⟩
  · intro unsigned key signed addressable signs signDoc accountNumber sequence otherKey
    obtain ⟨bodyBytes, authInfoBytes, read⟩ := Cosmos.decodeTxRaw_of_signTx addressable signs
    exact Cosmos.signTx_error_of_signed otherKey read (List.cons_ne_nil _ _)
  · intro unsigned key signed addressable signs signDoc accountNumber sequence otherKey
    exact Evm.signTx_error_of_signTx otherKey addressable signs rfl
  · intro tx signature _ addressable nonzero
    exact Evm.decodeUnsigned_error_of_signed tx signature addressable nonzero

/-- A signature of the largest numbers whose second number is zero. -/
def halfZeroSignature : Ecdsa.Signature :=
  ⟨1, 0, false⟩

/-- Loose bytes of the one family and the largest numbers of the other, signed. -/
theorem samples_not_signed_again :
    (∃ signed error,
        Cosmos.signTx Cosmos.looseUnsigned .one = .ok signed
          ∧ Cosmos.signTx ⟨signed.txBytes, Cosmos.looseUnsigned.signDoc, 7, 3⟩ .one
            = .error error)
      ∧ (∃ signed error,
        Evm.signTx Evm.largestNumbersUnsigned .one = .ok signed
          ∧ Evm.signTx ⟨signed.txBytes, Evm.largestNumbersUnsigned.signDoc, 0, 0⟩ .one
            = .error error)
      ∧ ∃ error,
        Evm.decodeUnsigned (Evm.SignedLegacyTx.mk Evm.largestNumbers halfZeroSignature).encode
          = .error error := by
  obtain ⟨cosmosRefuses, evmRefuses, readerRefuses⟩ := signed_not_signed_again
  refine ⟨?_, ?_, ?_⟩
  · obtain ⟨signed, signs⟩ := Cosmos.signTx_looseUnsigned
    obtain ⟨error, refused⟩ := cosmosRefuses Cosmos.looseUnsigned .one signed
      (by rw [Bytes.Addressable]; decide) signs Cosmos.looseUnsigned.signDoc 7 3 .one
    exact ⟨signed, error, signs, refused⟩
  · obtain ⟨signed, signs⟩ := Evm.signTx_largestNumbers
    obtain ⟨error, refused⟩ := evmRefuses Evm.largestNumbersUnsigned .one signed
      (by rw [Bytes.Addressable]; decide) signs Evm.largestNumbersUnsigned.signDoc 0 0 .one
    exact ⟨signed, error, signs, refused⟩
  · have addressable : Evm.largestNumbers.encodeUnsigned.Addressable := by
      rw [Evm.encodeUnsigned_largestNumbers, Bytes.Addressable]
      decide
    exact readerRefuses Evm.largestNumbers halfZeroSignature ⟨_, rfl⟩ addressable
      (.inl (by decide))

end ChainTx
