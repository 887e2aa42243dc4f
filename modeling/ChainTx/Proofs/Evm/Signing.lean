import ChainTx.Proofs.Evm.Strictness

/-!
Contract: what a signature of the EVM family covers.

Owns:
- when signing succeeds, and with what;
- the 65 bytes of a signature;
- of every transaction that gets signed, also of bytes that no builder made: the sign doc is the
  hash of these bytes, and the signed bytes carry the same transaction.

Does not own: the arithmetic of the curve, which may give a signature with a number that is zero.
-/

set_option autoImplicit false

namespace ChainTx.Evm

/-! ## Success -/

private theorem Keccak.length_hash (message : Bytes) :
    (Keccak.hash message).length = 32 := by
  simp [Keccak.hash, Keccak.bytesOf]

theorem LegacyTx.encodeUnsigned_ne_nil (tx : LegacyTx) :
    tx.encodeUnsigned ≠ [] := by
  simp only [encodeUnsigned, Rlp.encodeList, Rlp.header]
  split <;> simp

theorem decodeSigned_encode
    (signed : SignedLegacyTx)
    (addressable : signed.tx.encodeUnsigned.Addressable) :
    decodeSigned signed.encode = .ok signed := by
  simp only [decodeSigned, SignedLegacyTx.decode_encode signed addressable, mapError_ok]

/-- What holds of bytes and a key that are signed: every check of signing passes, for the transaction
and the private key that are read, and the signature is attached to that transaction. -/
structure Signs (unsigned : UnsignedTx) (key : SigningKey) (tx : LegacyTx)
    (privateKey : Ecdsa.PrivateKey) (signed : SignedTx) : Prop where
  txFull : unsigned.txBytes ≠ []
  docFull : unsigned.signDoc ≠ []
  keyFull : key.bytes ≠ []
  docLength : unsigned.signDoc.length = 32
  txRead : decodeUnsigned unsigned.txBytes = .ok tx
  hashed : tx.signingHash = unsigned.signDoc
  loaded : SigningKey.load .evm key.bytes = .ok privateKey
  rNonzero : (Ecdsa.sign privateKey unsigned.signDoc).r ≠ 0
  sNonzero : (Ecdsa.sign privateKey unsigned.signDoc).s ≠ 0
  attached : signed
    = ⟨(SignedLegacyTx.mk tx (Ecdsa.sign privateKey unsigned.signDoc)).encode,
        signatureBytes (Ecdsa.sign privateKey unsigned.signDoc), privateKey.publicKey.compressed⟩

/-- When signing succeeds, and with what. -/
theorem signTx_eq_ok_iff
    {unsigned : UnsignedTx}
    {key : SigningKey}
    {signed : SignedTx} :
    signTx unsigned key = .ok signed ↔ ∃ tx privateKey, Signs unsigned key tx privateKey signed := by
  simp only [signTx, bind_eq_ok_iff, SigningKey.require_eq_ok_iff, exists_const, bne_iff_ne,
    beq_iff_eq, Bool.and_eq_true, Except.ok.injEq]
  constructor
  · rintro ⟨txFull, docFull, keyFull, docLength, tx, txRead, hashed, privateKey, loaded,
      ⟨rNonzero, sNonzero⟩, rfl⟩
    exact ⟨tx, privateKey,
      { txFull, docFull, keyFull, docLength, txRead, hashed, loaded, rNonzero, sNonzero
        attached := rfl }⟩
  · rintro ⟨tx, privateKey, signs⟩
    exact ⟨signs.txFull, signs.docFull, signs.keyFull, signs.docLength, tx, signs.txRead,
      signs.hashed, privateKey, signs.loaded, ⟨signs.rNonzero, signs.sNonzero⟩,
      signs.attached.symm⟩

/-- A transaction whose sign doc is its hash is signed by every key that loads, if neither number of
the signature is zero. -/
theorem signTx_of_decoded
    {unsigned : UnsignedTx}
    {tx : LegacyTx}
    {key : SigningKey}
    {privateKey : Ecdsa.PrivateKey}
    (full : unsigned.txBytes ≠ [])
    (decoded : decodeUnsigned unsigned.txBytes = .ok tx)
    (hashed : tx.signingHash = unsigned.signDoc)
    (loaded : SigningKey.load .evm key.bytes = .ok privateKey)
    (rNonzero : (Ecdsa.sign privateKey unsigned.signDoc).r ≠ 0)
    (sNonzero : (Ecdsa.sign privateKey unsigned.signDoc).s ≠ 0) :
    signTx unsigned key
      = .ok ⟨(SignedLegacyTx.mk tx (Ecdsa.sign privateKey unsigned.signDoc)).encode,
          signatureBytes (Ecdsa.sign privateKey unsigned.signDoc),
          privateKey.publicKey.compressed⟩ := by
  have docLength : unsigned.signDoc.length = 32 := by
    rw [← hashed]
    exact Keccak.length_hash tx.encodeUnsigned
  have docFull : unsigned.signDoc ≠ [] := by
    intro empty
    simp [empty] at docLength
  have keyFull : key.bytes ≠ [] := by
    intro empty
    have keyLength := (SigningKey.load_eq_ok_iff.mp loaded).1
    simp [empty] at keyLength
  exact signTx_eq_ok_iff.mpr ⟨tx, privateKey,
    { txFull := full, txRead := decoded, attached := rfl
      docFull, keyFull, docLength, hashed, loaded, rNonzero, sNonzero }⟩

/-! ## Signatures -/

private theorem length_signatureBytes (signature : Ecdsa.Signature) :
    (signatureBytes signature).length = 65 := by
  simp [signatureBytes, Ecdsa.Signature.bytes]

/-- The first half of a signature spells one number, the second half the other, and the byte behind
them is the parity counted from 27. -/
theorem read_signatureBytes (signature : Ecdsa.Signature) :
    Bytes.toNatBE ((signatureBytes signature).take 32) = signature.r.toNat
      ∧ Bytes.toNatBE (((signatureBytes signature).drop 32).take 32) = signature.s.toNat
      ∧ (signatureBytes signature).drop 64 = [UInt8.ofNat (27 + signature.yIsOdd.toNat)] := by
  have rLt := signature.r.isLt
  have sLt := signature.s.isLt
  have parts : signatureBytes signature
      = Bytes.ofNatBE 32 signature.r.toNat
        ++ (Bytes.ofNatBE 32 signature.s.toNat ++ [if signature.yIsOdd then 28 else 27]) := by
    rw [signatureBytes, Ecdsa.Signature.bytes, List.append_assoc]
  refine ⟨?_, ?_, ?_⟩
  · rw [parts, List.take_left' (Bytes.length_ofNatBE 32 _), Bytes.toNatBE_ofNatBE 32 _ (by omega)]
  · rw [parts, List.drop_left' (Bytes.length_ofNatBE 32 _),
      List.take_left' (Bytes.length_ofNatBE 32 _), Bytes.toNatBE_ofNatBE 32 _ (by omega)]
  · rw [signatureBytes, List.drop_left' (by simp [Ecdsa.Signature.bytes])]
    cases signature.yIsOdd <;> rfl

/-- What signing covers, whatever bytes it is given. The sign doc is the hash of the transaction's
bytes, which are read as a transaction; the signed bytes are read as that very transaction, with
both numbers of the signature other than zero; and the 65 bytes handed out with them are these two
numbers and the parity. -/
theorem signed_carries_unsigned
    (unsigned : UnsignedTx)
    (key : SigningKey)
    (signed : SignedTx)
    (addressable : unsigned.txBytes.Addressable)
    (signs : signTx unsigned key = .ok signed) :
    unsigned.signDoc = Keccak.hash unsigned.txBytes
      ∧ ∃ tx signature,
        decodeUnsigned unsigned.txBytes = .ok tx
          ∧ decodeSigned signed.txBytes = .ok ⟨tx, signature⟩
          ∧ signature.r ≠ 0
          ∧ signature.s ≠ 0
          ∧ signed.signature.length = 65
          ∧ Bytes.toNatBE (signed.signature.take 32) = signature.r.toNat
          ∧ Bytes.toNatBE ((signed.signature.drop 32).take 32) = signature.s.toNat
          ∧ signed.signature.drop 64 = [UInt8.ofNat (27 + signature.yIsOdd.toNat)] := by
  obtain ⟨tx, privateKey, passed⟩ := signTx_eq_ok_iff.mp signs
  obtain rfl := passed.attached
  -- The check compares with the hash of the transaction written anew. Only because the reader is
  -- strict is that the hash of the bytes that were given.
  have encoded : tx.encodeUnsigned = unsigned.txBytes :=
    (encodeUnsigned_of_decodeUnsigned passed.txRead).2
  have docEq : unsigned.signDoc = Keccak.hash unsigned.txBytes := by
    rw [← passed.hashed, LegacyTx.signingHash, encoded]
  rw [← encoded] at addressable
  obtain ⟨r, s, parity⟩ := read_signatureBytes (Ecdsa.sign privateKey unsigned.signDoc)
  exact ⟨docEq, tx, _, passed.txRead, decodeSigned_encode _ addressable, passed.rNonzero,
    passed.sNonzero, length_signatureBytes _, r, s, parity⟩

/-- The bytes of the largest numbers, with their hash. -/
def largestNumbersUnsigned : UnsignedTx where
  txBytes := largestNumbersBytes
  signDoc :=
    [56, 214, 113, 114, 49, 2, 21, 96, 211, 110, 47, 121, 189, 93, 228, 25, 141, 125, 11, 37, 76,
      214, 253, 242, 90, 224, 221, 108, 159, 225, 41, 153]
  accountNumber := 0
  sequence := 0

theorem decodeUnsigned_largestNumbers :
    decodeUnsigned largestNumbersUnsigned.txBytes = .ok largestNumbers := by
  have addressable : largestNumbers.encodeUnsigned.Addressable := by
    rw [encodeUnsigned_largestNumbers, Bytes.Addressable]
    decide
  have read := decodeUnsigned_encodeUnsigned rfl addressable
  rw [encodeUnsigned_largestNumbers] at read
  exact read

theorem signTx_largestNumbers :
    ∃ signed, signTx largestNumbersUnsigned .one = .ok signed := by
  have hashed : largestNumbers.signingHash = largestNumbersUnsigned.signDoc := by
    rw [LegacyTx.signingHash, encodeUnsigned_largestNumbers]
    decide +kernel
  have nonzero :
      (Ecdsa.sign ⟨1, by decide, by decide⟩ largestNumbersUnsigned.signDoc).r ≠ 0
        ∧ (Ecdsa.sign ⟨1, by decide, by decide⟩ largestNumbersUnsigned.signDoc).s ≠ 0 := by
    decide +kernel
  exact ⟨_, signTx_of_decoded (by decide) decodeUnsigned_largestNumbers hashed
    (SigningKey.load_one .evm) nonzero.1 nonzero.2⟩

theorem signed_carries_largestNumbers :
    ∃ signed signature,
      signTx largestNumbersUnsigned .one = .ok signed
        ∧ largestNumbersUnsigned.signDoc = Keccak.hash largestNumbersBytes
        ∧ decodeSigned signed.txBytes = .ok ⟨largestNumbers, signature⟩ := by
  obtain ⟨signed, signs⟩ := signTx_largestNumbers
  obtain ⟨docEq, tx, signature, read, signedRead, -⟩ :=
    signed_carries_unsigned largestNumbersUnsigned .one signed
      (by rw [Bytes.Addressable]; decide) signs
  have sameTx : tx = largestNumbers :=
    Except.ok.inj (read.symm.trans decodeUnsigned_largestNumbers)
  rw [sameTx] at signedRead
  exact ⟨signed, signature, signs, docEq, signedRead⟩

end ChainTx.Evm
