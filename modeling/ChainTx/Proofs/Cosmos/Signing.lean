import ChainTx.Cosmos.Signing
import ChainTx.Proofs.Checks
import ChainTx.Proofs.Cosmos.Encoding
import ChainTx.Proofs.Protobuf.Length

/-!
Contract: what a signature of the Cosmos family covers.

Owns:
- when signing succeeds, and with what;
- that parts freshly encoded pass every check of signing but the one on the declared key;
- of every transaction that gets signed, also of bytes that no builder made: the signed bytes are
  read as the same body and auth info, which are those of the sign doc under the signature.

Bytes that no builder made may name a part twice or hold fields that no record knows, so the bytes
sent need not begin with the bytes given.

Does not own: the arithmetic of the curve.
-/

set_option autoImplicit false

namespace ChainTx.Cosmos

open Protobuf

/-! ## Success -/

theorem checkDeclaredKey_eq_ok_iff
    {signer : SignerInfo}
    {declared : Option Bytes}
    {publicKey : Bytes}
    (named : signer.publicKeyBytes = .ok declared) :
    checkDeclaredKey signer publicKey = .ok ()
      ↔ declared = none ∨ declared = some publicKey := by
  simp only [checkDeclaredKey, bind_eq_ok_iff, named, Except.ok.injEq, exists_eq_left']
  cases declared with
  | none => simp
  | some key => simp [SigningKey.require_eq_ok_iff]

/-- What holds of bytes and a key that are signed: every check of signing passes, for the records and
the private key that are read, and the signature is attached to the transaction. -/
structure Signs (unsigned : UnsignedTx) (key : SigningKey) (privateKey : Ecdsa.PrivateKey)
    (raw : TxRaw) (doc : SignDoc) (info : AuthInfo) (signer : SignerInfo) (signed : SignedTx) :
    Prop where
  txFull : unsigned.txBytes ≠ []
  docFull : unsigned.signDoc ≠ []
  loaded : SigningKey.load .cosmos key.bytes = .ok privateKey
  rawRead : decodeTxRaw unsigned.txBytes = .ok raw
  bare : raw.signatures = []
  docRead : decodeSignDoc unsigned.signDoc = .ok doc
  sameBody : doc.bodyBytes = raw.bodyBytes
  sameAuthInfo : doc.authInfoBytes = raw.authInfoBytes
  sameAccount : doc.accountNumber = unsigned.accountNumber
  infoRead : decodeAuthInfo raw.authInfoBytes = .ok info
  signerFound : theSigner info = .ok signer
  sameSequence : signer.sequence = unsigned.sequence
  declared : checkDeclaredKey signer (compressedPublicKey privateKey) = .ok ()
  attached : signed
    = ⟨TxRaw.encode { raw with signatures := [signBytes privateKey unsigned.signDoc] },
        signBytes privateKey unsigned.signDoc, compressedPublicKey privateKey⟩

/-- When signing succeeds, and with what. -/
theorem signTx_eq_ok_iff
    {unsigned : UnsignedTx}
    {key : SigningKey}
    {signed : SignedTx} :
    signTx unsigned key = .ok signed
      ↔ ∃ privateKey raw doc info signer,
        Signs unsigned key privateKey raw doc info signer signed := by
  simp only [signTx, bind_eq_ok_iff, SigningKey.require_eq_ok_iff, exists_const, bne_iff_ne,
    beq_iff_eq, Bool.and_eq_true, Except.ok.injEq]
  constructor
  · rintro ⟨txFull, docFull, privateKey, loaded, raw, rawRead, bare, doc, docRead,
      ⟨sameBody, sameAuthInfo⟩, sameAccount, info, infoRead, signer, signerFound, sameSequence,
      _, declared, rfl⟩
    exact ⟨privateKey, raw, doc, info, signer,
      { txFull, docFull, loaded, rawRead, bare, docRead, sameBody, sameAuthInfo, sameAccount
        infoRead, signerFound, sameSequence, declared
        attached := rfl }⟩
  · rintro ⟨privateKey, raw, doc, info, signer, signs⟩
    exact ⟨signs.txFull, signs.docFull, privateKey, signs.loaded, raw, signs.rawRead, signs.bare,
      doc, signs.docRead, ⟨signs.sameBody, signs.sameAuthInfo⟩, signs.sameAccount, info,
      signs.infoRead, signer, signs.signerFound, signs.sameSequence, (), signs.declared,
      signs.attached.symm⟩

theorem length_signBytes
    (privateKey : Ecdsa.PrivateKey)
    (doc : Bytes) :
    (signBytes privateKey doc).length = 64 := by
  simp [signBytes, Ecdsa.Signature.bytes]

/-- A signature of 64 bytes is attached behind its key and its length. -/
theorem TxRaw.encode_signed
    (bodyBytes authInfoBytes signature : Bytes)
    (wide : signature.length = 64) :
    TxRaw.encode ⟨bodyBytes, authInfoBytes, [signature]⟩
      = TxRaw.encode ⟨bodyBytes, authInfoBytes, []⟩ ++ [0x1a, 0x40] ++ signature := by
  have key : encodeKey 3 2 = [0x1a] := by
    rw [encodeKey, Varint.encode, if_pos (by decide)]
    rfl
  have length : Varint.encode 64 = [0x40] := by
    rw [Varint.encode, if_pos (by decide)]
    rfl
  simp [TxRaw.encode, TxRaw.fields, encodeFields, nestedField, Field.encode, key, length, wide]

theorem TxParts.decodeTxRaw_signed
    {parts : TxParts}
    {signature : Bytes}
    (wide : signature.length = 64)
    (addressable : parts.encode.txRawBytes.Addressable) :
    decodeTxRaw (parts.encode.txRawBytes ++ [0x1a, 0x40] ++ signature)
      = .ok ⟨parts.body.encode, parts.authInfo.encode, [signature]⟩ := by
  have attached := TxRaw.encode_signed parts.body.encode parts.authInfo.encode signature wide
  have sized : (TxRaw.encode ⟨parts.body.encode, parts.authInfo.encode, [signature]⟩).Sized := by
    have rawLt : (TxRaw.encode ⟨parts.body.encode, parts.authInfo.encode, []⟩).length < 2 ^ 63 :=
      addressable
    rw [Bytes.Sized, attached, List.length_append, List.length_append, wide]
    simp only [List.length_cons, List.length_nil]
    omega
  rw [EncodedParts.txRawBytes, encode, ← attached, decodeTxRaw, TxRaw.decode?_encode _ sized,
    decoded]

/-- Freshly encoded parts pass every check of signing but the one on the declared key. -/
theorem TxParts.signTx_eq_ok_iff
    {parts : TxParts}
    {chainId : String}
    {unsigned : UnsignedTx}
    {key : SigningKey}
    {privateKey : Ecdsa.PrivateKey}
    {signed : SignedTx}
    (bytesEq : unsigned.txBytes = parts.encode.txRawBytes)
    (docEq : unsigned.signDoc = parts.encode.signDocBytes chainId unsigned.accountNumber)
    (sequenceEq : unsigned.sequence = parts.sequence)
    (txSized : unsigned.txBytes.Sized)
    (docSized : unsigned.signDoc.Sized)
    (loaded : SigningKey.load .cosmos key.bytes = .ok privateKey) :
    signTx unsigned key = .ok signed
      ↔ (parts.publicKey = none ∨ parts.publicKey = some (compressedPublicKey privateKey))
        ∧ SignedTx.mk
            (unsigned.txBytes ++ [0x1a, 0x40] ++ signBytes privateKey unsigned.signDoc)
            (signBytes privateKey unsigned.signDoc) (compressedPublicKey privateKey) = signed := by
  rw [bytesEq] at txSized
  rw [docEq] at docSized
  have named := publicKeyBytes_signer txSized
  have oneSigner : theSigner parts.authInfo = .ok parts.signer := by
    rw [theSigner, authInfo]
  have sameSequence : parts.signer.sequence = unsigned.sequence := by
    rw [signer, sequenceEq]
  have rawRead := decodeTxRaw_txRawBytes txSized
  have docRead := decodeSignDoc_signDocBytes docSized
  have attached : TxRaw.encode ⟨parts.body.encode, parts.authInfo.encode,
        [signBytes privateKey unsigned.signDoc]⟩
      = parts.encode.txRawBytes ++ [0x1a, 0x40] ++ signBytes privateKey unsigned.signDoc :=
    TxRaw.encode_signed parts.body.encode parts.authInfo.encode _
      (length_signBytes privateKey unsigned.signDoc)
  rw [← docEq] at docRead
  have docFull : unsigned.signDoc ≠ [] := by
    rw [docEq]
    exact signDocBytes_ne_nil
  rw [← bytesEq] at rawRead attached
  rw [← attached]
  have infoRead := decodeAuthInfo_encode txSized
  rw [← checkDeclaredKey_eq_ok_iff named]
  constructor
  · intro signs
    obtain ⟨_, raw, doc, info, signer, passed⟩ := Cosmos.signTx_eq_ok_iff.mp signs
    cases loaded.symm.trans passed.loaded
    cases rawRead.symm.trans passed.rawRead
    cases infoRead.symm.trans passed.infoRead
    cases oneSigner.symm.trans passed.signerFound
    exact ⟨passed.declared, passed.attached.symm⟩
  · rintro ⟨declared, signedEq⟩
    have txFull : unsigned.txBytes ≠ [] := by
      rw [bytesEq]
      exact txRawBytes_ne_nil
    exact Cosmos.signTx_eq_ok_iff.mpr ⟨privateKey, _, _, _, parts.signer,
      { txFull, docFull, loaded, rawRead, docRead, infoRead, sameSequence, declared
        bare := rfl
        sameBody := rfl
        sameAuthInfo := rfl
        sameAccount := rfl
        signerFound := oneSigner
        attached := signedEq.symm }⟩

/-! ## Arbitrary transactions -/

theorem decoded_eq_ok_iff
    {Record : Type}
    {what : String}
    {result : Option Record}
    {record : Record} :
    decoded what result = .ok record ↔ result = some record := by
  cases result <;> simp [decoded]

private theorem signers_of_theSigner
    {info : AuthInfo}
    {signer : SignerInfo}
    (found : theSigner info = .ok signer) :
    info.signers = [signer] := by
  unfold theSigner at found
  split at found
  · rename_i only isOnly
    cases found
    exact isOnly
  · cases found

private theorem declared_of_checkDeclaredKey
    {signer : SignerInfo}
    {publicKey : Bytes}
    (checked : checkDeclaredKey signer publicKey = .ok ()) :
    signer.publicKeyBytes = .ok none ∨ signer.publicKeyBytes = .ok (some publicKey) := by
  obtain ⟨declared, named, -⟩ := bind_eq_ok_iff.mp checked
  rw [named, Except.ok.injEq, Except.ok.injEq]
  exact (checkDeclaredKey_eq_ok_iff named).mp checked

namespace TxRaw

/-- A field replaces the body, or the auth info, or neither. -/
theorem length_parts_step_le
    {limit : Nat}
    {raw taken : TxRaw}
    {field : Field}
    (stepped : step limit raw field = some taken) :
    taken.bodyBytes.length + taken.authInfoBytes.length
      ≤ raw.bodyBytes.length + raw.authInfoBytes.length + field.payloadLength := by
  unfold step at stepped
  split at stepped
  · obtain ⟨payload, carried, rfl⟩ := Option.map_eq_some_iff.mp stepped
    rw [Field.payloadLength_of_bytes? carried]
    simp only
    omega
  · obtain ⟨payload, carried, rfl⟩ := Option.map_eq_some_iff.mp stepped
    rw [Field.payloadLength_of_bytes? carried]
    simp only
    omega
  · obtain ⟨payload, carried, rfl⟩ := Option.map_eq_some_iff.mp stepped
    simp only
    omega
  · unfold skipUnknown at stepped
    split at stepped
    · cases stepped
    · cases stepped
      omega

/-- The body and the auth info of a transaction take up no more bytes than the transaction, however
often its bytes name them. -/
theorem length_parts_le
    {bytes : Bytes}
    {raw : TxRaw}
    (read : decode? bytes = some raw) :
    raw.bodyBytes.length + raw.authInfoBytes.length ≤ bytes.length := by
  have grown := measure_le_of_mergeFields
    (fun raw : TxRaw => raw.bodyBytes.length + raw.authInfoBytes.length)
    length_parts_step_le read
  simpa [empty] using grown

/-- Attaching a signature to a transaction that was read leaves bytes that can be read again. -/
theorem decode?_encode_signed
    {bytes signature : Bytes}
    {raw : TxRaw}
    (read : decode? bytes = some raw)
    (addressable : bytes.Addressable)
    (wide : signature.length = 64) :
    decode? (encode ⟨raw.bodyBytes, raw.authInfoBytes, [signature]⟩)
      = some ⟨raw.bodyBytes, raw.authInfoBytes, [signature]⟩ := by
  have partsLe := length_parts_le read
  rw [Bytes.Addressable] at addressable
  have bodyLe := length_encodeFields_bytesField_le 1 raw.bodyBytes (by decide)
    (by rw [Bytes.Sized]; omega)
  have authInfoLe := length_encodeFields_bytesField_le 2 raw.authInfoBytes (by decide)
    (by rw [Bytes.Sized]; omega)
  have unsignedEq : encode ⟨raw.bodyBytes, raw.authInfoBytes, []⟩
      = encodeFields (bytesField 1 raw.bodyBytes)
        ++ encodeFields (bytesField 2 raw.authInfoBytes) := by
    simp [encode, fields, encodeFields]
  refine decode?_encode _ ?_
  rw [encode_signed _ _ _ wide, unsignedEq, Bytes.Sized]
  simp only [List.length_append, List.length_cons, List.length_nil, wide]
  omega

end TxRaw

namespace Signs

variable
  {unsigned : UnsignedTx}
  {key : SigningKey}
  {privateKey : Ecdsa.PrivateKey}
  {raw : TxRaw}
  {doc : SignDoc}
  {info : AuthInfo}
  {signer : SignerInfo}
  {signed : SignedTx}

/-- The signature is 64 bytes, and is written behind the body and the auth info that were read. -/
theorem txBytes_eq
    (signs : Signs unsigned key privateKey raw doc info signer signed) :
    signed.signature.length = 64
      ∧ signed.txBytes = TxRaw.encode ⟨raw.bodyBytes, raw.authInfoBytes, [signed.signature]⟩ := by
  obtain rfl := signs.attached
  exact ⟨length_signBytes privateKey unsigned.signDoc, rfl⟩

theorem decodeTxRaw_unsigned
    (signs : Signs unsigned key privateKey raw doc info signer signed) :
    decodeTxRaw unsigned.txBytes = .ok ⟨raw.bodyBytes, raw.authInfoBytes, []⟩ := by
  rw [signs.rawRead, ← signs.bare]

/-- The sign doc is for the body, the auth info and the account of the transaction. -/
theorem decodeSignDoc_signed
    (signs : Signs unsigned key privateKey raw doc info signer signed) :
    decodeSignDoc unsigned.signDoc
      = .ok ⟨raw.bodyBytes, raw.authInfoBytes, doc.chainId, unsigned.accountNumber⟩ := by
  rw [signs.docRead, ← signs.sameBody, ← signs.sameAuthInfo, ← signs.sameAccount]

theorem decodeTxRaw_signed
    (signs : Signs unsigned key privateKey raw doc info signer signed)
    (addressable : unsigned.txBytes.Addressable) :
    decodeTxRaw signed.txBytes = .ok ⟨raw.bodyBytes, raw.authInfoBytes, [signed.signature]⟩ := by
  obtain ⟨wide, bytesEq⟩ := signs.txBytes_eq
  rw [bytesEq]
  exact decoded_eq_ok_iff.mpr
    (TxRaw.decode?_encode_signed (decoded_eq_ok_iff.mp signs.rawRead) addressable wide)

end Signs

/-- What is signed is what is sent, whatever bytes signing is given. The signed transaction has one
signature, which is over the whole sign doc; its body and auth info are those of the unsigned
transaction and those that the sign doc names; the sign doc names the account number, and the auth
info has one signer, with the sequence number and with no key or the key of the signature. -/
theorem signed_matches_unsigned
    (unsigned : UnsignedTx)
    (key : SigningKey)
    (signed : SignedTx)
    (addressable : unsigned.txBytes.Addressable)
    (signs : signTx unsigned key = .ok signed) :
    ∃ privateKey bodyBytes authInfoBytes chainId info signer,
      key.bytes.length = 32
        ∧ Ecdsa.PrivateKey.ofBytes? key.bytes = some privateKey
        ∧ signed.publicKey = compressedPublicKey privateKey
        ∧ signed.signature = signBytes privateKey unsigned.signDoc
        ∧ decodeTxRaw signed.txBytes = .ok ⟨bodyBytes, authInfoBytes, [signed.signature]⟩
        ∧ decodeTxRaw unsigned.txBytes = .ok ⟨bodyBytes, authInfoBytes, []⟩
        ∧ decodeSignDoc unsigned.signDoc
          = .ok ⟨bodyBytes, authInfoBytes, chainId, unsigned.accountNumber⟩
        ∧ decodeAuthInfo authInfoBytes = .ok info
        ∧ info.signers = [signer]
        ∧ signer.sequence = unsigned.sequence
        ∧ (signer.publicKeyBytes = .ok none
          ∨ signer.publicKeyBytes = .ok (some signed.publicKey)) := by
  obtain ⟨privateKey, raw, doc, info, signer, passed⟩ := signTx_eq_ok_iff.mp signs
  obtain ⟨wide, inRange⟩ := SigningKey.load_eq_ok_iff.mp passed.loaded
  have keyNamed := declared_of_checkDeclaredKey passed.declared
  -- The transaction is read, given a signature and written anew. What is lost on the way is in
  -- neither the parts nor the sign doc.
  have signedRead := passed.decodeTxRaw_signed addressable
  have rawRead := passed.decodeTxRaw_unsigned
  have docRead := passed.decodeSignDoc_signed
  obtain rfl := passed.attached
  exact ⟨privateKey, raw.bodyBytes, raw.authInfoBytes, doc.chainId, info, signer, wide, inRange, rfl,
    rfl, signedRead, rawRead, docRead, passed.infoRead, signers_of_theSigner passed.signerFound,
    passed.sameSequence, keyNamed⟩

/-- Bytes of which every check finds what it asks for are signed by the key one. -/
theorem signTx_one_of_read
    {unsigned : UnsignedTx}
    {bodyBytes authInfoBytes : Bytes}
    {chainId : String}
    (txFull : unsigned.txBytes ≠ [])
    (docFull : unsigned.signDoc ≠ [])
    (rawRead : decodeTxRaw unsigned.txBytes = .ok ⟨bodyBytes, authInfoBytes, []⟩)
    (docRead : decodeSignDoc unsigned.signDoc
      = .ok ⟨bodyBytes, authInfoBytes, chainId, unsigned.accountNumber⟩)
    (infoRead : decodeAuthInfo authInfoBytes
      = .ok ⟨[⟨none, none, unsigned.sequence⟩], none, none⟩) :
    ∃ signed, signTx unsigned .one = .ok signed :=
  ⟨_, signTx_eq_ok_iff.mpr ⟨_, _, _, _, ⟨none, none, unsigned.sequence⟩,
    { txFull, docFull, rawRead, docRead, infoRead
      loaded := SigningKey.load_one .cosmos
      bare := rfl
      sameBody := rfl
      sameAuthInfo := rfl
      sameAccount := rfl
      signerFound := rfl
      sameSequence := rfl
      declared := rfl
      attached := rfl }⟩⟩

/-- Bytes that no encoder writes: the body comes twice, with a field between that no record knows.
The second body is empty. -/
def looseUnsigned : UnsignedTx where
  txBytes := [0x0a, 1, 9, 0x78, 5, 0x0a, 0, 0x12, 4, 0x0a, 2, 0x18, 3]
  signDoc := [0x1a, 1, 0x63, 0x12, 4, 0x0a, 2, 0x18, 3, 0x20, 7]
  accountNumber := 7
  sequence := 3

private theorem decodeTxRaw_looseUnsigned :
    decodeTxRaw looseUnsigned.txBytes = .ok ⟨[], [0x0a, 2, 0x18, 3], []⟩ :=
  decoded_eq_ok_iff.mpr (by decide +kernel)

theorem signTx_looseUnsigned :
    ∃ signed, signTx looseUnsigned .one = .ok signed := by
  have docRead : SignDoc.decode? looseUnsigned.signDoc = some ⟨[], [0x0a, 2, 0x18, 3], "c", 7⟩ := by
    decide +kernel
  have infoRead : AuthInfo.decode? [0x0a, 2, 0x18, 3] = some ⟨[⟨none, none, 3⟩], none, none⟩ := by
    decide +kernel
  exact signTx_one_of_read (by decide) (by decide) decodeTxRaw_looseUnsigned
    (decoded_eq_ok_iff.mpr docRead) (decoded_eq_ok_iff.mpr infoRead)

/-- The first body and the unknown field are not in the signed transaction, and not in what the
signature is over. -/
theorem signed_matches_looseUnsigned :
    ∃ signed,
      signTx looseUnsigned .one = .ok signed
        ∧ decodeTxRaw signed.txBytes = .ok ⟨[], [0x0a, 2, 0x18, 3], [signed.signature]⟩ := by
  obtain ⟨signed, signs⟩ := signTx_looseUnsigned
  obtain ⟨_, bodyBytes, authInfoBytes, _, _, _, -, -, -, -, signedRead, rawRead, -⟩ :=
    signed_matches_unsigned looseUnsigned .one signed (by rw [Bytes.Addressable]; decide) signs
  have sameRaw := Except.ok.inj (rawRead.symm.trans decodeTxRaw_looseUnsigned)
  obtain ⟨rfl, rfl, -⟩ := TxRaw.mk.inj sameRaw
  exact ⟨signed, signs, signedRead⟩

end ChainTx.Cosmos
