import ChainTx.Proofs.Cosmos.Signing
import ChainTx.Proofs.Protobuf.Canonical

/-!
Contract: which transactions and sign docs are written anew as they were read.

Owns:
- that a transaction without signatures, and a sign doc, is the encoding of what is read from it
  exactly if its bytes are canonical;
- what signing makes of bytes that are not. It compares what it reads and not bytes, so that it signs
  them like any others.

Does not own: the wire format.
-/

set_option autoImplicit false

namespace ChainTx.Cosmos

open Protobuf

/-! ## Transactions and sign docs -/

namespace TxRaw

/-- The members without signatures are byte strings, or a step fails. -/
theorem carried_of_stepped
    {limit : Nat}
    {field : Field}
    (stepped : ∃ raw taken, step limit raw field = some taken)
    (part : field.number = 1 ∨ field.number = 2) :
    ∃ payload, field.bytes? = some payload := by
  obtain ⟨raw, taken, stepped⟩ := stepped
  rcases part with number | number <;>
  · rw [step, number] at stepped
    exact (Option.map_eq_some_iff.mp stepped).imp fun _ found => found.1

/-- A transaction without signatures is its own encoding exactly if its bytes are canonical. -/
theorem encode_eq_iff_canonical
    {bytes bodyBytes authInfoBytes : Bytes}
    (read : decode? bytes = some ⟨bodyBytes, authInfoBytes, []⟩)
    (sized : bytes.Sized) :
    encode ⟨bodyBytes, authInfoBytes, []⟩ = bytes ↔ Canonical 2 bytes := by
  constructor
  · rintro rfl
    refine canonical_encodeFields (allWritable_fields _) sized ?_
    have nothing : InOrder 2 3 [] := trivial
    have ordered := (nothing.append_bytesField (by decide) authInfoBytes).append_bytesField
      (by decide) bodyBytes
    simpa only [fields, List.flatMap_nil, List.append_assoc] using ordered
  · intro canonical
    obtain ⟨members, rfl, ordered, stepped⟩ := canonical.exists_fields read
    obtain ⟨body, behindBody, rfl, bodyOrdered⟩ := ordered.exists_bytesField
      fun field member number => carried_of_stepped (stepped field member) (.inl number)
    obtain ⟨authInfo, behindAuthInfo, rfl, authInfoOrdered⟩ := bodyOrdered.exists_bytesField
      fun field member number => carried_of_stepped (stepped field (by simp [member])) (.inr number)
    cases authInfoOrdered.eq_nil_of_lt (by decide)
    have same : encodeFields (bytesField 1 body ++ (bytesField 2 authInfo ++ []))
        = encode ⟨body, authInfo, []⟩ := by
      rw [encode, fields, List.flatMap_nil, List.append_assoc]
    rw [same] at sized read ⊢
    rw [decode?_encode _ sized] at read
    rw [Option.some.inj read]

end TxRaw

namespace SignDoc

/-- A member is carried in the form that it is read in, or a step fails. -/
theorem carried_of_stepped
    {limit : Nat}
    {field : Field}
    (stepped : ∃ doc taken, step limit doc field = some taken) :
    (field.number = 1 ∨ field.number = 2 → ∃ payload, field.bytes? = some payload)
      ∧ (field.number = 3 → ∃ text, field.text? = some text)
      ∧ (field.number = 4 → ∃ value, field.uint64? = some value) := by
  obtain ⟨doc, taken, stepped⟩ := stepped
  refine ⟨?_, fun number => ?_, fun number => ?_⟩
  · rintro (number | number) <;>
    · rw [step, number] at stepped
      exact (Option.map_eq_some_iff.mp stepped).imp fun _ found => found.1
  · rw [step, number] at stepped
    exact (Option.map_eq_some_iff.mp stepped).imp fun _ found => found.1
  · rw [step, number] at stepped
    exact (Option.map_eq_some_iff.mp stepped).imp fun _ found => found.1

/-- A sign doc is its own encoding exactly if its bytes are canonical. -/
theorem encode_eq_iff_canonical
    {bytes : Bytes}
    {doc : SignDoc}
    (read : decode? bytes = some doc)
    (sized : bytes.Sized) :
    doc.encode = bytes ↔ Canonical 4 bytes := by
  constructor
  · rintro rfl
    refine canonical_encodeFields (allWritable_fields _) sized ?_
    have nothing : InOrder 4 5 [] := trivial
    have ordered := (((nothing.append_uintField (by decide) doc.accountNumber).append_bytesField
      (by decide) (Bytes.ofText doc.chainId)).append_bytesField
      (by decide) doc.authInfoBytes).append_bytesField (by decide) doc.bodyBytes
    simpa only [fields, textField, List.append_nil, List.append_assoc] using ordered
  · intro canonical
    obtain ⟨members, rfl, ordered, stepped⟩ := canonical.exists_fields read
    obtain ⟨body, behindBody, rfl, bodyOrdered⟩ := ordered.exists_bytesField
      fun field member number => (carried_of_stepped (stepped field member)).1 (.inl number)
    obtain ⟨authInfo, behindAuthInfo, rfl, authInfoOrdered⟩ := bodyOrdered.exists_bytesField
      fun field member number =>
        (carried_of_stepped (stepped field (by simp [member]))).1 (.inr number)
    obtain ⟨chainId, behindChain, rfl, chainOrdered⟩ := authInfoOrdered.exists_textField
      fun field member number => (carried_of_stepped (stepped field (by simp [member]))).2.1 number
    obtain ⟨accountNumber, rest, rfl, restOrdered⟩ := chainOrdered.exists_uintField
      fun field member number => (carried_of_stepped (stepped field (by simp [member]))).2.2 number
    cases restOrdered.eq_nil_of_lt (by decide)
    have same : encodeFields (bytesField 1 body ++ (bytesField 2 authInfo
          ++ (textField 3 chainId ++ (uintField 4 accountNumber ++ []))))
        = encode ⟨body, authInfo, chainId, accountNumber⟩ := by
      rw [encode, fields, List.append_nil, List.append_assoc, List.append_assoc]
    rw [same] at sized read ⊢
    rw [decode?_encode _ sized] at read
    rw [Option.some.inj read]

end SignDoc

/-! ## Signing -/

/-- The signature, 64 bytes behind its key and its length, is put behind the encoding of what was
read. -/
theorem attached_of_signTx
    {unsigned : UnsignedTx}
    {key : SigningKey}
    {signed : SignedTx}
    {raw : TxRaw}
    (signs : signTx unsigned key = .ok signed)
    (rawRead : decodeTxRaw unsigned.txBytes = .ok raw) :
    signed.txBytes = TxRaw.encode ⟨raw.bodyBytes, raw.authInfoBytes, []⟩ ++ [0x1a, 0x40]
        ++ signed.signature
      ∧ signed.txBytes.length
        = (TxRaw.encode ⟨raw.bodyBytes, raw.authInfoBytes, []⟩).length + 66 := by
  obtain ⟨_, _, _, _, _, passed⟩ := signTx_eq_ok_iff.mp signs
  cases rawRead.symm.trans passed.rawRead
  obtain ⟨wide, bytesEq⟩ := passed.txBytes_eq
  rw [bytesEq, TxRaw.encode_signed _ _ _ wide]
  exact ⟨rfl, by simp [wide]⟩

/-- What signing makes of bytes as they are given. The signature is over the whole sign doc. The
signed transaction is the encoding of the body and the auth info that were read, with the signature
behind it; it begins with the bytes that were given exactly if these are canonical. Likewise the sign
doc is the one that others make of that body and auth info exactly if its bytes are canonical. -/
theorem reencoded_of_signTx
    (unsigned : UnsignedTx)
    (key : SigningKey)
    (signed : SignedTx)
    (txSized : unsigned.txBytes.Sized)
    (docSized : unsigned.signDoc.Sized)
    (signs : signTx unsigned key = .ok signed) :
    ∃ (privateKey : Ecdsa.PrivateKey) (parts : EncodedParts) (chainId : String),
      SigningKey.load .cosmos key.bytes = .ok privateKey
        ∧ decodeTxRaw unsigned.txBytes = .ok ⟨parts.bodyBytes, parts.authInfoBytes, []⟩
        ∧ decodeSignDoc unsigned.signDoc
          = .ok ⟨parts.bodyBytes, parts.authInfoBytes, chainId, unsigned.accountNumber⟩
        ∧ signed.signature = signBytes privateKey unsigned.signDoc
        ∧ signed.txBytes = parts.txRawBytes ++ [0x1a, 0x40] ++ signed.signature
        ∧ (unsigned.txBytes = parts.txRawBytes ↔ Canonical 2 unsigned.txBytes)
        ∧ (unsigned.signDoc = parts.signDocBytes chainId unsigned.accountNumber
          ↔ Canonical 4 unsigned.signDoc)
        ∧ signed.txBytes.length = parts.txRawBytes.length + 66
        ∧ (Canonical 2 unsigned.txBytes → unsigned.txBytes.length < signed.txBytes.length) := by
  obtain ⟨privateKey, raw, doc, info, signer, passed⟩ := signTx_eq_ok_iff.mp signs
  have rawRead := passed.decodeTxRaw_unsigned
  have docRead := passed.decodeSignDoc_signed
  have rawEncoded := TxRaw.encode_eq_iff_canonical (decoded_eq_ok_iff.mp rawRead) txSized
  have docEncoded := SignDoc.encode_eq_iff_canonical (decoded_eq_ok_iff.mp docRead) docSized
  obtain ⟨attached, length⟩ := attached_of_signTx signs rawRead
  refine ⟨privateKey, ⟨raw.bodyBytes, raw.authInfoBytes⟩, doc.chainId, passed.loaded, rawRead, docRead,
    ?_, attached, eq_comm.trans rawEncoded, eq_comm.trans docEncoded, length, ?_⟩
  · rw [passed.attached]
  · intro canonical
    rw [length, rawEncoded.mpr canonical]
    omega

/-! ### Bytes that are canonical and bytes that are not -/

/-- A transaction and its sign doc as encoders write them. -/
def tidyUnsigned : UnsignedTx where
  txBytes := [0x0a, 3, 0x12, 1, 0x6d, 0x12, 4, 0x0a, 2, 0x18, 3]
  signDoc := [0x0a, 3, 0x12, 1, 0x6d, 0x12, 4, 0x0a, 2, 0x18, 3, 0x1a, 1, 0x63, 0x20, 7]
  accountNumber := 7
  sequence := 3

/-- Signing keeps the bytes of a tidy transaction and puts the signature behind them. -/
theorem reencoded_of_tidyUnsigned :
    ∃ signed,
      signTx tidyUnsigned .one = .ok signed
        ∧ signed.txBytes = tidyUnsigned.txBytes ++ [0x1a, 0x40] ++ signed.signature := by
  have rawRead : TxRaw.decode? tidyUnsigned.txBytes
      = some ⟨[0x12, 1, 0x6d], [0x0a, 2, 0x18, 3], []⟩ := by
    decide +kernel
  have docRead : SignDoc.decode? tidyUnsigned.signDoc
      = some ⟨[0x12, 1, 0x6d], [0x0a, 2, 0x18, 3], "c", tidyUnsigned.accountNumber⟩ := by
    decide +kernel
  have infoRead : AuthInfo.decode? [0x0a, 2, 0x18, 3] = some ⟨[⟨none, none, 3⟩], none, none⟩ := by
    decide +kernel
  obtain ⟨signed, signs⟩ := signTx_one_of_read (by decide) (by decide) (decoded_eq_ok_iff.mpr rawRead)
    (decoded_eq_ok_iff.mpr docRead) (decoded_eq_ok_iff.mpr infoRead)
  obtain ⟨_, parts, _, _, _, _, _, attached, rawEncoded, _⟩ :=
    reencoded_of_signTx tidyUnsigned .one signed (by rw [Bytes.Sized]; decide)
      (by rw [Bytes.Sized]; decide) signs
  have canonical : Canonical 2 tidyUnsigned.txBytes := by decide +kernel
  rw [← rawEncoded.mpr canonical] at attached
  exact ⟨signed, signs, attached⟩

/-- A transaction whose first body, of 80 bytes, is overridden by an empty one, and a sign doc with
the chain in front of the auth info. -/
def paddedUnsigned : UnsignedTx where
  txBytes := [0x0a, 80] ++ List.replicate 80 0 ++ [0x0a, 0, 0x12, 4, 0x0a, 2, 0x18, 3]
  signDoc := [0x1a, 1, 0x63, 0x12, 4, 0x0a, 2, 0x18, 3, 0x20, 7]
  accountNumber := 7
  sequence := 3

/-- Signing accepts the padded transaction. Neither its bytes nor those of the sign doc are the
encoding of what they say, and the signed transaction is shorter than the unsigned one. -/
theorem shorter_of_paddedUnsigned :
    ∃ signed parts chainId,
      signTx paddedUnsigned .one = .ok signed
        ∧ decodeTxRaw paddedUnsigned.txBytes = .ok ⟨parts.bodyBytes, parts.authInfoBytes, []⟩
        ∧ decodeSignDoc paddedUnsigned.signDoc
          = .ok ⟨parts.bodyBytes, parts.authInfoBytes, chainId, paddedUnsigned.accountNumber⟩
        ∧ paddedUnsigned.txBytes ≠ EncodedParts.txRawBytes parts
        ∧ paddedUnsigned.signDoc
          ≠ EncodedParts.signDocBytes parts chainId paddedUnsigned.accountNumber
        ∧ signed.txBytes.length < paddedUnsigned.txBytes.length := by
  have rawRead : TxRaw.decode? paddedUnsigned.txBytes = some ⟨[], [0x0a, 2, 0x18, 3], []⟩ := by
    decide +kernel
  have docRead : SignDoc.decode? paddedUnsigned.signDoc
      = some ⟨[], [0x0a, 2, 0x18, 3], "c", paddedUnsigned.accountNumber⟩ := by
    decide +kernel
  have infoRead : AuthInfo.decode? [0x0a, 2, 0x18, 3] = some ⟨[⟨none, none, 3⟩], none, none⟩ := by
    decide +kernel
  obtain ⟨signed, signs⟩ := signTx_one_of_read (by decide) (by decide) (decoded_eq_ok_iff.mpr rawRead)
    (decoded_eq_ok_iff.mpr docRead) (decoded_eq_ok_iff.mpr infoRead)
  have length := (attached_of_signTx signs (decoded_eq_ok_iff.mpr rawRead)).2
  refine ⟨signed, ⟨[], [0x0a, 2, 0x18, 3]⟩, "c", signs, decoded_eq_ok_iff.mpr rawRead,
    decoded_eq_ok_iff.mpr docRead, ?_, ?_, ?_⟩
  · decide +kernel
  · decide +kernel
  · rw [length]
    decide +kernel

end ChainTx.Cosmos
