import ChainTx.Proofs.Cosmos.Records
import ChainTx.Proofs.Text.Decimal

/-!
Contract: the parts of a transaction are found again in the bytes that they become.

Owns:
- what the readers find in the unsigned transaction and in the sign doc;
- that equal sign docs come from equal parts, for the same chain and the same account.
-/

set_option autoImplicit false

namespace ChainTx.Cosmos

open Protobuf

private theorem CoinText.ofCoin_inj
    {left right : Coin}
    (sameText : ofCoin left = ofCoin right) :
    left = right := by
  obtain ⟨sameDenom, sameAmount⟩ := CoinText.mk.inj sameText
  have amount : left.amount = right.amount := BitVec.eq_of_toNat_eq (Decimal.text_inj sameAmount)
  cases left
  cases right
  simp_all

/-! ## Parts of a transaction -/

namespace TxParts

variable {parts : TxParts}

private theorem sized_encode
    (sized : parts.encode.txRawBytes.Sized) :
    parts.body.encode.Sized ∧ parts.authInfo.encode.Sized :=
  ⟨sized_of_bytesField
      (List.subset_append_of_subset_left _ (List.subset_append_left _ _)) sized,
    sized_of_bytesField
      (List.subset_append_of_subset_left _ (List.subset_append_right _ _)) sized⟩

theorem decodeTxRaw_txRawBytes
    (sized : parts.encode.txRawBytes.Sized) :
    decodeTxRaw parts.encode.txRawBytes = .ok ⟨parts.body.encode, parts.authInfo.encode, []⟩ := by
  have read := TxRaw.decode?_encode ⟨parts.body.encode, parts.authInfo.encode, []⟩ sized
  rw [decodeTxRaw, EncodedParts.txRawBytes, encode, read, decoded]

theorem decodeBody_encode
    (sized : parts.encode.txRawBytes.Sized) :
    decodeBody parts.body.encode = .ok ⟨parts.messages, parts.memo, 0, [], []⟩ := by
  rw [decodeBody, TxBody.decode?_encode parts.body (sized_encode sized).1, decoded, body]

theorem decodeAuthInfo_encode
    (sized : parts.encode.txRawBytes.Sized) :
    decodeAuthInfo parts.authInfo.encode = .ok parts.authInfo := by
  rw [decodeAuthInfo, AuthInfo.decode?_encode parts.authInfo (sized_encode sized).2, decoded]

theorem decodeSignDoc_signDocBytes
    {chainId : String}
    {accountNumber : UInt64}
    (sized : (parts.encode.signDocBytes chainId accountNumber).Sized) :
    decodeSignDoc (parts.encode.signDocBytes chainId accountNumber)
      = .ok ⟨parts.body.encode, parts.authInfo.encode, chainId, accountNumber⟩ := by
  have read := SignDoc.decode?_encode
    ⟨parts.body.encode, parts.authInfo.encode, chainId, accountNumber⟩ sized
  rw [decodeSignDoc, EncodedParts.signDocBytes, encode, read, decoded]

/-- The key of the signer is found where it was put, three messages deep. -/
theorem publicKeyBytes_signer
    (sized : parts.encode.txRawBytes.Sized) :
    parts.signer.publicKeyBytes = .ok parts.publicKey := by
  cases key : parts.publicKey with
  | none => simp [SignerInfo.publicKeyBytes, signer, key]
  | some bytes =>
      have signerSized : parts.signer.encode.Sized :=
        sized_of_nestedList 1 SignerInfo.encode
          (List.subset_append_of_subset_left _ (List.subset_append_left _ _))
          (List.mem_singleton_self _) (sized_encode sized).2
      have payloadSized : (TypedPayload.mk publicKeyType (encodePublicKey bytes)).encode.Sized := by
        refine sized_of_nestedList 1 TypedPayload.encode
          (List.subset_append_of_subset_left _ (List.subset_append_left _ _)) ?_ signerSized
        simp [signer, key]
      have keySized : (encodePublicKey bytes).Sized :=
        sized_of_bytesField (List.subset_append_right _ _) payloadSized
      simp [SignerInfo.publicKeyBytes, signer, key, decodePublicKey?_encodePublicKey bytes keySized,
        decoded, Except.map]

private theorem authInfo_encode_ne_nil :
    parts.authInfo.encode ≠ [] := by
  rw [AuthInfo.encode, Ne, encodeFields_eq_nil_iff]
  simp [AuthInfo.fields, authInfo, nestedField]

theorem txRawBytes_ne_nil :
    parts.encode.txRawBytes ≠ [] := by
  rw [EncodedParts.txRawBytes, encode, TxRaw.encode, Ne, encodeFields_eq_nil_iff]
  simp [TxRaw.fields, bytesField, authInfo_encode_ne_nil]

theorem signDocBytes_ne_nil
    {chainId : String}
    {accountNumber : UInt64} :
    parts.encode.signDocBytes chainId accountNumber ≠ [] := by
  rw [EncodedParts.signDocBytes, encode, SignDoc.encode, Ne, encodeFields_eq_nil_iff]
  simp [SignDoc.fields, bytesField, authInfo_encode_ne_nil]

/-! ## Binding -/

/-- A sign doc is the unsigned transaction with the chain and the account behind it. -/
theorem signDocBytes_eq_append
    (encoded : EncodedParts)
    (chainId : String)
    (accountNumber : UInt64) :
    encoded.signDocBytes chainId accountNumber
      = encoded.txRawBytes
        ++ encodeFields (textField 3 chainId ++ uintField 4 accountNumber) := by
  simp [EncodedParts.signDocBytes, EncodedParts.txRawBytes, SignDoc.encode, SignDoc.fields,
    TxRaw.encode, TxRaw.fields, encodeFields]

private theorem sized_txRawBytes
    {chainId : String}
    {accountNumber : UInt64}
    (sized : (parts.encode.signDocBytes chainId accountNumber).Sized) :
    parts.encode.txRawBytes.Sized := by
  rw [signDocBytes_eq_append, Bytes.Sized, List.length_append] at sized
  rw [Bytes.Sized]
  omega

/-- Parts with the same body and auth info are the same. -/
theorem eq_of_encode_eq
    {left right : TxParts}
    (sized : left.encode.txRawBytes.Sized)
    (sameEncoding : right.encode = left.encode) :
    right = left := by
  have rightSized : right.encode.txRawBytes.Sized := by
    rw [sameEncoding]
    exact sized
  obtain ⟨sameBody, sameAuthInfo⟩ := EncodedParts.mk.inj sameEncoding
  have body := decodeBody_encode rightSized
  have info := decodeAuthInfo_encode rightSized
  have key := publicKeyBytes_signer rightSized
  rw [sameBody, decodeBody_encode sized] at body
  rw [sameAuthInfo, decodeAuthInfo_encode sized] at info
  simp only [Except.ok.injEq, TxBody.mk.injEq, and_true] at body
  simp only [authInfo, Except.ok.injEq, AuthInfo.mk.injEq, List.cons.injEq, Option.some.injEq,
    Fee.mk.injEq, and_true] at info
  obtain ⟨messages, memo⟩ := body
  obtain ⟨sameSigner, coins, gasLimit⟩ := info
  -- The signer holds the key inside two messages, from which its reader takes it out again.
  rw [← sameSigner, publicKeyBytes_signer sized, Except.ok.injEq] at key
  have fee := (List.map_inj_right fun _ _ => CoinText.ofCoin_inj).mp coins
  have sequence : left.sequence = right.sequence := congrArg SignerInfo.sequence sameSigner
  cases left
  cases right
  simp_all only

private theorem eq_of_signDocBytes_eq
    {left right : TxParts}
    {leftChain rightChain : String}
    {leftNumber rightNumber : UInt64}
    (sized : (left.encode.signDocBytes leftChain leftNumber).Sized)
    (sameDoc : right.encode.signDocBytes rightChain rightNumber
      = left.encode.signDocBytes leftChain leftNumber) :
    right = left ∧ rightChain = leftChain ∧ rightNumber = leftNumber := by
  have rightSized : (right.encode.signDocBytes rightChain rightNumber).Sized := by
    rw [sameDoc]
    exact sized
  have doc := decodeSignDoc_signDocBytes rightSized
  rw [sameDoc, decodeSignDoc_signDocBytes sized, Except.ok.injEq, SignDoc.mk.injEq] at doc
  obtain ⟨sameBody, sameAuthInfo, sameChain, sameNumber⟩ := doc
  have sameEncoding : right.encode = left.encode := by
    rw [encode, encode, sameBody, sameAuthInfo]
  exact ⟨eq_of_encode_eq (sized_txRawBytes sized) sameEncoding, sameChain.symm, sameNumber.symm⟩

/-- All that goes into a transaction is found again in its bytes. The unsigned transaction has the
body and the auth info that were encoded and no signature; the body has the messages and the memo;
the auth info has one signer in direct mode, with the sequence number and the key, absent or empty
as it was, and the fee; the sign doc is over the same body and auth info, for the chain and the
account. Equal sign docs therefore come from equal parts, for the same chain and account. -/
theorem parts_bound_by_signDoc
    (parts : TxParts)
    (chainId : String)
    (accountNumber : UInt64)
    (sized : (parts.encode.signDocBytes chainId accountNumber).Sized) :
    decodeTxRaw parts.encode.txRawBytes
        = .ok ⟨parts.encode.bodyBytes, parts.encode.authInfoBytes, []⟩
      ∧ decodeBody parts.encode.bodyBytes
        = .ok { messages := parts.messages
                memo := parts.memo
                timeoutHeight := 0
                extensionOptions := []
                nonCriticalExtensionOptions := [] }
      ∧ (∃ signer,
        decodeAuthInfo parts.encode.authInfoBytes
            = .ok { signers := [signer]
                    fee := some
                      { amount := parts.fee.map .ofCoin
                        gasLimit := parts.gasLimit
                        payer := ""
                        granter := "" }
                    tip := none }
          ∧ signer.mode = some .direct
          ∧ signer.sequence = parts.sequence
          ∧ signer.publicKeyBytes = .ok parts.publicKey)
      ∧ decodeSignDoc (parts.encode.signDocBytes chainId accountNumber)
        = .ok ⟨parts.encode.bodyBytes, parts.encode.authInfoBytes, chainId, accountNumber⟩
      ∧ ∀ (others : TxParts) (otherChain : String) (otherNumber : UInt64),
        others.encode.signDocBytes otherChain otherNumber
            = parts.encode.signDocBytes chainId accountNumber →
          others = parts ∧ otherChain = chainId ∧ otherNumber = accountNumber := by
  have txSized := sized_txRawBytes sized
  refine ⟨decodeTxRaw_txRawBytes txSized, decodeBody_encode txSized, ⟨parts.signer, ?_, ?_⟩,
    decodeSignDoc_signDocBytes sized, fun _ _ _ => eq_of_signDocBytes_eq sized⟩
  · exact decodeAuthInfo_encode txSized
  · exact ⟨rfl, rfl, publicKeyBytes_signer txSized⟩

/-- Parts most of which are at their defaults, and which have no field of their own. The key is there
and empty. -/
def sampleParts : TxParts where
  messages := [⟨"", []⟩, ⟨"/a", [0]⟩]
  memo := ""
  fee := [⟨0, ""⟩, ⟨340282366920938463463374607431768211455, "a"⟩]
  gasLimit := 0
  publicKey := some []
  sequence := 0

/-- An absent key and an empty one are told apart, also where all else is at its default. -/
theorem parts_bound_of_sample :
    (sampleParts.encode.signDocBytes "" 0).Sized
      ∧ decodeTxRaw sampleParts.encode.txRawBytes
        = .ok ⟨sampleParts.encode.bodyBytes, sampleParts.encode.authInfoBytes, []⟩
      ∧ { sampleParts with publicKey := none }.encode.signDocBytes "" 0
        ≠ sampleParts.encode.signDocBytes "" 0 := by
  have sized : (sampleParts.encode.signDocBytes "" 0).Sized := by
    rw [Bytes.Sized]
    decide +kernel
  obtain ⟨rawRead, -, -, -, binds⟩ := parts_bound_by_signDoc sampleParts "" 0 sized
  refine ⟨sized, rawRead, ?_⟩
  intro sameDoc
  have sameParts := (binds _ _ _ sameDoc).1
  have sameKey := congrArg TxParts.publicKey sameParts
  cases sameKey

end TxParts

end ChainTx.Cosmos
