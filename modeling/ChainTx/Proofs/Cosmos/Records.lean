import ChainTx.Cosmos.Encoding
import ChainTx.Proofs.Protobuf.Wire

/-!
Contract: the readers of the records of a transaction undo their encoders.

Owns: one law for each record, from typed payloads up to transactions and sign docs. A record inside
another one is read one level deeper, so its law holds at every limit on nesting that leaves room
for the records inside it.

A record is as long as its texts are, so the laws ask that the count of its bytes has 64 bits.
-/

set_option autoImplicit false

namespace ChainTx.Cosmos

open Protobuf

@[simp] theorem mergeOptional_delimited
    {Record : Type}
    (limit : Nat)
    (merge : Nat → Record → Bytes → Option Record)
    (empty : Record)
    (number : Nat)
    (payload : Bytes) :
    mergeOptional (limit + 1) merge empty none ⟨number, .delimited payload⟩
      = (merge limit empty payload).map some :=
  rfl

/-! ## Typed payloads -/

namespace TypedPayload

private theorem allWritable_fields (payload : TypedPayload) :
    AllWritable payload.fields :=
  (allWritable_append _ _).mpr
    ⟨allWritable_textField (by decide) (by decide) _,
      allWritable_bytesField (by decide) (by decide) _⟩

theorem merge_encode
    (limit : Nat)
    (payload : TypedPayload)
    (sized : payload.encode.Sized) :
    merge limit .empty payload.encode = some payload := by
  have typeUrl : (textField 1 payload.typeUrl).foldlM (step limit) .empty
      = some ⟨payload.typeUrl, []⟩ :=
    foldlM_textField (by simp [step, empty]) (fun default => by rw [default, empty])
  have value : (bytesField 2 payload.value).foldlM (step limit) ⟨payload.typeUrl, []⟩
      = some payload :=
    foldlM_bytesField (by simp [step]) (fun default => by rw [← default])
  rw [merge, encode, mergeFields_encodeFields limit _ _ _ payload.allWritable_fields sized]
  exact foldlM_append typeUrl value

end TypedPayload

/-! ## Coins, fees and tips -/

namespace CoinText

private theorem allWritable_fields (coin : CoinText) :
    AllWritable coin.fields :=
  (allWritable_append _ _).mpr
    ⟨allWritable_textField (by decide) (by decide) _,
      allWritable_textField (by decide) (by decide) _⟩

theorem merge_encode
    (limit : Nat)
    (coin : CoinText)
    (sized : coin.encode.Sized) :
    merge limit .empty coin.encode = some coin := by
  have denom : (textField 1 coin.denom).foldlM (step limit) .empty = some ⟨coin.denom, ""⟩ :=
    foldlM_textField (by simp [step, empty]) (fun default => by rw [default, empty])
  have amount : (textField 2 coin.amount).foldlM (step limit) ⟨coin.denom, ""⟩ = some coin :=
    foldlM_textField (by simp [step]) (fun default => by rw [← default])
  rw [merge, encode, mergeFields_encodeFields limit _ _ _ coin.allWritable_fields sized]
  exact foldlM_append denom amount

end CoinText

namespace Fee

private theorem allWritable_fields (fee : Fee) :
    AllWritable fee.fields := by
  simp only [fields, allWritable_append]
  exact ⟨⟨⟨allWritable_flatMap fun coin => allWritable_nestedField (by decide) (by decide) _,
    allWritable_uintField (by decide) (by decide) _⟩,
    allWritable_textField (by decide) (by decide) _⟩,
    allWritable_textField (by decide) (by decide) _⟩

private theorem merge_encode
    (limit : Nat)
    (fee : Fee)
    (sized : fee.encode.Sized) :
    merge (limit + 1) .empty fee.encode = some fee := by
  have amount :
      (fee.amount.flatMap fun coin => nestedField 1 coin.encode).foldlM (step (limit + 1)) .empty
        = some ⟨fee.amount, 0, "", ""⟩ :=
    foldlM_nestedList (fun held => Fee.mk held 0 "" "") (CoinText.merge_encode limit)
      (fun _ _ => rfl) fee.amount
      (List.subset_append_of_subset_left _ (List.subset_append_of_subset_left _
        (List.subset_append_left _ _))) sized
  have gasLimit : (uintField 2 fee.gasLimit).foldlM (step (limit + 1)) ⟨fee.amount, 0, "", ""⟩
      = some ⟨fee.amount, fee.gasLimit, "", ""⟩ :=
    foldlM_uintField (by simp [step]) (fun default => by rw [default])
  have payer : (textField 3 fee.payer).foldlM (step (limit + 1))
      ⟨fee.amount, fee.gasLimit, "", ""⟩ = some ⟨fee.amount, fee.gasLimit, fee.payer, ""⟩ :=
    foldlM_textField (by simp [step]) (fun default => by rw [default])
  have granter : (textField 4 fee.granter).foldlM (step (limit + 1))
      ⟨fee.amount, fee.gasLimit, fee.payer, ""⟩ = some fee :=
    foldlM_textField (by simp [step]) (fun default => by rw [← default])
  rw [merge, encode, mergeFields_encodeFields _ _ _ _ fee.allWritable_fields sized]
  exact foldlM_append (foldlM_append (foldlM_append amount gasLimit) payer) granter

end Fee

namespace Tip

private theorem allWritable_fields (tip : Tip) :
    AllWritable tip.fields :=
  (allWritable_append _ _).mpr
    ⟨allWritable_flatMap fun coin => allWritable_nestedField (by decide) (by decide) _,
      allWritable_textField (by decide) (by decide) _⟩

private theorem merge_encode
    (limit : Nat)
    (tip : Tip)
    (sized : tip.encode.Sized) :
    merge (limit + 1) .empty tip.encode = some tip := by
  have amount :
      (tip.amount.flatMap fun coin => nestedField 1 coin.encode).foldlM (step (limit + 1)) .empty
        = some ⟨tip.amount, ""⟩ :=
    foldlM_nestedList (fun held => Tip.mk held "") (CoinText.merge_encode limit) (fun _ _ => rfl)
      tip.amount (List.subset_append_left _ _) sized
  have tipper : (textField 2 tip.tipper).foldlM (step (limit + 1)) ⟨tip.amount, ""⟩ = some tip :=
    foldlM_textField (by simp [step]) (fun default => by rw [← default])
  rw [merge, encode, mergeFields_encodeFields _ _ _ _ tip.allWritable_fields sized]
  exact foldlM_append amount tipper

end Tip

/-! ## Signers -/

/-- A number of 32 bits with a sign is spelled with 64 bits and read back from the low ones. -/
theorem toInt32_toInt64_toUInt64 (number : Int32) :
    number.toInt64.toUInt64.toUInt32.toInt32 = number := by
  apply Int32.toBitVec_inj.mp
  ext index indexLt
  simp [BitVec.getLsbD_signExtend, indexLt]
  omega

namespace SigningMode

private theorem mergeSingle_encodeFields
    (limit : Nat)
    (mode : Int32)
    (sized : (encodeFields (singleFields mode)).Sized) :
    mergeSingle limit 0 (encodeFields (singleFields mode)) = some mode := by
  have writable : AllWritable (singleFields mode) :=
    allWritable_uintField (by decide) (by decide) _
  rw [mergeSingle, mergeFields_encodeFields limit _ _ _ writable sized]
  refine foldlM_uintField ?_ fun default => ?_
  · simp [stepSingle, Field.int32?, toInt32_toInt64_toUInt64]
  · have back := toInt32_toInt64_toUInt64 mode
    rw [default] at back
    exact back

private theorem allWritable_fields (mode : SigningMode) :
    AllWritable mode.fields := by
  cases mode with
  | unset => exact List.forall_mem_nil _
  | single mode => exact allWritable_nestedField (by decide) (by decide) _
  | multi => exact allWritable_nestedField (by decide) (by decide) _

private theorem merge_encode
    (limit : Nat)
    (mode : SigningMode)
    (sized : mode.encode.Sized) :
    merge (limit + 2) .unset mode.encode = some mode := by
  rw [merge, encode, mergeFields_encodeFields _ _ _ _ mode.allWritable_fields sized]
  cases mode with
  | unset => rfl
  | single mode =>
      have inner : (encodeFields (singleFields mode)).Sized :=
        sized_of_delimited_mem (List.mem_singleton_self _) sized
      refine foldlM_nestedField ?_
      simp [singleNumber, mergeSingle_encodeFields (limit + 1) mode inner]
  | multi => rfl

end SigningMode

namespace SignerInfo

private theorem allWritable_fields (info : SignerInfo) :
    AllWritable info.fields := by
  simp only [fields, allWritable_append]
  exact ⟨⟨allWritable_flatMap fun key => allWritable_nestedField (by decide) (by decide) _,
    allWritable_flatMap fun mode => allWritable_nestedField (by decide) (by decide) _⟩,
    allWritable_uintField (by decide) (by decide) _⟩

private theorem merge_encode
    (limit : Nat)
    (info : SignerInfo)
    (sized : info.encode.Sized) :
    merge (limit + 3) .empty info.encode = some info := by
  have publicKey :
      (info.publicKey.toList.flatMap fun key => nestedField 1 key.encode).foldlM
          (step (limit + 3)) .empty
        = some ⟨info.publicKey, none, 0⟩ :=
    foldlM_nestedOptional (fun held => SignerInfo.mk held none 0)
      (TypedPayload.merge_encode (limit + 2)) (fun payload => by simp [step, Function.comp_def])
      info.publicKey (List.subset_append_of_subset_left _ (List.subset_append_left _ _)) sized
  have mode :
      (info.mode.toList.flatMap fun mode => nestedField 2 mode.encode).foldlM
          (step (limit + 3)) ⟨info.publicKey, none, 0⟩
        = some ⟨info.publicKey, info.mode, 0⟩ :=
    foldlM_nestedOptional (fun held => SignerInfo.mk info.publicKey held 0)
      (SigningMode.merge_encode limit) (fun payload => by simp [step, Function.comp_def])
      info.mode (List.subset_append_of_subset_left _ (List.subset_append_right _ _)) sized
  have sequence : (uintField 3 info.sequence).foldlM (step (limit + 3))
      ⟨info.publicKey, info.mode, 0⟩ = some info :=
    foldlM_uintField (by simp [step]) (fun default => by rw [← default])
  rw [merge, encode, mergeFields_encodeFields _ _ _ _ info.allWritable_fields sized]
  exact foldlM_append (foldlM_append publicKey mode) sequence

end SignerInfo

/-! ## Auth infos and bodies -/

namespace AuthInfo

private theorem allWritable_fields (info : AuthInfo) :
    AllWritable info.fields := by
  simp only [fields, allWritable_append]
  exact ⟨⟨allWritable_flatMap fun signer => allWritable_nestedField (by decide) (by decide) _,
    allWritable_flatMap fun fee => allWritable_nestedField (by decide) (by decide) _⟩,
    allWritable_flatMap fun tip => allWritable_nestedField (by decide) (by decide) _⟩

theorem decode?_encode
    (info : AuthInfo)
    (sized : info.encode.Sized) :
    decode? info.encode = some info := by
  have signers :
      (info.signers.flatMap fun signer => nestedField 1 signer.encode).foldlM (step 100) .empty
        = some ⟨info.signers, none, none⟩ :=
    foldlM_nestedList (fun held => AuthInfo.mk held none none) (SignerInfo.merge_encode 96)
      (fun _ _ => rfl) info.signers
      (List.subset_append_of_subset_left _ (List.subset_append_left _ _)) sized
  have fee :
      (info.fee.toList.flatMap fun fee => nestedField 2 fee.encode).foldlM (step 100)
          ⟨info.signers, none, none⟩
        = some ⟨info.signers, info.fee, none⟩ :=
    foldlM_nestedOptional (fun held => AuthInfo.mk info.signers held none) (Fee.merge_encode 98)
      (fun payload => by simp [step, Function.comp_def]) info.fee
      (List.subset_append_of_subset_left _ (List.subset_append_right _ _)) sized
  have tip :
      (info.tip.toList.flatMap fun tip => nestedField 3 tip.encode).foldlM (step 100)
          ⟨info.signers, info.fee, none⟩
        = some info :=
    foldlM_nestedOptional (fun held => AuthInfo.mk info.signers info.fee held) (Tip.merge_encode 98)
      (fun payload => by simp [step, Function.comp_def]) info.tip
      (List.subset_append_right _ _) sized
  rw [decode?, encode, mergeFields_encodeFields _ _ _ _ info.allWritable_fields sized]
  exact foldlM_append (foldlM_append signers fee) tip

end AuthInfo

namespace TxBody

private theorem allWritable_fields (body : TxBody) :
    AllWritable body.fields := by
  have payloads (number : Nat) (positive : 0 < number) (numberLt : number < 2 ^ 29)
      (items : List TypedPayload) :
      AllWritable (items.flatMap fun item => nestedField number item.encode) :=
    allWritable_flatMap fun item => allWritable_nestedField positive numberLt _
  simp only [fields, allWritable_append]
  exact ⟨⟨⟨⟨payloads 1 (by decide) (by decide) _, allWritable_textField (by decide) (by decide) _⟩,
    allWritable_uintField (by decide) (by decide) _⟩, payloads 1023 (by decide) (by decide) _⟩,
    payloads 2047 (by decide) (by decide) _⟩

theorem decode?_encode
    (body : TxBody)
    (sized : body.encode.Sized) :
    decode? body.encode = some body := by
  have messages :
      (body.messages.flatMap fun message => nestedField 1 message.encode).foldlM (step 100) .empty
        = some ⟨body.messages, "", 0, [], []⟩ :=
    foldlM_nestedList (fun held => TxBody.mk held "" 0 [] []) (TypedPayload.merge_encode 99)
      (fun _ _ => rfl) body.messages
      (List.subset_append_of_subset_left _ (List.subset_append_of_subset_left _
        (List.subset_append_of_subset_left _ (List.subset_append_left _ _)))) sized
  have memo : (textField 2 body.memo).foldlM (step 100) ⟨body.messages, "", 0, [], []⟩
      = some ⟨body.messages, body.memo, 0, [], []⟩ :=
    foldlM_textField (by simp [step]) (fun default => by rw [default])
  have timeoutHeight : (uintField 3 body.timeoutHeight).foldlM (step 100)
      ⟨body.messages, body.memo, 0, [], []⟩
      = some ⟨body.messages, body.memo, body.timeoutHeight, [], []⟩ :=
    foldlM_uintField (by simp [step]) (fun default => by rw [default])
  have extensionOptions :
      (body.extensionOptions.flatMap fun option => nestedField 1023 option.encode).foldlM (step 100)
          ⟨body.messages, body.memo, body.timeoutHeight, [], []⟩
        = some ⟨body.messages, body.memo, body.timeoutHeight, body.extensionOptions, []⟩ :=
    foldlM_nestedList
      (fun held => TxBody.mk body.messages body.memo body.timeoutHeight held [])
      (TypedPayload.merge_encode 99) (fun _ _ => rfl) body.extensionOptions
      (List.subset_append_of_subset_left _ (List.subset_append_right _ _)) sized
  have nonCriticalExtensionOptions :
      (body.nonCriticalExtensionOptions.flatMap fun option =>
          nestedField 2047 option.encode).foldlM (step 100)
          ⟨body.messages, body.memo, body.timeoutHeight, body.extensionOptions, []⟩
        = some body :=
    foldlM_nestedList
      (fun held =>
        TxBody.mk body.messages body.memo body.timeoutHeight body.extensionOptions held)
      (TypedPayload.merge_encode 99) (fun _ _ => rfl) body.nonCriticalExtensionOptions
      (List.subset_append_right _ _) sized
  rw [decode?, encode, mergeFields_encodeFields _ _ _ _ body.allWritable_fields sized]
  exact foldlM_append (foldlM_append (foldlM_append (foldlM_append messages memo) timeoutHeight)
    extensionOptions) nonCriticalExtensionOptions

end TxBody

/-! ## Transactions, sign docs and public keys -/

namespace TxRaw

theorem allWritable_fields (raw : TxRaw) :
    AllWritable raw.fields := by
  simp only [fields, allWritable_append]
  exact ⟨⟨allWritable_bytesField (by decide) (by decide) _,
    allWritable_bytesField (by decide) (by decide) _⟩,
    allWritable_flatMap fun signature => allWritable_nestedField (by decide) (by decide) _⟩

theorem decode?_encode
    (raw : TxRaw)
    (sized : raw.encode.Sized) :
    decode? raw.encode = some raw := by
  have bodyBytes : (bytesField 1 raw.bodyBytes).foldlM (step 100) .empty
      = some ⟨raw.bodyBytes, [], []⟩ :=
    foldlM_bytesField (by simp [step, empty]) (fun default => by rw [default, empty])
  have authInfoBytes : (bytesField 2 raw.authInfoBytes).foldlM (step 100) ⟨raw.bodyBytes, [], []⟩
      = some ⟨raw.bodyBytes, raw.authInfoBytes, []⟩ :=
    foldlM_bytesField (by simp [step]) (fun default => by rw [default])
  have signatures :
      (raw.signatures.flatMap fun signature => nestedField 3 signature).foldlM (step 100)
          ⟨raw.bodyBytes, raw.authInfoBytes, []⟩
        = some raw :=
    foldlM_delimitedList (fun held => TxRaw.mk raw.bodyBytes raw.authInfoBytes held)
      raw.signatures (fun _ _ _ => rfl)
  rw [decode?, encode, mergeFields_encodeFields _ _ _ _ raw.allWritable_fields sized]
  exact foldlM_append (foldlM_append bodyBytes authInfoBytes) signatures

end TxRaw

namespace SignDoc

theorem allWritable_fields (doc : SignDoc) :
    AllWritable doc.fields := by
  simp only [fields, allWritable_append]
  exact ⟨⟨⟨allWritable_bytesField (by decide) (by decide) _,
    allWritable_bytesField (by decide) (by decide) _⟩,
    allWritable_textField (by decide) (by decide) _⟩,
    allWritable_uintField (by decide) (by decide) _⟩

theorem decode?_encode
    (doc : SignDoc)
    (sized : doc.encode.Sized) :
    decode? doc.encode = some doc := by
  have bodyBytes : (bytesField 1 doc.bodyBytes).foldlM (step 100) .empty
      = some ⟨doc.bodyBytes, [], "", 0⟩ :=
    foldlM_bytesField (by simp [step, empty]) (fun default => by rw [default, empty])
  have authInfoBytes :
      (bytesField 2 doc.authInfoBytes).foldlM (step 100) ⟨doc.bodyBytes, [], "", 0⟩
        = some ⟨doc.bodyBytes, doc.authInfoBytes, "", 0⟩ :=
    foldlM_bytesField (by simp [step]) (fun default => by rw [default])
  have chainId :
      (textField 3 doc.chainId).foldlM (step 100) ⟨doc.bodyBytes, doc.authInfoBytes, "", 0⟩
        = some ⟨doc.bodyBytes, doc.authInfoBytes, doc.chainId, 0⟩ :=
    foldlM_textField (by simp [step]) (fun default => by rw [default])
  have accountNumber :
      (uintField 4 doc.accountNumber).foldlM (step 100)
          ⟨doc.bodyBytes, doc.authInfoBytes, doc.chainId, 0⟩
        = some doc :=
    foldlM_uintField (by simp [step]) (fun default => by rw [← default])
  rw [decode?, encode, mergeFields_encodeFields _ _ _ _ doc.allWritable_fields sized]
  exact foldlM_append (foldlM_append (foldlM_append bodyBytes authInfoBytes) chainId) accountNumber

end SignDoc

theorem decodePublicKey?_encodePublicKey
    (key : Bytes)
    (sized : (encodePublicKey key).Sized) :
    decodePublicKey? (encodePublicKey key) = some key := by
  have writable : AllWritable (bytesField 1 key) :=
    allWritable_bytesField (by decide) (by decide) key
  rw [decodePublicKey?, encodePublicKey, mergeFields_encodeFields _ _ _ _ writable sized]
  exact foldlM_bytesField (by simp [stepPublicKey]) (fun default => default.symm)

end ChainTx.Cosmos
