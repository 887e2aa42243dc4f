import ChainTx.Proofs.Cosmos.Encoding
import Mathlib.Data.List.Forall2

/-!
Contract: the typed payload of a message tells the message.

Owns:
- one law for each body of a message and for each record packed inside one: its reader undoes its
  encoder;
- what a typed payload carries, said by the names of its types and by what the readers find in it;
- that a message is found in its own payload, and that no payload carries two messages.

The number of a vote option and the text of an amount are told by what they stand for, not by how
they are made: an option by a table from numbers to options, an amount by the value of its digits.
-/

set_option autoImplicit false

namespace ChainTx.Cosmos

open Protobuf

/-! ## Numbers with a sign -/

@[simp] theorem int32?_varint (number : Nat) (value : Int32) :
    (Protobuf.Field.mk number (.varint value.toInt64.toUInt64)).int32? = some value := by
  rw [Protobuf.Field.int32?, Protobuf.Field.uint64?_varint, Option.map_some,
    toInt32_toInt64_toUInt64]

@[simp] theorem int64?_varint (number : Nat) (value : Int64) :
    (Protobuf.Field.mk number (.varint value.toUInt64)).int64? = some value := by
  rw [Protobuf.Field.int64?, Protobuf.Field.uint64?_varint, Option.map_some,
    Int64.toInt64_toUInt64]

section Members

variable {Record : Type} {step : Record → Field → Option Record} {record taken : Record}
  {number : Nat}

private theorem foldlM_int32Field
    {value : Int32}
    (takes : step record ⟨number, .varint value.toInt64.toUInt64⟩ = some taken)
    (default : value = 0 → record = taken) :
    (int32Field number value).foldlM step record = some taken := by
  refine foldlM_uintField takes fun isZero => default ?_
  have back := toInt32_toInt64_toUInt64 value
  rw [isZero] at back
  exact back.symm

private theorem foldlM_int64Field
    {value : Int64}
    (takes : step record ⟨number, .varint value.toUInt64⟩ = some taken)
    (default : value = 0 → record = taken) :
    (int64Field number value).foldlM step record = some taken := by
  refine foldlM_uintField takes fun isZero => default ?_
  have back := Int64.toInt64_toUInt64 value
  rw [isZero] at back
  exact back.symm

/-- Two texts are taken in, one behind the other, by a record that holds them. -/
theorem foldlM_textPair
    {first second : Nat}
    (holding : String → String → Record)
    (takesFirst : ∀ text, step (holding "" "") ⟨first, .delimited (Bytes.ofText text)⟩
      = some (holding text ""))
    (takesSecond : ∀ held text, step (holding held "") ⟨second, .delimited (Bytes.ofText text)⟩
      = some (holding held text))
    (held text : String) :
    (textField first held ++ textField second text).foldlM step (holding "" "")
      = some (holding held text) :=
  foldlM_append (foldlM_textField (takesFirst held) fun default => by rw [default])
    (foldlM_textField (takesSecond held text) fun default => by rw [default])

end Members

/-! ## Votes -/

namespace VoteBody

private theorem allWritable_fields (body : VoteBody) :
    AllWritable body.fields := by
  simp only [fields, allWritable_append]
  exact ⟨⟨allWritable_uintField (by decide) (by decide) _,
    allWritable_textField (by decide) (by decide) _⟩,
    allWritable_uintField (by decide) (by decide) _⟩

private theorem decode?_encode
    (body : VoteBody)
    (sized : body.encode.Sized) :
    decode? body.encode = some body := by
  have proposalId : (uintField 1 body.proposalId).foldlM (step 100) .empty
      = some ⟨body.proposalId, "", 0⟩ :=
    foldlM_uintField (by simp [step, empty]) (fun default => by rw [default, empty])
  have voter : (textField 2 body.voter).foldlM (step 100) ⟨body.proposalId, "", 0⟩
      = some ⟨body.proposalId, body.voter, 0⟩ :=
    foldlM_textField (by simp [step]) (fun default => by rw [default])
  have option : (int32Field 3 body.option).foldlM (step 100) ⟨body.proposalId, body.voter, 0⟩
      = some body :=
    foldlM_int32Field (by simp [step]) (fun default => by rw [← default])
  rw [decode?, merge, encode, mergeFields_encodeFields _ _ _ _ body.allWritable_fields sized]
  exact foldlM_append (foldlM_append proposalId voter) option

end VoteBody

namespace AnnotatedVoteBody

private theorem allWritable_fields (body : AnnotatedVoteBody) :
    AllWritable body.fields := by
  simp only [fields, allWritable_append]
  exact ⟨⟨⟨allWritable_uintField (by decide) (by decide) _,
    allWritable_textField (by decide) (by decide) _⟩,
    allWritable_uintField (by decide) (by decide) _⟩,
    allWritable_textField (by decide) (by decide) _⟩

private theorem decode?_encode
    (body : AnnotatedVoteBody)
    (sized : body.encode.Sized) :
    decode? body.encode = some body := by
  have proposalId : (uintField 1 body.proposalId).foldlM (step 100) .empty
      = some ⟨body.proposalId, "", 0, ""⟩ :=
    foldlM_uintField (by simp [step, empty]) (fun default => by rw [default, empty])
  have voter : (textField 2 body.voter).foldlM (step 100) ⟨body.proposalId, "", 0, ""⟩
      = some ⟨body.proposalId, body.voter, 0, ""⟩ :=
    foldlM_textField (by simp [step]) (fun default => by rw [default])
  have option : (int32Field 3 body.option).foldlM (step 100) ⟨body.proposalId, body.voter, 0, ""⟩
      = some ⟨body.proposalId, body.voter, body.option, ""⟩ :=
    foldlM_int32Field (by simp [step]) (fun default => by rw [default])
  have metadata : (textField 4 body.metadata).foldlM (step 100)
      ⟨body.proposalId, body.voter, body.option, ""⟩ = some body :=
    foldlM_textField (by simp [step]) (fun default => by rw [← default])
  rw [decode?, merge, encode, mergeFields_encodeFields _ _ _ _ body.allWritable_fields sized]
  exact foldlM_append (foldlM_append (foldlM_append proposalId voter) option) metadata

end AnnotatedVoteBody

/-! ## Transfers and delegations -/

namespace SendBody

private theorem allWritable_fields (body : SendBody) :
    AllWritable body.fields := by
  simp only [fields, allWritable_append]
  exact ⟨⟨allWritable_textField (by decide) (by decide) _,
    allWritable_textField (by decide) (by decide) _⟩,
    allWritable_flatMap fun coin => allWritable_nestedField (by decide) (by decide) _⟩

private theorem decode?_encode
    (body : SendBody)
    (sized : body.encode.Sized) :
    decode? body.encode = some body := by
  have addresses :
      (textField 1 body.fromAddress ++ textField 2 body.toAddress).foldlM (step 100) .empty
        = some ⟨body.fromAddress, body.toAddress, []⟩ :=
    foldlM_textPair (fun fromAddress toAddress => SendBody.mk fromAddress toAddress [])
      (fun _ => by simp [step]) (fun _ _ => by simp [step]) _ _
  have amount :
      (body.amount.flatMap fun coin => nestedField 3 coin.encode).foldlM (step 100)
          ⟨body.fromAddress, body.toAddress, []⟩
        = some body :=
    foldlM_nestedList (fun held => SendBody.mk body.fromAddress body.toAddress held)
      (CoinText.merge_encode 99) (fun _ _ => rfl) body.amount (List.subset_append_right _ _) sized
  rw [decode?, merge, encode, mergeFields_encodeFields _ _ _ _ body.allWritable_fields sized]
  exact foldlM_append addresses amount

end SendBody

namespace DelegateBody

private theorem allWritable_fields (body : DelegateBody) :
    AllWritable body.fields := by
  simp only [fields, allWritable_append]
  exact ⟨⟨allWritable_textField (by decide) (by decide) _,
    allWritable_textField (by decide) (by decide) _⟩,
    allWritable_flatMap fun coin => allWritable_nestedField (by decide) (by decide) _⟩

private theorem decode?_encode
    (body : DelegateBody)
    (sized : body.encode.Sized) :
    decode? body.encode = some body := by
  have addresses :
      (textField 1 body.delegator ++ textField 2 body.validator).foldlM (step 100) .empty
        = some ⟨body.delegator, body.validator, none⟩ :=
    foldlM_textPair (fun delegator validator => DelegateBody.mk delegator validator none)
      (fun _ => by simp [step]) (fun _ _ => by simp [step]) _ _
  have amount :
      (body.amount.toList.flatMap fun coin => nestedField 3 coin.encode).foldlM (step 100)
          ⟨body.delegator, body.validator, none⟩
        = some body :=
    foldlM_nestedOptional (fun held => DelegateBody.mk body.delegator body.validator held)
      (CoinText.merge_encode 99) (fun payload => by simp [step, Function.comp_def]) body.amount
      (List.subset_append_right _ _) sized
  rw [decode?, merge, encode, mergeFields_encodeFields _ _ _ _ body.allWritable_fields sized]
  exact foldlM_append addresses amount

end DelegateBody

/-! ## Grants -/

namespace Timestamp

private theorem allWritable_fields (time : Timestamp) :
    AllWritable time.fields :=
  (allWritable_append _ _).mpr
    ⟨allWritable_uintField (by decide) (by decide) _,
      allWritable_uintField (by decide) (by decide) _⟩

private theorem merge_encode
    (limit : Nat)
    (time : Timestamp)
    (sized : time.encode.Sized) :
    merge limit .empty time.encode = some time := by
  have seconds : (int64Field 1 time.seconds).foldlM (step limit) .empty
      = some ⟨time.seconds, 0⟩ :=
    foldlM_int64Field (by simp [step, empty]) (fun default => by rw [default, empty])
  have nanos : (int32Field 2 time.nanos).foldlM (step limit) ⟨time.seconds, 0⟩ = some time :=
    foldlM_int32Field (by simp [step]) (fun default => by rw [← default])
  rw [merge, encode, mergeFields_encodeFields limit _ _ _ time.allWritable_fields sized]
  exact foldlM_append seconds nanos

end Timestamp

private theorem GenericAuthorization.decode?_encode
    (body : GenericAuthorization)
    (sized : body.encode.Sized) :
    decode? body.encode = some body := by
  have writable : AllWritable body.fields :=
    allWritable_textField (by decide) (by decide) _
  rw [decode?, merge, encode, mergeFields_encodeFields _ _ _ _ writable sized]
  exact foldlM_textField (by simp [step]) (fun default => by rw [empty, ← default])

namespace Grant

private theorem allWritable_fields (body : Grant) :
    AllWritable body.fields :=
  (allWritable_append _ _).mpr
    ⟨allWritable_flatMap fun right => allWritable_nestedField (by decide) (by decide) _,
      allWritable_flatMap fun time => allWritable_nestedField (by decide) (by decide) _⟩

private theorem merge_encode
    (limit : Nat)
    (body : Grant)
    (sized : body.encode.Sized) :
    merge (limit + 1) .empty body.encode = some body := by
  have authorization :
      (body.authorization.toList.flatMap fun right => nestedField 1 right.encode).foldlM
          (step (limit + 1)) .empty
        = some ⟨body.authorization, none⟩ :=
    foldlM_nestedOptional (fun held => Grant.mk held none) (TypedPayload.merge_encode limit)
      (fun payload => by simp [step, Function.comp_def]) body.authorization
      (List.subset_append_left _ _) sized
  have expiration :
      (body.expiration.toList.flatMap fun time => nestedField 2 time.encode).foldlM
          (step (limit + 1)) ⟨body.authorization, none⟩
        = some body :=
    foldlM_nestedOptional (fun held => Grant.mk body.authorization held)
      (Timestamp.merge_encode limit) (fun payload => by simp [step, Function.comp_def])
      body.expiration (List.subset_append_right _ _) sized
  rw [merge, encode, mergeFields_encodeFields _ _ _ _ body.allWritable_fields sized]
  exact foldlM_append authorization expiration

end Grant

namespace GrantBody

private theorem allWritable_fields (body : GrantBody) :
    AllWritable body.fields := by
  simp only [fields, allWritable_append]
  exact ⟨⟨allWritable_textField (by decide) (by decide) _,
    allWritable_textField (by decide) (by decide) _⟩,
    allWritable_flatMap fun grant => allWritable_nestedField (by decide) (by decide) _⟩

private theorem decode?_encode
    (body : GrantBody)
    (sized : body.encode.Sized) :
    decode? body.encode = some body := by
  have addresses :
      (textField 1 body.granter ++ textField 2 body.grantee).foldlM (step 100) .empty
        = some ⟨body.granter, body.grantee, none⟩ :=
    foldlM_textPair (fun granter grantee => GrantBody.mk granter grantee none)
      (fun _ => by simp [step]) (fun _ _ => by simp [step]) _ _
  have grant :
      (body.grant.toList.flatMap fun grant => nestedField 3 grant.encode).foldlM (step 100)
          ⟨body.granter, body.grantee, none⟩
        = some body :=
    foldlM_nestedOptional (fun held => GrantBody.mk body.granter body.grantee held)
      (Grant.merge_encode 98) (fun payload => by simp [step, Function.comp_def]) body.grant
      (List.subset_append_right _ _) sized
  rw [decode?, merge, encode, mergeFields_encodeFields _ _ _ _ body.allWritable_fields sized]
  exact foldlM_append addresses grant

end GrantBody

namespace BasicAllowance

private theorem allWritable_fields (body : BasicAllowance) :
    AllWritable body.fields :=
  (allWritable_append _ _).mpr
    ⟨allWritable_flatMap fun coin => allWritable_nestedField (by decide) (by decide) _,
      allWritable_flatMap fun time => allWritable_nestedField (by decide) (by decide) _⟩

private theorem decode?_encode
    (body : BasicAllowance)
    (sized : body.encode.Sized) :
    decode? body.encode = some body := by
  have spendLimit :
      (body.spendLimit.flatMap fun coin => nestedField 1 coin.encode).foldlM (step 100) .empty
        = some ⟨body.spendLimit, none⟩ :=
    foldlM_nestedList (fun held => BasicAllowance.mk held none) (CoinText.merge_encode 99)
      (fun _ _ => rfl) body.spendLimit (List.subset_append_left _ _) sized
  have expiration :
      (body.expiration.toList.flatMap fun time => nestedField 2 time.encode).foldlM (step 100)
          ⟨body.spendLimit, none⟩
        = some body :=
    foldlM_nestedOptional (fun held => BasicAllowance.mk body.spendLimit held)
      (Timestamp.merge_encode 99) (fun payload => by simp [step, Function.comp_def])
      body.expiration (List.subset_append_right _ _) sized
  rw [decode?, merge, encode, mergeFields_encodeFields _ _ _ _ body.allWritable_fields sized]
  exact foldlM_append spendLimit expiration

end BasicAllowance

namespace AllowanceBody

private theorem allWritable_fields (body : AllowanceBody) :
    AllWritable body.fields := by
  simp only [fields, allWritable_append]
  exact ⟨⟨allWritable_textField (by decide) (by decide) _,
    allWritable_textField (by decide) (by decide) _⟩,
    allWritable_flatMap fun allowance => allWritable_nestedField (by decide) (by decide) _⟩

private theorem decode?_encode
    (body : AllowanceBody)
    (sized : body.encode.Sized) :
    decode? body.encode = some body := by
  have addresses :
      (textField 1 body.granter ++ textField 2 body.grantee).foldlM (step 100) .empty
        = some ⟨body.granter, body.grantee, none⟩ :=
    foldlM_textPair (fun granter grantee => AllowanceBody.mk granter grantee none)
      (fun _ => by simp [step]) (fun _ _ => by simp [step]) _ _
  have allowance :
      (body.allowance.toList.flatMap fun allowance => nestedField 3 allowance.encode).foldlM
          (step 100) ⟨body.granter, body.grantee, none⟩
        = some body :=
    foldlM_nestedOptional (fun held => AllowanceBody.mk body.granter body.grantee held)
      (TypedPayload.merge_encode 99) (fun payload => by simp [step, Function.comp_def])
      body.allowance (List.subset_append_right _ _) sized
  rw [decode?, merge, encode, mergeFields_encodeFields _ _ _ _ body.allWritable_fields sized]
  exact foldlM_append addresses allowance

end AllowanceBody

/-! ## Payloads inside bodies -/

private theorem TypedPayload.sized_value
    {payload : TypedPayload}
    (sized : payload.encode.Sized) :
    payload.value.Sized :=
  sized_of_bytesField (List.subset_append_right _ _) sized

private theorem GrantBody.sized_right
    {granter grantee : String}
    {right : TypedPayload}
    (sized : (GrantBody.mk granter grantee (some ⟨some right, none⟩)).encode.Sized) :
    right.value.Sized := by
  have grantSized : (Grant.mk (some right) none).encode.Sized :=
    sized_of_nestedList 3 Grant.encode (List.subset_append_right _ _)
      (List.mem_singleton_self _) sized
  have payloadSized : right.encode.Sized :=
    sized_of_nestedList 1 TypedPayload.encode (List.subset_append_left _ _)
      (List.mem_singleton_self _) grantSized
  exact TypedPayload.sized_value payloadSized

private theorem AllowanceBody.sized_allowance
    {granter grantee : String}
    {allowance : TypedPayload}
    (sized : (AllowanceBody.mk granter grantee (some allowance)).encode.Sized) :
    allowance.value.Sized := by
  have payloadSized : allowance.encode.Sized :=
    sized_of_nestedList 3 TypedPayload.encode (List.subset_append_right _ _)
      (List.mem_singleton_self _) sized
  exact TypedPayload.sized_value payloadSized

/-! ## Numbers of options and texts of coins -/

namespace VoteOption

/-- The vote option that a number stands for. -/
def ofNumber? (number : Int32) : Option VoteOption :=
  if number = 1 then some .yes
  else if number = 2 then some .abstain
  else if number = 3 then some .no
  else if number = 4 then some .noWithVeto
  else none

private theorem ofNumber?_number (option : VoteOption) :
    ofNumber? option.number = some option := by
  cases option <;> rfl

end VoteOption

namespace CoinText

/-- The texts are a coin's denomination and the digits of its amount. -/
def Writes (text : CoinText) (coin : Coin) : Prop :=
  text.denom = coin.denom ∧ Decimal.IsCanonical text.amount.toList coin.amount.toNat

variable {text : CoinText} {left right : Coin}

private theorem writes_ofCoin (coin : Coin) :
    (ofCoin coin).Writes coin := by
  refine ⟨rfl, ?_⟩
  rw [ofCoin, Decimal.text, String.toList_ofList]
  exact Decimal.isCanonical_digits coin.amount.toNat

private theorem Writes.unique
    (writesLeft : text.Writes left)
    (writesRight : text.Writes right) :
    left = right := by
  have sameAmount : left.amount = right.amount :=
    BitVec.eq_of_toNat_eq (writesLeft.2.value_eq.symm.trans writesRight.2.value_eq)
  have sameDenom : left.denom = right.denom := writesLeft.1.symm.trans writesRight.1
  cases left
  cases right
  simp_all only

private theorem forall₂_writes_ofCoin (coins : List Coin) :
    List.Forall₂ Writes (coins.map ofCoin) coins :=
  List.forall₂_map_left_iff.mpr (List.forall₂_same.mpr fun coin _ => writes_ofCoin coin)

private theorem eq_of_forall₂_writes
    {texts : List CoinText}
    {left right : List Coin}
    (writesLeft : List.Forall₂ Writes texts left)
    (writesRight : List.Forall₂ Writes texts right) :
    left = right := by
  have unique : Relator.RightUnique Writes := fun _ _ _ => Writes.unique
  exact unique.forall₂ writesLeft writesRight

end CoinText

/-! ## Kinds of messages -/

/-- The kinds of messages; votes have two forms. -/
inductive Message.Kind where
  | vote
  | annotatedVote
  | send
  | delegate
  | authzGrant
  | feegrantAllowance
deriving DecidableEq, Repr

/-- The kind that a type URL names. -/
def Message.Kind.ofTypeUrl? (typeUrl : String) : Option Message.Kind :=
  if typeUrl = "/cosmos.gov.v1beta1.MsgVote" then some .vote
  else if typeUrl = "/cosmos.gov.v1.MsgVote" then some .annotatedVote
  else if typeUrl = "/cosmos.bank.v1beta1.MsgSend" then some .send
  else if typeUrl = "/cosmos.staking.v1beta1.MsgDelegate" then some .delegate
  else if typeUrl = "/cosmos.authz.v1beta1.MsgGrant" then some .authzGrant
  else if typeUrl = "/cosmos.feegrant.v1beta1.MsgGrantAllowance" then some .feegrantAllowance
  else none

/-- The kind of a message, for a choice between the forms of votes. -/
def Message.kind (govV1 : Bool) : Message → Kind
  | .vote .. => if govV1 then .annotatedVote else .vote
  | .send .. => .send
  | .delegate .. => .delegate
  | .authzGrant .. => .authzGrant
  | .feegrantAllowance .. => .feegrantAllowance

/-! ## What a typed payload carries -/

namespace TypedPayload

/-- A payload carries a message if its type is the message's kind and its bytes, read as a body of that
kind, give the fields of the message. -/
inductive Carries (payload : TypedPayload) : Bool → Message → Prop where
  | vote {voter proposalId option number}
      (kind : Message.Kind.ofTypeUrl? payload.typeUrl = some .vote)
      (body : VoteBody.decode? payload.value = some ⟨proposalId, voter, number⟩)
      (stands : VoteOption.ofNumber? number = some option) :
      Carries payload false (.vote voter proposalId option)
  | annotatedVote {voter proposalId option number}
      (kind : Message.Kind.ofTypeUrl? payload.typeUrl = some .annotatedVote)
      (body : AnnotatedVoteBody.decode? payload.value = some ⟨proposalId, voter, number, ""⟩)
      (stands : VoteOption.ofNumber? number = some option) :
      Carries payload true (.vote voter proposalId option)
  | send {govV1 fromAddress toAddress text amount}
      (kind : Message.Kind.ofTypeUrl? payload.typeUrl = some .send)
      (body : SendBody.decode? payload.value = some ⟨fromAddress, toAddress, [text]⟩)
      (writes : CoinText.Writes text amount) :
      Carries payload govV1 (.send fromAddress toAddress amount)
  | delegate {govV1 delegator validator text amount}
      (kind : Message.Kind.ofTypeUrl? payload.typeUrl = some .delegate)
      (body : DelegateBody.decode? payload.value = some ⟨delegator, validator, some text⟩)
      (writes : CoinText.Writes text amount) :
      Carries payload govV1 (.delegate delegator validator amount)
  | authzGrant {govV1 granter grantee messageType} {right : TypedPayload}
      (kind : Message.Kind.ofTypeUrl? payload.typeUrl = some .authzGrant)
      (body : GrantBody.decode? payload.value = some ⟨granter, grantee, some ⟨some right, none⟩⟩)
      (rightType : right.typeUrl = "/cosmos.authz.v1beta1.GenericAuthorization")
      (rightBody : GenericAuthorization.decode? right.value = some ⟨messageType⟩) :
      Carries payload govV1 (.authzGrant granter grantee messageType)
  | feegrantAllowance {govV1 granter grantee texts spendLimit} {allowance : TypedPayload}
      (kind : Message.Kind.ofTypeUrl? payload.typeUrl = some .feegrantAllowance)
      (body : AllowanceBody.decode? payload.value = some ⟨granter, grantee, some allowance⟩)
      (allowanceType : allowance.typeUrl = "/cosmos.feegrant.v1beta1.BasicAllowance")
      (allowanceBody : BasicAllowance.decode? allowance.value = some ⟨texts, none⟩)
      (writes : List.Forall₂ CoinText.Writes texts spendLimit) :
      Carries payload govV1 (.feegrantAllowance granter grantee spendLimit)

variable {payload : TypedPayload} {leftForm rightForm govV1 : Bool} {left right message : Message}

private theorem Carries.kind_eq
    (carries : payload.Carries govV1 message) :
    Message.Kind.ofTypeUrl? payload.typeUrl = some (message.kind govV1) := by
  cases carries <;> assumption

/-- A payload carries one message, and a vote in one form. -/
theorem Carries.unique
    (carriesLeft : payload.Carries leftForm left)
    (carriesRight : payload.Carries rightForm right) :
    left = right := by
  have sameKind : left.kind leftForm = right.kind rightForm :=
    Option.some.inj (carriesLeft.kind_eq.symm.trans carriesRight.kind_eq)
  cases carriesLeft with
  | vote _ body stands =>
      cases carriesRight with
      | vote _ otherBody otherStands =>
          cases body.symm.trans otherBody
          cases stands.symm.trans otherStands
          rfl
      | _ => cases sameKind
  | annotatedVote _ body stands =>
      cases carriesRight with
      | annotatedVote _ otherBody otherStands =>
          cases body.symm.trans otherBody
          cases stands.symm.trans otherStands
          rfl
      | _ => cases sameKind
  | send _ body writes =>
      cases carriesRight with
      | send _ otherBody otherWrites =>
          cases body.symm.trans otherBody
          rw [writes.unique otherWrites]
      | _ => cases sameKind
  | delegate _ body writes =>
      cases carriesRight with
      | delegate _ otherBody otherWrites =>
          cases body.symm.trans otherBody
          rw [writes.unique otherWrites]
      | _ => cases sameKind
  | authzGrant _ body _ rightBody =>
      cases carriesRight with
      | authzGrant _ otherBody _ otherRightBody =>
          cases body.symm.trans otherBody
          cases rightBody.symm.trans otherRightBody
          rfl
      | _ => cases sameKind
  | feegrantAllowance _ body _ allowanceBody writes =>
      cases carriesRight with
      | feegrantAllowance _ otherBody _ otherAllowanceBody otherWrites =>
          cases body.symm.trans otherBody
          cases allowanceBody.symm.trans otherAllowanceBody
          rw [CoinText.eq_of_forall₂_writes writes otherWrites]
      | _ => cases sameKind

end TypedPayload

namespace Message

variable {govV1 otherForm : Bool} {message other : Message}

/-- A message is found in its payload, and what is packed inside it in the payload inside. -/
theorem carries_pack
    (sized : (message.pack govV1).value.Sized) :
    (message.pack govV1).Carries govV1 message := by
  cases message with
  | vote voter proposalId option =>
      cases govV1 with
      | false => exact .vote rfl (VoteBody.decode?_encode _ sized) option.ofNumber?_number
      | true =>
          exact .annotatedVote rfl (AnnotatedVoteBody.decode?_encode _ sized)
            option.ofNumber?_number
  | send fromAddress toAddress amount =>
      exact .send rfl (SendBody.decode?_encode _ sized) (CoinText.writes_ofCoin amount)
  | delegate delegator validator amount =>
      exact .delegate rfl (DelegateBody.decode?_encode _ sized) (CoinText.writes_ofCoin amount)
  | authzGrant granter grantee messageType =>
      exact .authzGrant rfl (GrantBody.decode?_encode _ sized) rfl
        (GenericAuthorization.decode?_encode _ (GrantBody.sized_right sized))
  | feegrantAllowance granter grantee spendLimit =>
      exact .feegrantAllowance rfl (AllowanceBody.decode?_encode _ sized) rfl
        (BasicAllowance.decode?_encode _ (AllowanceBody.sized_allowance sized))
        (CoinText.forall₂_writes_ofCoin spendLimit)

/-- The type of a payload names the kind of its message and the form of a vote. -/
theorem kind_of_pack (govV1 : Bool) (message : Message) :
    Kind.ofTypeUrl? (message.pack govV1).typeUrl = some (message.kind govV1) := by
  cases message <;> cases govV1 <;> rfl

private theorem kind_vote_inj
    {voter : String}
    {proposalId : UInt64}
    {option : VoteOption}
    (sameKind : (vote voter proposalId option).kind otherForm
      = (vote voter proposalId option).kind govV1) :
    otherForm = govV1 := by
  cases otherForm <;> cases govV1 <;> first | rfl | cases sameKind

/-- A message is packed faithfully and no two are packed alike. The type of the payload names the kind
of the message and, for a vote, its form; the bytes, read as a body of that kind, give back the fields
of the message; so equal payloads come from equal messages, and from votes of one form. -/
theorem packed_faithfully
    (govV1 : Bool)
    (message : Message)
    (sized : (message.pack govV1).value.Sized) :
    Kind.ofTypeUrl? (message.pack govV1).typeUrl = some (message.kind govV1)
      ∧ (message.pack govV1).Carries govV1 message
      ∧ ∀ (otherForm : Bool) (other : Message),
        other.pack otherForm = message.pack govV1 →
          other = message
            ∧ ∀ voter proposalId option, message = .vote voter proposalId option →
              otherForm = govV1 := by
  refine ⟨kind_of_pack govV1 message, carries_pack sized, fun otherForm other samePayload => ?_⟩
  have otherCarries : (other.pack otherForm).Carries otherForm other := by
    refine carries_pack ?_
    rw [samePayload]
    exact sized
  rw [samePayload] at otherCarries
  have sameMessage : other = message := otherCarries.unique (carries_pack sized)
  have sameKind : other.kind otherForm = message.kind govV1 :=
    Option.some.inj (otherCarries.kind_eq.symm.trans (kind_of_pack govV1 message))
  refine ⟨sameMessage, ?_⟩
  rintro voter proposalId option rfl
  rw [sameMessage] at sameKind
  exact kind_vote_inj sameKind

/-- A grant most of whose fields are at their defaults, with a coin of no amount and no denomination and
with the largest amount. -/
def sampleAllowance : Message :=
  .feegrantAllowance "" "" [⟨0, ""⟩, ⟨340282366920938463463374607431768211455, "a"⟩]

/-- A coin without amount and denomination leaves its mark: the payload carries both coins, and is not
the one for the second coin alone. -/
theorem packed_sampleAllowance :
    (sampleAllowance.pack false).value.Sized
      ∧ (sampleAllowance.pack false).Carries false sampleAllowance
      ∧ Message.pack false (.feegrantAllowance "" "" [⟨340282366920938463463374607431768211455, "a"⟩])
        ≠ sampleAllowance.pack false := by
  have sized : (sampleAllowance.pack false).value.Sized := by
    rw [Bytes.Sized]
    decide +kernel
  obtain ⟨-, carries, binds⟩ := packed_faithfully false sampleAllowance sized
  refine ⟨sized, carries, fun samePayload => ?_⟩
  have sameMessage := (binds _ _ samePayload).1
  cases sameMessage

end Message

end ChainTx.Cosmos
