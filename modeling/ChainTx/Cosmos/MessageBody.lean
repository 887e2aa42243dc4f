import ChainTx.Cosmos.Message
import ChainTx.Cosmos.Transaction

/-!
Contract: the protobuf bodies of messages.

Owns: one record for each kind of message and for what is packed inside it, with the encoder and the
reader of each, the type URLs, and the typed payload of a message.

Does not own: how a message comes from a payload in JSON.
-/

set_option autoImplicit false

namespace ChainTx.Cosmos

open Protobuf

/-! ## Governance votes -/

/-- A vote in the first form. -/
structure VoteBody where
  proposalId : UInt64
  voter : String
  option : Int32
deriving DecidableEq, Repr

namespace VoteBody

/-- The record without parts. -/
def empty : VoteBody := ⟨0, "", 0⟩

def fields (body : VoteBody) : List Field :=
  uintField 1 body.proposalId ++ textField 2 body.voter ++ int32Field 3 body.option

def encode (body : VoteBody) : Bytes :=
  encodeFields body.fields

def step (limit : Nat) (body : VoteBody) (field : Field) : Option VoteBody :=
  match field.number with
  | 1 => field.uint64?.map fun proposalId => { body with proposalId }
  | 2 => field.text?.map fun voter => { body with voter }
  | 3 => field.int32?.map fun option => { body with option }
  | _ => skipUnknown limit body

def merge (limit : Nat) (body : VoteBody) (bytes : Bytes) : Option VoteBody :=
  mergeFields limit (step limit) body bytes

def decode? (bytes : Bytes) : Option VoteBody :=
  merge nestingLimit empty bytes

end VoteBody

/-- A vote in the second form, with room for a note. -/
structure AnnotatedVoteBody where
  proposalId : UInt64
  voter : String
  option : Int32
  metadata : String
deriving DecidableEq, Repr

namespace AnnotatedVoteBody

/-- The record without parts. -/
def empty : AnnotatedVoteBody := ⟨0, "", 0, ""⟩

def fields (body : AnnotatedVoteBody) : List Field :=
  uintField 1 body.proposalId ++ textField 2 body.voter ++ int32Field 3 body.option
    ++ textField 4 body.metadata

def encode (body : AnnotatedVoteBody) : Bytes :=
  encodeFields body.fields

def step (limit : Nat) (body : AnnotatedVoteBody) (field : Field) : Option AnnotatedVoteBody :=
  match field.number with
  | 1 => field.uint64?.map fun proposalId => { body with proposalId }
  | 2 => field.text?.map fun voter => { body with voter }
  | 3 => field.int32?.map fun option => { body with option }
  | 4 => field.text?.map fun metadata => { body with metadata }
  | _ => skipUnknown limit body

def merge (limit : Nat) (body : AnnotatedVoteBody) (bytes : Bytes) : Option AnnotatedVoteBody :=
  mergeFields limit (step limit) body bytes

def decode? (bytes : Bytes) : Option AnnotatedVoteBody :=
  merge nestingLimit empty bytes

end AnnotatedVoteBody

/-! ## Transfers and delegations -/

structure SendBody where
  fromAddress : String
  toAddress : String
  amount : List CoinText
deriving DecidableEq, Repr

namespace SendBody

/-- The record without parts. -/
def empty : SendBody := ⟨"", "", []⟩

def fields (body : SendBody) : List Field :=
  textField 1 body.fromAddress ++ textField 2 body.toAddress
    ++ body.amount.flatMap (fun coin => nestedField 3 coin.encode)

def encode (body : SendBody) : Bytes :=
  encodeFields body.fields

def step (limit : Nat) (body : SendBody) (field : Field) : Option SendBody :=
  match field.number with
  | 1 => field.text?.map fun fromAddress => { body with fromAddress }
  | 2 => field.text?.map fun toAddress => { body with toAddress }
  | 3 => (mergeNested limit CoinText.merge .empty field).map fun coin =>
      { body with amount := body.amount ++ [coin] }
  | _ => skipUnknown limit body

def merge (limit : Nat) (body : SendBody) (bytes : Bytes) : Option SendBody :=
  mergeFields limit (step limit) body bytes

def decode? (bytes : Bytes) : Option SendBody :=
  merge nestingLimit empty bytes

end SendBody

structure DelegateBody where
  delegator : String
  validator : String
  amount : Option CoinText
deriving DecidableEq, Repr

namespace DelegateBody

/-- The record without parts. -/
def empty : DelegateBody := ⟨"", "", none⟩

def fields (body : DelegateBody) : List Field :=
  textField 1 body.delegator ++ textField 2 body.validator
    ++ body.amount.toList.flatMap (fun inner => nestedField 3 inner.encode)

def encode (body : DelegateBody) : Bytes :=
  encodeFields body.fields

def step (limit : Nat) (body : DelegateBody) (field : Field) : Option DelegateBody :=
  match field.number with
  | 1 => field.text?.map fun delegator => { body with delegator }
  | 2 => field.text?.map fun validator => { body with validator }
  | 3 => (mergeOptional limit CoinText.merge .empty body.amount field).map
      fun amount => { body with amount }
  | _ => skipUnknown limit body

def merge (limit : Nat) (body : DelegateBody) (bytes : Bytes) : Option DelegateBody :=
  mergeFields limit (step limit) body bytes

def decode? (bytes : Bytes) : Option DelegateBody :=
  merge nestingLimit empty bytes

end DelegateBody

/-! ## Grants -/

structure Timestamp where
  seconds : Int64
  nanos : Int32
deriving DecidableEq, Repr

namespace Timestamp

/-- The record without parts. -/
def empty : Timestamp := ⟨0, 0⟩

def fields (time : Timestamp) : List Field :=
  int64Field 1 time.seconds ++ int32Field 2 time.nanos

def encode (time : Timestamp) : Bytes :=
  encodeFields time.fields

def step (limit : Nat) (time : Timestamp) (field : Field) : Option Timestamp :=
  match field.number with
  | 1 => field.int64?.map fun seconds => { time with seconds }
  | 2 => field.int32?.map fun nanos => { time with nanos }
  | _ => skipUnknown limit time

def merge (limit : Nat) (time : Timestamp) (bytes : Bytes) : Option Timestamp :=
  mergeFields limit (step limit) time bytes

def decode? (bytes : Bytes) : Option Timestamp :=
  merge nestingLimit empty bytes

end Timestamp

/-- The right to send messages of one type. -/
structure GenericAuthorization where
  messageType : String
deriving DecidableEq, Repr

namespace GenericAuthorization

/-- The record without parts. -/
def empty : GenericAuthorization := ⟨""⟩

def fields (body : GenericAuthorization) : List Field :=
  textField 1 body.messageType

def encode (body : GenericAuthorization) : Bytes :=
  encodeFields body.fields

def step (limit : Nat) (body : GenericAuthorization) (field : Field) : Option GenericAuthorization :=
  match field.number with
  | 1 => field.text?.map fun messageType => { body with messageType }
  | _ => skipUnknown limit body

def merge (limit : Nat) (body : GenericAuthorization) (bytes : Bytes) : Option GenericAuthorization :=
  mergeFields limit (step limit) body bytes

def decode? (bytes : Bytes) : Option GenericAuthorization :=
  merge nestingLimit empty bytes

end GenericAuthorization

/-- A right and the time at which it ends. -/
structure Grant where
  authorization : Option TypedPayload
  expiration : Option Timestamp
deriving DecidableEq, Repr

namespace Grant

/-- The record without parts. -/
def empty : Grant := ⟨none, none⟩

def fields (body : Grant) : List Field :=
  body.authorization.toList.flatMap (fun inner => nestedField 1 inner.encode)
    ++ body.expiration.toList.flatMap (fun inner => nestedField 2 inner.encode)

def encode (body : Grant) : Bytes :=
  encodeFields body.fields

def step (limit : Nat) (body : Grant) (field : Field) : Option Grant :=
  match field.number with
  | 1 => (mergeOptional limit TypedPayload.merge .empty body.authorization field).map
      fun authorization => { body with authorization }
  | 2 => (mergeOptional limit Timestamp.merge .empty body.expiration field).map
      fun expiration => { body with expiration }
  | _ => skipUnknown limit body

def merge (limit : Nat) (body : Grant) (bytes : Bytes) : Option Grant :=
  mergeFields limit (step limit) body bytes

def decode? (bytes : Bytes) : Option Grant :=
  merge nestingLimit empty bytes

end Grant

structure GrantBody where
  granter : String
  grantee : String
  grant : Option Grant
deriving DecidableEq, Repr

namespace GrantBody

/-- The record without parts. -/
def empty : GrantBody := ⟨"", "", none⟩

def fields (body : GrantBody) : List Field :=
  textField 1 body.granter ++ textField 2 body.grantee
    ++ body.grant.toList.flatMap (fun inner => nestedField 3 inner.encode)

def encode (body : GrantBody) : Bytes :=
  encodeFields body.fields

def step (limit : Nat) (body : GrantBody) (field : Field) : Option GrantBody :=
  match field.number with
  | 1 => field.text?.map fun granter => { body with granter }
  | 2 => field.text?.map fun grantee => { body with grantee }
  | 3 => (mergeOptional limit Grant.merge .empty body.grant field).map
      fun grant => { body with grant }
  | _ => skipUnknown limit body

def merge (limit : Nat) (body : GrantBody) (bytes : Bytes) : Option GrantBody :=
  mergeFields limit (step limit) body bytes

def decode? (bytes : Bytes) : Option GrantBody :=
  merge nestingLimit empty bytes

end GrantBody

/-- A limit on what may be spent, and the time at which it ends. -/
structure BasicAllowance where
  spendLimit : List CoinText
  expiration : Option Timestamp
deriving DecidableEq, Repr

namespace BasicAllowance

/-- The record without parts. -/
def empty : BasicAllowance := ⟨[], none⟩

def fields (body : BasicAllowance) : List Field :=
  body.spendLimit.flatMap (fun coin => nestedField 1 coin.encode)
    ++ body.expiration.toList.flatMap (fun inner => nestedField 2 inner.encode)

def encode (body : BasicAllowance) : Bytes :=
  encodeFields body.fields

def step (limit : Nat) (body : BasicAllowance) (field : Field) : Option BasicAllowance :=
  match field.number with
  | 1 => (mergeNested limit CoinText.merge .empty field).map fun coin =>
      { body with spendLimit := body.spendLimit ++ [coin] }
  | 2 => (mergeOptional limit Timestamp.merge .empty body.expiration field).map
      fun expiration => { body with expiration }
  | _ => skipUnknown limit body

def merge (limit : Nat) (body : BasicAllowance) (bytes : Bytes) : Option BasicAllowance :=
  mergeFields limit (step limit) body bytes

def decode? (bytes : Bytes) : Option BasicAllowance :=
  merge nestingLimit empty bytes

end BasicAllowance

structure AllowanceBody where
  granter : String
  grantee : String
  allowance : Option TypedPayload
deriving DecidableEq, Repr

namespace AllowanceBody

/-- The record without parts. -/
def empty : AllowanceBody := ⟨"", "", none⟩

def fields (body : AllowanceBody) : List Field :=
  textField 1 body.granter ++ textField 2 body.grantee
    ++ body.allowance.toList.flatMap (fun inner => nestedField 3 inner.encode)

def encode (body : AllowanceBody) : Bytes :=
  encodeFields body.fields

def step (limit : Nat) (body : AllowanceBody) (field : Field) : Option AllowanceBody :=
  match field.number with
  | 1 => field.text?.map fun granter => { body with granter }
  | 2 => field.text?.map fun grantee => { body with grantee }
  | 3 => (mergeOptional limit TypedPayload.merge .empty body.allowance field).map
      fun allowance => { body with allowance }
  | _ => skipUnknown limit body

def merge (limit : Nat) (body : AllowanceBody) (bytes : Bytes) : Option AllowanceBody :=
  mergeFields limit (step limit) body bytes

def decode? (bytes : Bytes) : Option AllowanceBody :=
  merge nestingLimit empty bytes

end AllowanceBody

/-! ## Typed payloads of messages -/

namespace TypeUrl

/-- Votes in the first form. -/
def vote : String := "/cosmos.gov.v1beta1.MsgVote"

def annotatedVote : String := "/cosmos.gov.v1.MsgVote"

def send : String := "/cosmos.bank.v1beta1.MsgSend"

def delegate : String := "/cosmos.staking.v1beta1.MsgDelegate"

def grant : String := "/cosmos.authz.v1beta1.MsgGrant"

/-- Rights to send messages of one type. -/
def genericAuthorization : String := "/cosmos.authz.v1beta1.GenericAuthorization"

def grantAllowance : String := "/cosmos.feegrant.v1beta1.MsgGrantAllowance"

def basicAllowance : String := "/cosmos.feegrant.v1beta1.BasicAllowance"

end TypeUrl

/-- A coin as texts; the amount is the canonical decimal. -/
def CoinText.ofCoin (coin : Coin) : CoinText :=
  ⟨coin.denom, Decimal.text coin.amount.toNat⟩

/-- The typed payload of a message. The flag chooses the second form of votes. -/
def Message.pack (govV1 : Bool) : Message → TypedPayload
  | .vote voter proposalId option =>
      if govV1 then
        ⟨TypeUrl.annotatedVote, (AnnotatedVoteBody.mk proposalId voter option.number "").encode⟩
      else ⟨TypeUrl.vote, (VoteBody.mk proposalId voter option.number).encode⟩
  | .send fromAddress toAddress amount =>
      ⟨TypeUrl.send, (SendBody.mk fromAddress toAddress [.ofCoin amount]).encode⟩
  | .delegate delegator validator amount =>
      ⟨TypeUrl.delegate, (DelegateBody.mk delegator validator (some (.ofCoin amount))).encode⟩
  | .authzGrant granter grantee messageType =>
      let right : TypedPayload :=
        ⟨TypeUrl.genericAuthorization, (GenericAuthorization.mk messageType).encode⟩
      ⟨TypeUrl.grant, (GrantBody.mk granter grantee (some ⟨some right, none⟩)).encode⟩
  | .feegrantAllowance granter grantee spendLimit =>
      let allowance : TypedPayload :=
        ⟨TypeUrl.basicAllowance, (BasicAllowance.mk (spendLimit.map .ofCoin) none).encode⟩
      ⟨TypeUrl.grantAllowance, (AllowanceBody.mk granter grantee (some allowance)).encode⟩

end ChainTx.Cosmos
