import ChainTx.Protobuf.Field

/-!
Contract: the records of a transaction of the Cosmos family and their protobuf encodings.

Owns:
- typed payloads, coins, fees, signing modes, signer infos;
- the body, the auth info, the raw transaction and the sign doc;
- for every record its encoder, by the list of its fields, and its reader. A field that comes twice
  counts the last time, a message inside that comes twice is merged, and lists grow.

Does not own: the messages inside the typed payloads.
-/

set_option autoImplicit false

namespace ChainTx.Cosmos

open Protobuf

/-- Merges a record that may be absent so far. -/
def mergeOptional {Record : Type} (limit : Nat) (merge : Nat → Record → Bytes → Option Record)
    (empty : Record) (current : Option Record) (field : Field) : Option (Option Record) :=
  (mergeNested limit merge (current.getD empty) field).map some

/-! ## Typed payloads -/

/-- A payload with the name of its type. -/
structure TypedPayload where
  typeUrl : String
  value : Bytes
deriving DecidableEq, Repr

namespace TypedPayload

/-- The payload with no name and no bytes. -/
def empty : TypedPayload := ⟨"", []⟩

def fields (payload : TypedPayload) : List Field :=
  textField 1 payload.typeUrl ++ bytesField 2 payload.value

def encode (payload : TypedPayload) : Bytes :=
  encodeFields payload.fields

def step (limit : Nat) (payload : TypedPayload) (field : Field) : Option TypedPayload :=
  match field.number with
  | 1 => field.text?.map fun typeUrl => { payload with typeUrl }
  | 2 => field.bytes?.map fun value => { payload with value }
  | _ => skipUnknown limit payload

def merge (limit : Nat) (payload : TypedPayload) (bytes : Bytes) : Option TypedPayload :=
  mergeFields limit (step limit) payload bytes

end TypedPayload

/-! ## Coins and fees -/

structure CoinText where
  denom : String
  amount : String
deriving DecidableEq, Repr

namespace CoinText

/-- The coin without texts. -/
def empty : CoinText := ⟨"", ""⟩

def fields (coin : CoinText) : List Field :=
  textField 1 coin.denom ++ textField 2 coin.amount

def encode (coin : CoinText) : Bytes :=
  encodeFields coin.fields

def step (limit : Nat) (coin : CoinText) (field : Field) : Option CoinText :=
  match field.number with
  | 1 => field.text?.map fun denom => { coin with denom }
  | 2 => field.text?.map fun amount => { coin with amount }
  | _ => skipUnknown limit coin

def merge (limit : Nat) (coin : CoinText) (bytes : Bytes) : Option CoinText :=
  mergeFields limit (step limit) coin bytes

end CoinText

structure Fee where
  amount : List CoinText
  gasLimit : UInt64
  payer : String
  granter : String
deriving DecidableEq, Repr

namespace Fee

def empty : Fee := ⟨[], 0, "", ""⟩

def fields (fee : Fee) : List Field :=
  fee.amount.flatMap (fun coin => nestedField 1 coin.encode) ++ uintField 2 fee.gasLimit
    ++ textField 3 fee.payer ++ textField 4 fee.granter

def encode (fee : Fee) : Bytes :=
  encodeFields fee.fields

def step (limit : Nat) (fee : Fee) (field : Field) : Option Fee :=
  match field.number with
  | 1 => (mergeNested limit CoinText.merge .empty field).map fun coin =>
      { fee with amount := fee.amount ++ [coin] }
  | 2 => field.uint64?.map fun gasLimit => { fee with gasLimit }
  | 3 => field.text?.map fun payer => { fee with payer }
  | 4 => field.text?.map fun granter => { fee with granter }
  | _ => skipUnknown limit fee

def merge (limit : Nat) (fee : Fee) (bytes : Bytes) : Option Fee :=
  mergeFields limit (step limit) fee bytes

end Fee

/-- What a transaction leaves to whoever relays it. -/
structure Tip where
  amount : List CoinText
  tipper : String
deriving DecidableEq, Repr

namespace Tip

def empty : Tip := ⟨[], ""⟩

def fields (tip : Tip) : List Field :=
  tip.amount.flatMap (fun coin => nestedField 1 coin.encode) ++ textField 2 tip.tipper

def encode (tip : Tip) : Bytes :=
  encodeFields tip.fields

def step (limit : Nat) (tip : Tip) (field : Field) : Option Tip :=
  match field.number with
  | 1 => (mergeNested limit CoinText.merge .empty field).map fun coin =>
      { tip with amount := tip.amount ++ [coin] }
  | 2 => field.text?.map fun tipper => { tip with tipper }
  | _ => skipUnknown limit tip

def merge (limit : Nat) (tip : Tip) (bytes : Bytes) : Option Tip :=
  mergeFields limit (step limit) tip bytes

end Tip

/-! ## Signers -/

inductive SigningMode where
  | unset
  | single (mode : Int32)
  /-- Several keys together; their own modes are checked and not kept. -/
  | multi
deriving DecidableEq, Repr

namespace SigningMode

/-- The number of the direct mode: the signature is over the sign doc. -/
def directNumber : Int32 := 1

def direct : SigningMode := .single directNumber

/-- The fields that show the mode of a single key. -/
def singleFields (mode : Int32) : List Field :=
  int32Field 1 mode

def fields : SigningMode → List Field
  | .unset => []
  | .single mode => nestedField 1 (encodeFields (singleFields mode))
  | .multi => nestedField 2 []

def encode (mode : SigningMode) : Bytes :=
  encodeFields mode.fields

/-- Takes in one field of the mode of a single key. -/
def stepSingle (limit : Nat) (mode : Int32) (field : Field) : Option Int32 :=
  match field.number with
  | 1 => field.int32?
  | _ => skipUnknown limit mode

/-- Merges bytes into the mode of a single key. -/
def mergeSingle (limit : Nat) (mode : Int32) (bytes : Bytes) : Option Int32 :=
  mergeFields limit (stepSingle limit) mode bytes

/-- The number of a single mode so far; another kind of mode counts as zero. -/
def singleNumber : SigningMode → Int32
  | .single mode => mode
  | _ => 0

/-- Takes in one field of the set of keys that have signed. -/
def stepBitArray (limit : Nat) (_ : Unit) (field : Field) : Option Unit :=
  match field.number with
  | 1 => field.uint64?.map fun _ => ()
  | 2 => field.bytes?.map fun _ => ()
  | _ => skipUnknown limit ()

/-- Checks the set of keys that have signed. -/
def mergeBitArray (limit : Nat) (_ : Unit) (bytes : Bytes) : Option Unit :=
  mergeFields limit (stepBitArray limit) () bytes

mutual

def merge : Nat → SigningMode → Bytes → Option SigningMode
  | 0, mode, bytes => mergeFields 0 (fun _ _ => none) mode bytes
  | limit + 1, mode, bytes =>
      mergeFields (limit + 1)
        (fun mode field =>
          match field.number with
          | 1 => (mergeNested (limit + 1) mergeSingle mode.singleNumber field).map .single
          | 2 => field.bytes?.bind fun payload =>
              (mergeMulti limit payload).map fun _ => .multi
          | _ => some mode)
        mode bytes

def mergeMulti : Nat → Bytes → Option Unit
  | 0, bytes => mergeFields 0 (fun _ _ => none) () bytes
  | limit + 1, bytes =>
      mergeFields (limit + 1)
        (fun _ field =>
          match field.number with
          | 1 => mergeNested (limit + 1) mergeBitArray () field
          | 2 => field.bytes?.bind fun payload =>
              (merge limit .unset payload).map fun _ => ()
          | _ => some ())
        () bytes

end

end SigningMode

/-- Who signs, how, and with which sequence number. -/
structure SignerInfo where
  publicKey : Option TypedPayload
  mode : Option SigningMode
  sequence : UInt64
deriving DecidableEq, Repr

namespace SignerInfo

/-- The signer of whom nothing is known. -/
def empty : SignerInfo := ⟨none, none, 0⟩

def fields (info : SignerInfo) : List Field :=
  info.publicKey.toList.flatMap (fun key => nestedField 1 key.encode)
    ++ info.mode.toList.flatMap (fun mode => nestedField 2 mode.encode)
    ++ uintField 3 info.sequence

def encode (info : SignerInfo) : Bytes :=
  encodeFields info.fields

def step (limit : Nat) (info : SignerInfo) (field : Field) : Option SignerInfo :=
  match field.number with
  | 1 => (mergeOptional limit TypedPayload.merge .empty info.publicKey field).map fun publicKey =>
      { info with publicKey }
  | 2 => (mergeOptional limit SigningMode.merge .unset info.mode field).map fun mode =>
      { info with mode }
  | 3 => field.uint64?.map fun sequence => { info with sequence }
  | _ => skipUnknown limit info

def merge (limit : Nat) (info : SignerInfo) (bytes : Bytes) : Option SignerInfo :=
  mergeFields limit (step limit) info bytes

end SignerInfo

structure AuthInfo where
  signers : List SignerInfo
  fee : Option Fee
  tip : Option Tip
deriving DecidableEq, Repr

namespace AuthInfo

/-- The auth info without parts. -/
def empty : AuthInfo := ⟨[], none, none⟩

/-- The fields that show an auth info. -/
def fields (info : AuthInfo) : List Field :=
  info.signers.flatMap (fun signer => nestedField 1 signer.encode)
    ++ info.fee.toList.flatMap (fun fee => nestedField 2 fee.encode)
    ++ info.tip.toList.flatMap (fun tip => nestedField 3 tip.encode)

def encode (info : AuthInfo) : Bytes :=
  encodeFields info.fields

def step (limit : Nat) (info : AuthInfo) (field : Field) : Option AuthInfo :=
  match field.number with
  | 1 => (mergeNested limit SignerInfo.merge .empty field).map fun signer =>
      { info with signers := info.signers ++ [signer] }
  | 2 => (mergeOptional limit Fee.merge .empty info.fee field).map fun fee => { info with fee }
  | 3 => (mergeOptional limit Tip.merge .empty info.tip field).map fun tip => { info with tip }
  | _ => skipUnknown limit info

def decode? (bytes : Bytes) : Option AuthInfo :=
  mergeFields nestingLimit (step nestingLimit) empty bytes

end AuthInfo

/-! ## Bodies -/

structure TxBody where
  messages : List TypedPayload
  memo : String
  timeoutHeight : UInt64
  extensionOptions : List TypedPayload
  nonCriticalExtensionOptions : List TypedPayload
deriving DecidableEq, Repr

namespace TxBody

/-- The body without parts. -/
def empty : TxBody := ⟨[], "", 0, [], []⟩

def fields (body : TxBody) : List Field :=
  body.messages.flatMap (fun message => nestedField 1 message.encode)
    ++ textField 2 body.memo ++ uintField 3 body.timeoutHeight
    ++ body.extensionOptions.flatMap (fun option => nestedField 1023 option.encode)
    ++ body.nonCriticalExtensionOptions.flatMap (fun option => nestedField 2047 option.encode)

def encode (body : TxBody) : Bytes :=
  encodeFields body.fields

def step (limit : Nat) (body : TxBody) (field : Field) : Option TxBody :=
  match field.number with
  | 1 => (mergeNested limit TypedPayload.merge .empty field).map fun message =>
      { body with messages := body.messages ++ [message] }
  | 2 => field.text?.map fun memo => { body with memo }
  | 3 => field.uint64?.map fun timeoutHeight => { body with timeoutHeight }
  | 1023 => (mergeNested limit TypedPayload.merge .empty field).map fun option =>
      { body with extensionOptions := body.extensionOptions ++ [option] }
  | 2047 => (mergeNested limit TypedPayload.merge .empty field).map fun option =>
      { body with nonCriticalExtensionOptions := body.nonCriticalExtensionOptions ++ [option] }
  | _ => skipUnknown limit body

def decode? (bytes : Bytes) : Option TxBody :=
  mergeFields nestingLimit (step nestingLimit) empty bytes

end TxBody

/-! ## Transactions and sign docs -/

structure TxRaw where
  bodyBytes : Bytes
  authInfoBytes : Bytes
  signatures : List Bytes
deriving DecidableEq, Repr

namespace TxRaw

/-- The transaction without parts. -/
def empty : TxRaw := ⟨[], [], []⟩

def fields (raw : TxRaw) : List Field :=
  bytesField 1 raw.bodyBytes ++ bytesField 2 raw.authInfoBytes
    ++ raw.signatures.flatMap (nestedField 3)

def encode (raw : TxRaw) : Bytes :=
  encodeFields raw.fields

def step (limit : Nat) (raw : TxRaw) (field : Field) : Option TxRaw :=
  match field.number with
  | 1 => field.bytes?.map fun bodyBytes => { raw with bodyBytes }
  | 2 => field.bytes?.map fun authInfoBytes => { raw with authInfoBytes }
  | 3 => field.bytes?.map fun signature => { raw with signatures := raw.signatures ++ [signature] }
  | _ => skipUnknown limit raw

def decode? (bytes : Bytes) : Option TxRaw :=
  mergeFields nestingLimit (step nestingLimit) empty bytes

end TxRaw

/-- What a signature in direct mode is over. -/
structure SignDoc where
  bodyBytes : Bytes
  authInfoBytes : Bytes
  chainId : String
  accountNumber : UInt64
deriving DecidableEq, Repr

namespace SignDoc

/-- The sign doc without parts. -/
def empty : SignDoc := ⟨[], [], "", 0⟩

/-- The fields that show a sign doc. -/
def fields (doc : SignDoc) : List Field :=
  bytesField 1 doc.bodyBytes ++ bytesField 2 doc.authInfoBytes ++ textField 3 doc.chainId
    ++ uintField 4 doc.accountNumber

def encode (doc : SignDoc) : Bytes :=
  encodeFields doc.fields

def step (limit : Nat) (doc : SignDoc) (field : Field) : Option SignDoc :=
  match field.number with
  | 1 => field.bytes?.map fun bodyBytes => { doc with bodyBytes }
  | 2 => field.bytes?.map fun authInfoBytes => { doc with authInfoBytes }
  | 3 => field.text?.map fun chainId => { doc with chainId }
  | 4 => field.uint64?.map fun accountNumber => { doc with accountNumber }
  | _ => skipUnknown limit doc

def decode? (bytes : Bytes) : Option SignDoc :=
  mergeFields nestingLimit (step nestingLimit) empty bytes

end SignDoc

/-! ## Public keys -/

/-- The type of public keys on the curve secp256k1. -/
def publicKeyType : String := "/cosmos.crypto.secp256k1.PubKey"

/-- The bytes that carry a public key. -/
def encodePublicKey (key : Bytes) : Bytes :=
  encodeFields (bytesField 1 key)

/-- Takes in one field of a public key. -/
def stepPublicKey (limit : Nat) (key : Bytes) (field : Field) : Option Bytes :=
  match field.number with
  | 1 => field.bytes?
  | _ => skipUnknown limit key

/-- Reads the bytes that carry a public key. -/
def decodePublicKey? (bytes : Bytes) : Option Bytes :=
  mergeFields nestingLimit (stepPublicKey nestingLimit) [] bytes

end ChainTx.Cosmos
