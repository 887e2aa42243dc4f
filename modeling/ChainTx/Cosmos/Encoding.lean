import ChainTx.Coin
import ChainTx.Cosmos.MessageBody

/-!
Contract: the encodings of unsigned transactions of the Cosmos family.

Owns: the parts of a transaction, the body and auth info they become, the unsigned transaction and
the sign doc made of those, the readers that report bytes of the wrong kind, and the public key of a
signer info.

Does not own: the records themselves.
-/

set_option autoImplicit false

namespace ChainTx.Cosmos

structure TxParts where
  messages : List TypedPayload
  memo : String
  fee : List Coin
  gasLimit : UInt64
  /-- The compressed public key of the signer, where it is known. -/
  publicKey : Option Bytes
  sequence : UInt64
deriving DecidableEq, Repr

/-- The encoded body and auth info of a transaction. -/
structure EncodedParts where
  bodyBytes : Bytes
  authInfoBytes : Bytes
deriving DecidableEq, Repr

namespace TxParts

def body (parts : TxParts) : TxBody :=
  ⟨parts.messages, parts.memo, 0, [], []⟩

def signer (parts : TxParts) : SignerInfo :=
  ⟨parts.publicKey.map fun key => ⟨publicKeyType, encodePublicKey key⟩, some .direct,
    parts.sequence⟩

/-- The auth info: the signer and the fee. -/
def authInfo (parts : TxParts) : AuthInfo :=
  ⟨[parts.signer], some ⟨parts.fee.map .ofCoin, parts.gasLimit, "", ""⟩, none⟩

def encode (parts : TxParts) : EncodedParts :=
  ⟨parts.body.encode, parts.authInfo.encode⟩

end TxParts

namespace EncodedParts

/-- The transaction without a signature. -/
def txRawBytes (parts : EncodedParts) : Bytes :=
  (TxRaw.mk parts.bodyBytes parts.authInfoBytes []).encode

/-- The bytes to sign for a chain and an account. -/
def signDocBytes (parts : EncodedParts) (chainId : String) (accountNumber : UInt64) : Bytes :=
  (SignDoc.mk parts.bodyBytes parts.authInfoBytes chainId accountNumber).encode

end EncodedParts

/-! ## Readers -/

/-- What was read, or the error that names the kind of message. -/
def decoded {Record : Type} (what : String) : Option Record → Except TxError Record
  | some record => .ok record
  | none => .error (.encoding (.undecodable what))

def decodeTxRaw (bytes : Bytes) : Except TxError TxRaw :=
  decoded "TxRaw" (TxRaw.decode? bytes)

def decodeAuthInfo (bytes : Bytes) : Except TxError AuthInfo :=
  decoded "AuthInfo" (AuthInfo.decode? bytes)

def decodeBody (bytes : Bytes) : Except TxError TxBody :=
  decoded "TxBody" (TxBody.decode? bytes)

def decodeSignDoc (bytes : Bytes) : Except TxError SignDoc :=
  decoded "sign doc" (SignDoc.decode? bytes)

/-- The public key that a signer info carries. -/
def SignerInfo.publicKeyBytes (info : SignerInfo) : Except TxError (Option Bytes) :=
  match info.publicKey with
  | none => .ok none
  | some payload =>
      if payload.typeUrl = publicKeyType then
        (decoded "signer public key" (decodePublicKey? payload.value)).map some
      else .error (.encoding (.signerKeyType payload.typeUrl))

end ChainTx.Cosmos
