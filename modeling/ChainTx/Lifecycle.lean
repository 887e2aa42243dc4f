import ChainTx.Json
import ChainTx.SigningKey

/-!
Contract: the values that pass between the stages of a transaction's life.

Owns: requests and the reader of the transaction type they name, unsigned transactions, signed
transactions, outcomes of broadcasts, and snapshots of accounts.
-/

set_option autoImplicit false

namespace ChainTx

/-- Reads the token of a transaction type. -/
def TxType.parse (raw : String) : Except TxError TxType :=
  match TxType.ofToken? raw with
  | some type => .ok type
  | none => .error (.unsupportedTxType raw)

structure BuildRequest where
  txType : TxType
  sender : String
  /-- The empty text means the builder's own chain. -/
  chainId : String
  payload : Json
  /-- Zero means the default of the family. -/
  gasLimit : UInt64
  gasPrice : Option String
  memo : String
  /-- The signer's compressed public key, for the Cosmos family; without it the key on the chain is
  used, which a fresh account does not have. -/
  publicKey : Option Bytes
deriving Repr

/-- A transaction that waits for its signature. Only the sign doc may be signed; the transaction
bytes are what the signature is attached to. -/
structure UnsignedTx where
  txBytes : Bytes
  signDoc : Bytes
  accountNumber : UInt64
  sequence : UInt64
deriving DecidableEq, Repr

structure SignedTx where
  txBytes : Bytes
  signature : Bytes
  publicKey : Bytes
deriving DecidableEq, Repr

structure BroadcastResult where
  txHash : String
  code : Int64
  log : String
deriving DecidableEq, Repr

/-- Code zero means that the node took the transaction in; any other code is a refusal. -/
def BroadcastResult.isAccepted (result : BroadcastResult) : Bool :=
  result.code == 0

/-- A signer's account as the chain has it. -/
structure AccountInfo where
  address : String
  accountNumber : UInt64
  sequence : UInt64
  publicKey : Option Bytes
deriving DecidableEq, Repr

end ChainTx
