/-!
Contract: the two families of chains and the kinds of transactions.

Owns: the families, the transaction types with their tokens, and the optional features of a chain.
-/

set_option autoImplicit false

namespace ChainTx

inductive Framework where
  | cosmos
  | evm
deriving DecidableEq, Repr

def Framework.name : Framework → String
  | .cosmos => "cosmos"
  | .evm => "evm"

def Framework.ofName? (name : String) : Option Framework :=
  if name = "cosmos" then some .cosmos
  else if name = "evm" then some .evm
  else none

inductive TxType where
  | govVote
  | bankSend
  | stakingDelegate
  | authzGrant
  | feegrantAllowance
  | nativeTransfer
deriving DecidableEq, Repr

namespace TxType

def token : TxType → String
  | .govVote => "gov_vote"
  | .bankSend => "bank_send"
  | .stakingDelegate => "staking_delegate"
  | .authzGrant => "authz_grant"
  | .feegrantAllowance => "feegrant_allowance"
  | .nativeTransfer => "native_transfer"

def all : List TxType :=
  [.govVote, .bankSend, .stakingDelegate, .authzGrant, .feegrantAllowance, .nativeTransfer]

/-- The transaction type of a token, spelled exactly. -/
def ofToken? (token : String) : Option TxType :=
  all.find? fun type => type.token == token

end TxType

inductive Feature where
  | authz
  | feegrant
  | govV1
  | group
deriving DecidableEq, Repr

namespace Feature

def name : Feature → String
  | .authz => "authz"
  | .feegrant => "feegrant"
  | .govV1 => "gov-v1"
  | .group => "group"

/-- All features, in the order in which they are listed. -/
def all : List Feature :=
  [.authz, .feegrant, .govV1, .group]

def ofName? (name : String) : Option Feature :=
  all.find? fun feature => feature.name == name

def sorted (features : List Feature) : List Feature :=
  all.filter features.contains

end Feature

end ChainTx
