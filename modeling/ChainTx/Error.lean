import ChainTx.Bech32
import ChainTx.Bytes.Hex
import ChainTx.Duration
import ChainTx.Evm.Envelope
import ChainTx.Framework
import ChainTx.Json
import ChainTx.Url.Host

/-!
Contract: everything that can go wrong while a transaction is built, signed or broadcast.

Owns: the causes, group by group, their wordings, and the class of errors that say nothing about
what happened on the chain.

Does not own: the faults of single formats, whose wordings are quoted here. An application's refusal
of a broadcast transaction is no error but an outcome.
-/

set_option autoImplicit false

namespace ChainTx

/-! ## Configuration -/

inductive EndpointFault where
  | missing
  | unreadable (endpoint : String) (fault : Url.Fault)
  | unsupportedScheme (endpoint scheme : String)
deriving DecidableEq, Repr

def EndpointFault.message : EndpointFault → String
  | .missing => "endpoint is required"
  | .unreadable endpoint fault =>
      "Invalid endpoint URL '" ++ endpoint ++ "': " ++ fault.message
  | .unsupportedScheme endpoint scheme =>
      "Invalid endpoint URL '" ++ endpoint ++ "': unsupported scheme " ++ scheme

/-- The wording for a chain id of the EVM family that is no number. -/
def chainIdMessage (raw : String) : String :=
  "EVM chain id must be a decimal integer, got " ++ Quoted.text raw

/-- What can be wrong with one setting. -/
inductive SettingFault where
  | missing
  | notPositive
  | endpoint (fault : EndpointFault)
  | chainId (raw : String)
deriving DecidableEq, Repr

def SettingFault.message : SettingFault → String
  | .missing => "is required"
  | .notPositive => "must be greater than zero"
  | .endpoint fault => "configuration error: " ++ fault.message
  | .chainId raw => chainIdMessage raw

/-- A setting, by its path, and what is wrong with it. -/
structure Problem where
  setting : String
  fault : SettingFault
deriving DecidableEq, Repr

def Problem.message (problem : Problem) : String :=
  problem.setting ++ ": " ++ problem.fault.message

/-- Why no builder can be made. -/
inductive ConfigurationFault where
  | endpoint (fault : EndpointFault)
  | rejected (problems : List Problem)
  | missingChainId
  | chainId (raw : String)
  | foreignVersion (version : String) (framework : Framework)
  | hrp (text : String) (fault : Bech32.HrpFault)
  | unparseableVersion (raw : String)
  | emptyVersion
  | offlineBroadcast
deriving DecidableEq, Repr

def ConfigurationFault.message : ConfigurationFault → String
  | .endpoint fault => fault.message
  | .rejected problems => "; ".intercalate (problems.map Problem.message)
  | .missingChainId => "chain id is required"
  | .chainId raw => chainIdMessage raw
  | .foreignVersion version framework =>
      "version " ++ version ++ " belongs to the " ++ framework.name ++ " framework"
  | .hrp text fault => "invalid bech32 prefix " ++ Quoted.text text ++ ": " ++ fault.message
  | .unparseableVersion raw => "unparseable application version " ++ Quoted.text raw
  | .emptyVersion => "node reported an empty application version"
  | .offlineBroadcast => "offline EVM builder cannot broadcast"

/-! ## Fields of payloads and requests -/

inductive FieldFault where
  | missing
  | notString
  | notUInt64
  | notObject
  | malformedCoin (raw : String)
  | coinTooLarge (raw : String)
  | zeroCoin (raw : String)
  | malformedGasPrice (raw : String)
  | feeTooLarge (total : Nat)
  | malformedWeiPrice (raw : String)
  | weiPriceTooLarge (raw : String)
  | voteOption (raw : String)
  | messageType (raw : String)
  | bech32Address (raw hrp : String)
  | evmAddress (raw : String)
  | malformedWei (raw : String)
  | weiTooLarge (raw : String)
  | malformedData (raw : String)
  | foreignChain (requested bound : String)
  | foreignChainId (requested : String) (bound : UInt64)
  | publicKeyLength (length : Nat)
  | publicKeyPoint
  | emptyTransaction
  /-- A reason given by the caller's own work. -/
  | other (reason : String)
deriving DecidableEq, Repr

def FieldFault.message : FieldFault → String
  | .missing => "is required"
  | .notString => "expected a string"
  | .notUInt64 => "expected an unsigned 64-bit integer"
  | .notObject => "expected a JSON object"
  | .malformedCoin raw =>
      "invalid amount " ++ Quoted.text raw ++ ": expected <integer><denom> such as 1000stake"
  | .coinTooLarge raw => "invalid amount " ++ Quoted.text raw ++ ": value out of range"
  | .zeroCoin raw => "invalid amount " ++ Quoted.text raw ++ ": must be greater than zero"
  | .malformedGasPrice raw =>
      "invalid gas price " ++ Quoted.text raw ++ ": expected <decimal><denom> such as 0.025stake"
  | .feeTooLarge total => "fee " ++ Decimal.text total ++ " exceeds the supported range"
  | .malformedWeiPrice raw =>
      "invalid gas price " ++ Quoted.text raw ++ ": expected an integer amount of wei"
  | .weiPriceTooLarge raw => "invalid gas price " ++ Quoted.text raw ++ ": value out of range"
  | .voteOption raw =>
      "invalid vote option " ++ Quoted.text raw ++ ": expected yes, no, abstain or no_with_veto"
  | .messageType raw =>
      "invalid message type URL " ++ Quoted.text raw
        ++ ": expected a type URL such as /cosmos.bank.v1beta1.MsgSend"
  | .bech32Address raw hrp =>
      "invalid address " ++ Quoted.text raw ++ ": expected bech32 address with prefix " ++ hrp
  | .evmAddress raw =>
      "invalid address " ++ Quoted.text raw ++ ": expected 0x-prefixed 20-byte hex address"
  | .malformedWei raw =>
      "invalid amount " ++ Quoted.text raw ++ ": expected non-negative base-10 wei integer"
  | .weiTooLarge raw =>
      "invalid amount " ++ Quoted.text raw
        ++ ": expected non-negative base-10 wei integer (exceeds 256 bits)"
  | .malformedData raw => "invalid data " ++ Quoted.text raw ++ ": expected 0x-prefixed hex"
  | .foreignChain requested bound =>
      "request targets chain " ++ Quoted.text requested ++ " but the builder is bound to "
        ++ Quoted.text bound
  | .foreignChainId requested bound =>
      "request targets chain " ++ Quoted.text requested ++ " but the builder is bound to "
        ++ Decimal.text bound.toNat
  | .publicKeyLength length =>
      "expected a 33-byte compressed secp256k1 key, got " ++ Decimal.text length ++ " bytes"
  | .publicKeyPoint => "not a valid secp256k1 point"
  | .emptyTransaction => "signed transaction is empty"
  | .other reason => reason

/-! ## Exchanges with a node -/

/-- Why a number in an account is unusable. -/
inductive AccountFieldFault where
  | missing
  | unexpectedType
  | notUInt64
  | textNotUInt64 (text : String)
deriving DecidableEq, Repr

/-- The wording of an account field's fault. -/
def AccountFieldFault.message : AccountFieldFault → String
  | .missing => "missing"
  | .unexpectedType => "unexpected type"
  | .notUInt64 => "not an unsigned 64-bit integer"
  | .textNotUInt64 text => Quoted.text text ++ " is not an unsigned 64-bit integer"

/-- Why an exchange with a node gave no usable answer. -/
inductive TransportFault where
  /-- No connection, or one that closed before the reply. -/
  | disconnected
  /-- The client's own limit on one exchange ran out. -/
  | requestTimeout
  /-- The answers of one exchange led on too often. -/
  | tooManyRedirects
  /-- A reply to some query that does not have the expected shape. -/
  | malformed (what : String)
  /-- A reply that a typed query could not read. -/
  | unreadable
  | noAccount
  | accountField (name : String) (fault : AccountFieldFault)
  | neitherResultNorError (method : String)
  | httpStatus (status : Nat) (body : String)
  | nullResponse
deriving DecidableEq, Repr

def TransportFault.message : TransportFault → String
  | .disconnected => "connection failed"
  | .requestTimeout => "request timed out"
  | .tooManyRedirects => "too many redirects"
  | .malformed what => "malformed " ++ what ++ " response: unexpected shape"
  | .unreadable => "unreadable reply"
  | .noAccount => "account response has no account field"
  | .accountField name fault => "account field " ++ name ++ ": " ++ fault.message
  | .neitherResultNorError method => method ++ " response carries neither result nor error"
  | .httpStatus status body =>
      "HTTP error " ++ Decimal.text status
        ++ if body.isEmpty then " with empty body" else " with body: " ++ body
  | .nullResponse => "server returned a null response when a non-null response was expected"

/-! ## Signing and encoding -/

inductive SigningFault where
  | keyText (fault : Hex.Fault)
  | missingKey
  | keyLength (length : Nat)
  /-- The key is zero or not below the order of the group. -/
  | keyOutOfRange (framework : Framework)
  | emptyTransaction
  | emptySignDoc
  | alreadySigned
  | signDocMismatch
  | accountNumberMismatch (signed stated : UInt64)
  | sequenceMismatch (signed stated : UInt64)
  | foreignKey
  | signDocLength (length : Nat)
  | zeroComponent
deriving DecidableEq, Repr

def SigningFault.message : SigningFault → String
  | .keyText fault => "Invalid private key format: " ++ fault.message
  | .missingKey => "private key required"
  | .keyLength length =>
      "private key length mismatch: expected 32 bytes, got " ++ Decimal.text length
  | .keyOutOfRange .cosmos => "invalid secp256k1 private key: signature error"
  | .keyOutOfRange .evm => "Invalid private key format: signature error"
  | .emptyTransaction => "unsigned transaction is empty"
  | .emptySignDoc => "sign doc is empty"
  | .alreadySigned => "transaction is already signed"
  | .signDocMismatch => "sign doc does not match the unsigned transaction"
  | .accountNumberMismatch signed stated =>
      "sign doc account number " ++ Decimal.text signed.toNat ++ " does not match "
        ++ Decimal.text stated.toNat
  | .sequenceMismatch signed stated =>
      "signer sequence " ++ Decimal.text signed.toNat ++ " does not match "
        ++ Decimal.text stated.toNat
  | .foreignKey => "private key does not match the public key in the transaction"
  | .signDocLength length =>
      "sign doc must be a 32-byte hash, got " ++ Decimal.text length ++ " bytes"
  | .zeroComponent => "signature has a zero component"

/-- Why bytes are no transaction. -/
inductive EncodingFault where
  /-- Bytes that are no protobuf message of the named kind. -/
  | undecodable (what : String)
  | signerCount (count : Nat)
  | signerKeyType (typeUrl : String)
  | unsigned (fault : Evm.LegacyTx.UnsignedFault)
  | signed (fault : Evm.SignedFault)
deriving DecidableEq, Repr

def EncodingFault.message : EncodingFault → String
  | .undecodable what => "invalid " ++ what ++ ": malformed message"
  | .signerCount count => "expected exactly one signer info, found " ++ Decimal.text count
  | .signerKeyType typeUrl => "unsupported signer key type " ++ typeUrl
  | .unsigned fault => "invalid unsigned legacy transaction: " ++ fault.message
  | .signed fault => fault.message

/-! ## Errors -/

inductive TxError where
  | configuration (fault : ConfigurationFault)
  | validation (field : String) (fault : FieldFault)
  | notFound (address : String)
  | unsupportedTxType (token : String)
  | transport (fault : TransportFault)
  | timeout (operation : String) (limit : Duration)
  | cancelled (operation : String)
  /-- The node answered with an error object. -/
  | rpc (code : Int64) (message : String)
  /-- The node answered with a status that means failure. -/
  | api (status : Nat) (body : String)
  | signing (fault : SigningFault)
  | encoding (fault : EncodingFault)
deriving DecidableEq, Repr

namespace TxError

def message : TxError → String
  | .configuration fault => "configuration error: " ++ fault.message
  | .validation field fault => "invalid " ++ field ++ ": " ++ fault.message
  | .notFound address => "account " ++ address ++ " not found"
  | .unsupportedTxType token => "unsupported tx type: " ++ token
  | .transport fault => "transport error: " ++ fault.message
  | .timeout operation limit => operation ++ " timed out after " ++ limit.text
  | .cancelled operation => operation ++ " cancelled"
  | .rpc code message =>
      "RPC error " ++ String.ofList (Json.integerChars code.toInt) ++ ": " ++ message
  | .api status body => "API error (HTTP " ++ Decimal.text status ++ "): " ++ body
  | .signing fault => "signing error: " ++ fault.message
  | .encoding fault => "encoding error: " ++ fault.message

/-- True of errors that leave open what happened on the chain: failed exchanges, deadlines and
cancellations. -/
def isTransport : TxError → Bool
  | .transport _ => true
  | .timeout _ _ => true
  | .cancelled _ => true
  | _ => false

end TxError

end ChainTx
