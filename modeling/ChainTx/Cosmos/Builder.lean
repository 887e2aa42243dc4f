import ChainTx.Config
import ChainTx.Cosmos.Account
import ChainTx.Cosmos.Broadcast
import ChainTx.Cosmos.Detection
import ChainTx.Cosmos.Signing
import ChainTx.Fee

/-!
Contract: builders bound to one chain of the Cosmos family.

Owns: how a builder is made, with or without asking the node for its version, and how it builds,
signs and broadcasts. Building checks everything that can be checked locally before it asks for the
sender's account.
-/

set_option autoImplicit false

namespace ChainTx.Cosmos

structure Builder where
  chainId : String
  codec : AddressCodec
  app : AppVersion
  defaultGasLimit : UInt64
  rest : RpcClient
  rpc : RpcClient
deriving DecidableEq, Repr

namespace Builder

/-! ## Making builders -/

def withVersion (network : NetworkConfig) (app : AppVersion) : Except TxError Builder := do
  if Blank.isBlankText network.chainId then throw (.configuration .missingChainId)
  if app.framework ≠ .cosmos then
    throw (.configuration (.foreignVersion app.version app.framework))
  let rpc ← RpcClient.make network.rpcEndpoint network.requestTimeout
  let rest ← RpcClient.make network.effectiveRestEndpoint network.requestTimeout
  let codec ← AddressCodec.make network.addressPrefix network.effectiveValidatorPrefix
  .ok ⟨network.chainId, codec, app, network.defaultGasLimit, rest, rpc⟩

/-- The version of a network: the configured one, else the one that the node reports. -/
def versionOf (network : NetworkConfig) (context : CallContext) : Call AppVersion := do
  match network.sdkVersion with
  | some hint =>
      let app ← Call.ofExcept (AppVersion.parse hint)
      Call.emit .debug "Using configured application version"
      pure app
  | none =>
      let rpc ← Call.ofExcept (RpcClient.make network.rpcEndpoint network.requestTimeout)
      Detection.detect rpc context

def connect (network : NetworkConfig) (context : CallContext) : Call Builder := do
  let app ← versionOf network context
  Call.ofExcept (withVersion network app)

/-! ## Building -/

/-- The transaction types that the chain accepts. -/
def txTypes (builder : Builder) : List TxType :=
  builder.app.cosmosTxTypes

def checkChainId (builder : Builder) (requested : String) : Except TxError Unit :=
  if requested = "" ∨ requested = builder.chainId then .ok ()
  else .error (.validation "chainId" (.foreignChain requested builder.chainId))

/-- Refuses a bad public key, where a request brings one. -/
def checkRequestedKey : Option Bytes → Except TxError Unit
  | none => .ok ()
  | some publicKey => checkPublicKey publicKey

/-- What can be judged of a request without asking anybody: the message and the fee. -/
def prepare (builder : Builder) (request : BuildRequest) :
    Except TxError (Message × List Coin) := do
  if builder.txTypes.contains request.txType = false then
    throw (.unsupportedTxType request.txType.token)
  builder.checkChainId request.chainId
  builder.codec.checkAccount "sender" request.sender
  let message ← Message.parse request.txType request.sender request.payload builder.codec
  let fee ← cosmosFee request.gasLimit request.gasPrice
  checkRequestedKey request.publicKey
  .ok (message, fee)

/-- The parts of a transaction for an account. -/
def parts (builder : Builder) (request : BuildRequest) (message : Message) (fee : List Coin)
    (account : AccountInfo) : TxParts where
  messages := [message.pack (builder.app.has .govV1)]
  memo := request.memo
  fee := fee
  gasLimit := if request.gasLimit = 0 then builder.defaultGasLimit else request.gasLimit
  publicKey := request.publicKey.or account.publicKey
  sequence := account.sequence

def assemble (builder : Builder) (request : BuildRequest) (message : Message) (fee : List Coin)
    (account : AccountInfo) : UnsignedTx :=
  let encoded := (builder.parts request message fee account).encode
  ⟨encoded.txRawBytes, encoded.signDocBytes builder.chainId account.accountNumber,
    account.accountNumber, account.sequence⟩

def build (builder : Builder) (context : CallContext) (request : BuildRequest) :
    Call UnsignedTx := do
  let (message, fee) ← Call.ofExcept (builder.prepare request)
  let account ← Account.resolve builder.rest context request.sender
  if (request.publicKey.or account.publicKey).isNone then
    Call.emit .warn "No public key for signer; the node will reject the signed transaction"
  let unsigned := builder.assemble request message fee account
  Call.record (.built .cosmos request.txType)
  Call.emit .debug "Built unsigned Cosmos transaction"
  pure unsigned

/-! ## Signing and broadcasting -/

def sign (_ : Builder) (unsigned : UnsignedTx) (key : SigningKey) : Call SignedTx := do
  let signed ← Call.ofExcept (signTx unsigned key)
  Call.emit .debug "Signed Cosmos transaction"
  pure signed

def broadcast (builder : Builder) (context : CallContext) (signed : SignedTx) :
    Call BroadcastResult := do
  let result ← Broadcast.broadcast builder.rpc context signed
  Call.record (.broadcast .cosmos result.isAccepted)
  pure result

end Builder

end ChainTx.Cosmos
