import ChainTx.Config
import ChainTx.Evm.Broadcast
import ChainTx.Evm.Client
import ChainTx.Evm.Transfer
import ChainTx.Fee
import ChainTx.Version

/-!
Contract: builders bound to one chain of the EVM family.

Owns: how a builder is made, with a node or offline, and how it builds, signs and broadcasts.
The price of gas is the requested one, else the node's suggestion, else a default. An offline
builder takes the nonce zero and cannot broadcast.
-/

set_option autoImplicit false

namespace ChainTx.Evm

/-- The ways to a node: queries, and the handing over of transactions. -/
structure NodeLink where
  client : Client
  rpc : RpcClient
deriving DecidableEq, Repr

structure Builder where
  chainId : UInt64
  app : AppVersion
  /-- None for an offline builder. -/
  node : Option NodeLink
deriving DecidableEq, Repr

namespace Builder

/-! ## Making builders -/

/-- A builder for a network. The node is asked for its chain id, but the configured one counts. -/
def connect (network : NetworkConfig) (context : CallContext) : Call Builder := do
  let chainId ← Call.ofExcept (parseChainId network.chainId)
  let client ← Client.make network.rpcEndpoint chainId network.requestTimeout
  let rpc ← Call.ofExcept (RpcClient.make network.rpcEndpoint network.requestTimeout)
  client.verifyChainId context
  pure ⟨chainId, .evm network.sdkVersion, some ⟨client, rpc⟩⟩

/-- A builder without a node. -/
def offline (chainId : UInt64) : Builder :=
  ⟨chainId, .evm none, none⟩

/-! ## Building -/

/-- The transaction types that the chain accepts. -/
def txTypes (_ : Builder) : List TxType :=
  [.nativeTransfer]

def checkChainId (builder : Builder) (requested : String) : Except TxError Unit :=
  if requested = "" then .ok ()
  else if Decimal.uint64? (Blank.trimChars requested.toList) = some builder.chainId then .ok ()
  else .error (.validation "chainId" (.foreignChainId requested builder.chainId))

/-- The price of gas: the requested one, else the node's, else the default. -/
def resolveGasPrice (builder : Builder) (context : CallContext) (requested : Option String) :
    Call (BitVec 128) := do
  match requestedPrice? requested with
  | some raw => Call.ofExcept (parseGasPrice raw)
  | none =>
      match builder.node with
      | some node => node.client.gasPrice context
      | none =>
          Call.emit .warn "No node connection, using default gas price"
          pure defaultGasPrice

/-- The nonce of a sender: the node's count, else zero. -/
def resolveNonce (builder : Builder) (context : CallContext) (sender : Address) :
    Call UInt64 := do
  match builder.node with
  | some node => node.client.pendingNonce context sender
  | none =>
      Call.emit .warn "No node connection, using nonce 0"
      pure 0

/-- What can be judged of a request without asking anybody: the sender and the transfer. -/
def prepare (builder : Builder) (request : BuildRequest) :
    Except TxError (Address × Transfer) := do
  if builder.txTypes.contains request.txType = false then
    throw (.unsupportedTxType request.txType.token)
  builder.checkChainId request.chainId
  let sender ← parseAddress "sender" request.sender
  let transfer ← Transfer.parse request.txType request.payload
  .ok (sender, transfer)

/-- The gas limit of a request; zero means what the transfer needs. -/
def gasLimitOf (request : BuildRequest) (transfer : Transfer) : UInt64 :=
  if request.gasLimit = 0 then UInt64.ofNat (intrinsicGas transfer.data) else request.gasLimit

def assemble (tx : LegacyTx) : UnsignedTx :=
  ⟨tx.encodeUnsigned, tx.signingHash, 0, tx.nonce⟩

def build (builder : Builder) (context : CallContext) (request : BuildRequest) :
    Call UnsignedTx := do
  let (sender, transfer) ← Call.ofExcept (builder.prepare request)
  let gasLimit := gasLimitOf request transfer
  let gasPrice ← builder.resolveGasPrice context request.gasPrice
  let nonce ← builder.resolveNonce context sender
  let unsigned := assemble (transfer.toTx nonce gasPrice gasLimit builder.chainId)
  Call.record (.built .evm request.txType)
  Call.emit .debug "Built unsigned EVM transaction"
  pure unsigned

/-! ## Signing and broadcasting -/

def sign (_ : Builder) (unsigned : UnsignedTx) (key : SigningKey) : Call SignedTx := do
  let signed ← Call.ofExcept (signTx unsigned key)
  Call.emit .debug "Signed EVM transaction"
  pure signed

def broadcast (builder : Builder) (context : CallContext) (signed : SignedTx) :
    Call BroadcastResult := do
  match builder.node with
  | none => throw (.configuration .offlineBroadcast)
  | some node =>
      let result ← Broadcast.broadcast node.rpc context signed
      Call.record (.broadcast .evm result.isAccepted)
      pure result

end Builder

end ChainTx.Evm
