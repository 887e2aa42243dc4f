import ChainTx.Call.RpcClient
import ChainTx.Evm.Quantity

/-!
Contract: queries to a node of the EVM family.

Owns: clients, which number their requests from zero; the queries for the chain id, for the count of
an account's transactions with the pending ones, and for the price of gas; and the comparison of the
node's chain id with the configured one, which only leaves an event.

Does not own: what is done with the answers.
-/

set_option autoImplicit false

namespace ChainTx.Evm

structure Client where
  endpoint : Url
  chainId : UInt64
  requestTimeout : Duration
  /-- Where the count of this client's requests is kept. -/
  index : Nat
deriving DecidableEq, Repr

namespace Client

/-- A client of an endpoint given as text. Nothing is sent yet. -/
def make (endpoint : String) (chainId : UInt64) (requestTimeout : Duration) : Call Client := do
  let url ← Call.ofExcept (Endpoint.require endpoint)
  let state ← get
  set { state with requestCounts := state.requestCounts ++ [0] }
  pure ⟨url, chainId, requestTimeout, state.requestCounts.length⟩

/-- The body of a request; without parameters there is no member for them. -/
def requestBody (number : Nat) (method : String) (params : List Json) : Json :=
  .object ([("id", .integer number), ("jsonrpc", .string "2.0"), ("method", .string method)]
    ++ if params.isEmpty then [] else [("params", .array params)])

/-- The shape of an answer. The data of an error object are not looked at. -/
def shape : Json.Shape :=
  .record [("id", .whole), ("result", .whole),
    ("error", .record [("code", .whole), ("message", .whole), ("data", .any)])]

/-- The result in a readable answer. Error objects keep their code. -/
def resultOf (members : List (String × Json)) : Except TxError Json :=
  match Json.single? "result" members, Json.single? "error" members with
  | some (some .null), some none => .error (.transport .nullResponse)
  | some (some result), some none => .ok result
  | some none, some (some error) =>
      match RpcError.ofJson? error with
      | some error => .error (.rpc error.code error.message)
      | none => .error (.transport .unreadable)
  | _, _ => .error (.transport .unreadable)

def numberOf (width : Nat) (reply : HttpReply) : Except TxError Nat :=
  if reply.isSuccess then
    match Json.readKnown? shape reply.body with
    | some (.object members) => do
        let result ← resultOf members
        match Quantity.ofJson? width result with
        | some number => .ok number
        | none => .error (.transport .unreadable)
    | _ => .error (.transport .unreadable)
  else .error (.transport (.httpStatus reply.status reply.body))

/-- The limit on one exchange of a method. -/
def limit (client : Client) (method : String) : ExchangeLimit :=
  ⟨client.requestTimeout, .timeout method client.requestTimeout⟩

/-- The number of the next request, counted up unless the context is cancelled beforehand. -/
def nextNumber (client : Client) (context : CallContext) : Call Nat := do
  let state ← get
  let number := state.requestCounts.getD client.index 0
  if context.isCancelledAt state.clock then pure number
  else
    set { state with requestCounts := state.requestCounts.set client.index (number + 1) }
    pure number

/-- Asks for a number. A failure leaves an event. -/
def query (client : Client) (context : CallContext) (method : String) (params : List Json)
    (width : Nat) : Call Nat := do
  let number ← client.nextNumber context
  let request :=
    Request.post (String.ofList client.endpoint.target) (requestBody number method params)
  let reply ← Call.outcome
    (Call.exchange context method (client.limit method) client.endpoint request)
  Call.record (.exchanged method)
  match reply.bind (numberOf width) with
  | .ok number => pure number
  | .error error =>
      Call.emit .warn "EVM RPC call failed"
      throw error

/-- The chain id that the node reports. -/
def reportedChainId (client : Client) (context : CallContext) : Call UInt64 := do
  let number ← client.query context "eth_chainId" [] 64
  pure (UInt64.ofNat number)

/-- The next nonce of an account, pending transactions counted. -/
def pendingNonce (client : Client) (context : CallContext) (address : Address) : Call UInt64 := do
  let account := Json.string ("0x" ++ Hex.encode address.bytes)
  let number ←
    client.query context "eth_getTransactionCount" [account, .string "pending"] 64
  pure (UInt64.ofNat number)

/-- The price of gas that the node suggests, in wei. -/
def gasPrice (client : Client) (context : CallContext) : Call (BitVec 128) := do
  let number ← client.query context "eth_gasPrice" [] 128
  pure (BitVec.ofNat 128 number)

/-- Compares the node's chain id with the configured one. Whatever comes of it is only reported,
because signatures are bound to the configured one. -/
def verifyChainId (client : Client) (context : CallContext) : Call Unit := do
  match ← Call.outcome (client.reportedChainId context) with
  | .ok reported =>
      if reported = client.chainId then Call.emit .info "EVM client initialized"
      else
        Call.emit .warn
          ("Node reports a different chain id; " ++
            "transactions are signed for the configured one")
  | .error _ => Call.emit .warn "EVM client initialized but chain verification failed"

end Client

end ChainTx.Evm
