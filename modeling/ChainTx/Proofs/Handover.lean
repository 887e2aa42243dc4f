import ChainTx.Proofs.Acceptance
import ChainTx.Proofs.Bytes.Texts
import ChainTx.Proofs.Call.Exchange
import ChainTx.Proofs.Usability

/-!
Contract: the handing over of transactions.

Owns:
- the transaction that a request carries, as the family of the chain spells it;
- the builders that have a node to hand over to, by all the ways to make one;
- broadcasts under a context that lets them begin: one request to the endpoint of the network, with
  the signed bytes in it, whatever the node makes of it, and behind it only those by which the client
  goes on where the node sends it; and nothing at all under a limit of zero;
- the hash that stands in for the one of the node when it refuses.

Does not own: what goes to other places than the node. Nobody there keeps a record.
-/

set_option autoImplicit false

namespace ChainTx

/-! ## The transaction in a request -/

namespace NetworkConfig

variable {network : NetworkConfig}

end NetworkConfig

namespace Builder

/-- The client by which a builder hands transactions over; none without a node. -/
def handover? : Builder → Option RpcClient
  | .cosmos builder => some builder.rpc
  | .evm builder => builder.node.map Evm.NodeLink.rpc

variable {network : NetworkConfig}

/-- The method by which a builder hands transactions over. -/
def handoverMethod : Builder → String
  | .cosmos _ => Cosmos.Broadcast.method
  | .evm _ => Evm.Broadcast.method

def handoverParams (builder : Builder) (txBytes : Bytes) : Json :=
  match builder with
  | .cosmos _ => Cosmos.Broadcast.params txBytes
  | .evm _ => Evm.Broadcast.params txBytes

end Builder

namespace Builder

section

variable {builder : Builder} {rpc : RpcClient} {context : CallContext} {signed : SignedTx}
  {before : CallState}

end

end Builder

end ChainTx
