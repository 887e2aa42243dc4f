import ChainTx.Call.RpcClient
import ChainTx.Evm.Signing

/-!
Contract: handing a signed transaction to a node of the EVM family.

Owns: the remote call and its outcome. An error object of the node is its refusal and comes back as
a value, with the error's code and the hash of the bytes that were sent.
-/

set_option autoImplicit false

namespace ChainTx.Evm

namespace Broadcast

def method : String := "eth_sendRawTransaction"

def params (txBytes : Bytes) : Json :=
  .array [.string ("0x" ++ Hex.encode txBytes)]

def broadcast (rpc : RpcClient) (context : CallContext) (signed : SignedTx) :
    Call BroadcastResult := do
  if signed.txBytes = [] then throw (.validation "tx_bytes" .emptyTransaction)
  match ← rpc.call context method (params signed.txBytes) Json.string? with
  | .result hash =>
      Call.emit .info "Transaction accepted into mempool"
      pure ⟨hash, 0, ""⟩
  | .error error =>
      Call.emit .warn "Transaction rejected by node"
      pure ⟨txHash signed.txBytes, error.code, error.message⟩

end Broadcast

end ChainTx.Evm
