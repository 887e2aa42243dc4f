import ChainTx.Bytes.Base64
import ChainTx.Call.RpcClient
import ChainTx.Lifecycle

/-!
Contract: handing a signed transaction to a node of the Cosmos family.

Owns: the remote call and its outcome. A code other than zero is the application's refusal and comes
back as a value; an error object of the node is an error.
-/

set_option autoImplicit false

namespace ChainTx.Cosmos

namespace Broadcast

def method : String := "broadcast_tx_sync"

def params (txBytes : Bytes) : Json :=
  .object [("tx", .string (Base64.encode txBytes))]

def resultShape : Json.Shape :=
  .ofNames ["code", "hash", "log"]

/-- Reads the result of the remote call; what is missing counts as zero or empty. -/
def readResult? (json : Json) : Option BroadcastResult := do
  match ← Json.record? ["code", "hash", "log"] 0 json with
  | [code, hash, log] =>
      let code ← Json.defaulted? Json.int64? 0 code
      let hash ← Json.defaulted? Json.string? "" hash
      let log ← Json.defaulted? Json.string? "" log
      some ⟨hash, code, log⟩
  | _ => none

/-- The message of an error object, with its data behind a colon. -/
def errorMessage (error : RpcError) : String :=
  match error.data with
  | none => error.message
  | some (.string data) => error.message ++ ": " ++ data
  | some data => error.message ++ ": " ++ data.compact

def broadcast (rpc : RpcClient) (context : CallContext) (signed : SignedTx) :
    Call BroadcastResult := do
  if signed.txBytes = [] then throw (.validation "tx_bytes" .emptyTransaction)
  match ← rpc.callKnown context method (params signed.txBytes) resultShape readResult? with
  | .result result =>
      if result.isAccepted then Call.emit .info "Transaction accepted into mempool"
      else Call.emit .warn "Transaction rejected by application"
      pure result
  | .error error =>
      Call.emit .warn "broadcast_tx_sync failed"
      throw (.rpc error.code (errorMessage error))

end Broadcast

end ChainTx.Cosmos
