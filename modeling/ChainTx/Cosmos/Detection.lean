import ChainTx.Call.RpcClient
import ChainTx.Version

/-!
Contract: asking a node of the Cosmos family for its application version.

Owns: the query, the shape of its answer, and what follows from the version. A node that names no
version, or an unreadable one, is refused; there is no fallback.
-/

set_option autoImplicit false

namespace ChainTx.Cosmos

namespace Detection

/-- The shape of an answer: a version in a response in a result. -/
def shape : Json.Shape :=
  .record [("result", .record [("response", .ofNames ["version"])])]

/-- The version text in the body of an answer. -/
def versionOf? (body : String) : Option String := do
  let json ← Json.readKnown? shape body
  let result ← memberOf "result" json
  let response ← memberOf "response" result
  match ← Json.record? ["version"] 0 response with
  | [version] => Json.defaulted? Json.string? "" version
  | _ => none
where
  /-- The only member of a record, which must be there. -/
  memberOf (name : String) (json : Json) : Option Json := do
    match ← Json.record? [name] 1 json with
    | [value] => value
    | _ => none

def ofReply (reply : HttpReply) : Except TxError AppVersion :=
  if reply.isSuccess then
    match versionOf? reply.body with
    | none => .error (.transport (.malformed "abci_info"))
    | some version =>
        if Blank.isBlankText version then .error (.configuration .emptyVersion)
        else AppVersion.parse version
  else .error (.api reply.status reply.body)

def detect (rpc : RpcClient) (context : CallContext) : Call AppVersion := do
  let reply ← rpc.get context "abci_info" "abci_info"
  let app ← Call.ofExcept (ofReply reply)
  Call.emit .info "Detected application version"
  pure app

end Detection

end ChainTx.Cosmos
