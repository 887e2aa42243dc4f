import ChainTx.Call.State
import ChainTx.Endpoint
import ChainTx.Json.Reader
import ChainTx.Json.Record

/-!
Contract: queries and remote calls to one endpoint.

Owns: clients, queries of paths below the endpoint, remote calls by JSON-RPC, and the outcome of a
remote call, which is a result or an error object. An error object wins over a result, provided that
both can be read; what else an answer holds only has to be well formed.

Does not own: what an error object means to the caller.
-/

set_option autoImplicit false

namespace ChainTx

structure RpcClient where
  endpoint : Url
  /-- How long one exchange may take, whatever the caller's context. -/
  requestTimeout : Duration
deriving DecidableEq, Repr

structure RpcError where
  code : Int64
  message : String
  data : Option Json
deriving Repr

inductive RpcOutcome (α : Type) where
  | result (value : α)
  | error (error : RpcError)
deriving Repr

namespace RpcError

def shape : Json.Shape :=
  .ofNames ["code", "message", "data"]

def ofJson? (json : Json) : Option RpcError := do
  match ← Json.record? ["code", "message", "data"] 2 json with
  | [code, message, data] =>
      let code ← Json.required? Json.int64? code
      let message ← Json.required? Json.string? message
      let data ← Json.optional? some data
      some ⟨code, message, data.map Json.canonical⟩
  | _ => none

end RpcError

namespace RpcOutcome

/-- The shape of an answer whose result has this shape. -/
def shape (resultShape : Json.Shape) : Json.Shape :=
  .record [("result", resultShape), ("error", RpcError.shape)]

/-- Reads the body of an answer: the result and the error object, each if it is there. -/
def read? {α : Type} (resultShape : Json.Shape) (readResult : Json → Option α) (body : String) :
    Option (Option α × Option RpcError) := do
  let json ← Json.readKnown? (shape resultShape) body
  match ← Json.record? ["result", "error"] 1 json with
  | [value, failure] =>
      let value ← Json.optional? readResult value
      let failure ← Json.optional? RpcError.ofJson? failure
      some (value, failure)
  | _ => none

/-- The outcome that the body of an answer to a method tells. -/
def ofBody {α : Type} (method : String) (resultShape : Json.Shape) (readResult : Json → Option α)
    (body : String) : Except TxError (RpcOutcome α) :=
  match read? resultShape readResult body with
  | none => .error (.transport (.malformed method))
  | some (_, some failure) => .ok (.error failure)
  | some (some value, none) => .ok (.result value)
  | some (none, none) => .error (.transport (.neitherResultNorError method))

end RpcOutcome

namespace RpcClient

/-- A client of an endpoint given as text. -/
def make (endpoint : String) (requestTimeout : Duration) : Except TxError RpcClient := do
  let url ← Endpoint.require endpoint
  .ok ⟨url, requestTimeout⟩

/-- The text of the URL of a path below the endpoint. -/
def urlFor (client : RpcClient) (path : String) : String :=
  Endpoint.below client.endpoint path

def limit (client : RpcClient) : ExchangeLimit :=
  ⟨client.requestTimeout, .transport .requestTimeout⟩

def get (client : RpcClient) (context : CallContext) (operation path : String) :
    Call HttpReply := do
  Call.emit .debug "REST request"
  let reply ← Call.outcome
    (match Url.read (client.urlFor path) with
    | .ok url =>
        Call.exchange context operation client.limit url (.get (String.ofList url.target))
    | .error _ => Call.failAtOnce context operation (.transport .disconnected))
  Call.record (.exchanged operation)
  Call.ofExcept reply

def callBody (method : String) (params : Json) : Json :=
  .object [("id", .integer 1), ("jsonrpc", .string "2.0"), ("method", .string method),
    ("params", params)]

/-- Calls a method at the endpoint, for a result of which a shape is looked at. A status other than
success is an error of its own. -/
def callKnown {α : Type} (client : RpcClient) (context : CallContext) (method : String)
    (params : Json) (resultShape : Json.Shape) (readResult : Json → Option α) :
    Call (RpcOutcome α) := do
  Call.emit .debug "JSON-RPC request"
  let request := Request.post (String.ofList client.endpoint.target) (callBody method params)
  let reply ← Call.outcome
    (Call.exchange context method client.limit client.endpoint request)
  Call.record (.exchanged method)
  let reply ← Call.ofExcept reply
  if reply.isSuccess then
    Call.ofExcept (RpcOutcome.ofBody method resultShape readResult reply.body)
  else throw (.api reply.status reply.body)

/-- Calls a method at the endpoint, for a whole result. -/
def call {α : Type} (client : RpcClient) (context : CallContext) (method : String)
    (params : Json) (readResult : Json → Option α) : Call (RpcOutcome α) :=
  client.callKnown context method params .whole readResult

end RpcClient

end ChainTx
