import ChainTx.Call.RpcClient
import ChainTx.Proofs.Call.Runs

/-!
Contract: what the queries and remote calls of a client have done when they return.

Owns: the law of queries and the law of remote calls. Both trace what was returned to an answer of
the node.
-/

set_option autoImplicit false

namespace ChainTx.RpcClient

/-- The request of a remote call. -/
def callRequest (client : RpcClient) (method : String) (params : Json) : Request :=
  .post (String.ofList client.endpoint.target) (callBody method params)

/-- A query returns what the node answers to a request for the path. -/
theorem served_of_returns_get
    {client : RpcClient}
    {context : CallContext}
    {operation path : String}
    {answer : HttpReply}
    {before after : CallState}
    (returned : (client.get context operation path).Returns before answer after) :
    ∃ url,
      Url.read (client.urlFor path) = .ok url
        ∧ Wire.Served url (.get (String.ofList url.target)) before.wire answer after.wire := by
  simp only [get, Call.returns_bind_iff, Call.returns_emit_iff, Call.returns_outcome_iff,
    Call.returns_record_iff, Call.returns_ofExcept_iff] at returned
  obtain ⟨_, _, rfl, result, _, exchanged, _, _, rfl, rfl, rfl⟩ := returned
  split at exchanged
  · rename_i url urlRead
    have served := Call.served_of_returns_exchange exchanged
    exact ⟨url, urlRead, served⟩
  · exact absurd exchanged Call.not_returns_failAtOnce

/-- A remote call returns what the node's answer of a successful status says. -/
theorem served_of_returns_callKnown
    {α : Type}
    {client : RpcClient}
    {context : CallContext}
    {method : String}
    {params : Json}
    {resultShape : Json.Shape}
    {readResult : Json → Option α}
    {outcome : RpcOutcome α}
    {before after : CallState}
    (returned : (client.callKnown context method params resultShape readResult).Returns before outcome
      after) :
    ∃ answer,
      Wire.Served client.endpoint (client.callRequest method params) before.wire answer after.wire
        ∧ answer.isSuccess
        ∧ RpcOutcome.ofBody method resultShape readResult answer.body = .ok outcome := by
  simp only [callKnown, Call.returns_bind_iff, Call.returns_emit_iff, Call.returns_outcome_iff,
    Call.returns_record_iff, Call.returns_ofExcept_iff] at returned
  obtain ⟨_, _, rfl, result, _, exchanged, _, _, rfl, answer, _, ⟨rfl, rfl⟩, returned⟩ := returned
  have served := Call.served_of_returns_exchange exchanged
  split at returned
  · rename_i success
    rw [Call.returns_ofExcept_iff] at returned
    obtain ⟨outcomeRead, rfl⟩ := returned
    exact ⟨answer, served, success, outcomeRead⟩
  · exact absurd returned Call.not_returns_throw

end ChainTx.RpcClient
