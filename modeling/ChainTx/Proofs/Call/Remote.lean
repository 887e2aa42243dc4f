import ChainTx.Proofs.Call.RpcClient
import ChainTx.Proofs.Checks

/-!
Contract: what calls put on the wire, whether they return or fail.

Owns:
- the requests and the operations that a run adds to the records, with the numbers of requests left
  out, and behind every request those by which the client went on;
- calls that make a fixed list of requests, one after the other, and stop at the first that fails;
- calls that check first: what they find themselves they report before they have done anything.

Does not own: what is requested, and what is checked.
-/

set_option autoImplicit false

namespace ChainTx

/-- Errors of exchanges with a node; all others are found without one. -/
def TxError.OfExchange : TxError → Prop
  | .notFound _ | .transport _ | .timeout _ _ | .cancelled _ | .rpc _ _ | .api _ _ => True
  | .configuration _ | .validation _ _ | .unsupportedTxType _ | .signing _ | .encoding _ => False

/-- A request without the number that its client gives it. -/
def Request.unnumbered : Request → Request
  | .post target (.object members) =>
      .post target (.object (members.filter fun member => member.1 != "id"))
  | request => request

def Measurement.operation? : Measurement → Option String
  | .exchanged operation => some operation
  | .built _ _ | .broadcast _ _ => none

/-- The requests of one exchange: the planned one, and behind it no more than a client goes on in one
exchange, each the next one that an answer to the one before it asks for. -/
def Request.IsTrail (planned : Request) (trail : List Request) : Prop :=
  ∃ first followed,
    trail = first :: followed
      ∧ first.unnumbered = planned
      ∧ followed.length ≤ redirectLimit
      ∧ trail.IsChain LeadsTo

/-- Requests on the wire that belong to the planned ones, one trail for each. With a node that sends
nobody anywhere they are the planned ones. -/
structure Wire.Carries (before : Wire) (planned : List Request) (after : Wire) : Prop where
  trails : ∃ trails : List (List Request),
    List.Forall₂ Request.IsTrail planned trails ∧ after.requests = before.requests ++ trails.flatten
  direct : before.IsDirect →
    (∃ made, after.requests = before.requests ++ made ∧ made.map Request.unnumbered = planned)
      ∧ after.IsDirect

namespace Wire

variable {before middle after : Wire} {planned later : List Request}

private theorem Carries.nothing (wire : Wire) :
    wire.Carries [] wire where
  trails := ⟨[], .nil, (List.append_nil _).symm⟩
  direct direct := ⟨⟨[], (List.append_nil _).symm, rfl⟩, direct⟩

/-- The requests of an exchange that reaches the node are one trail. -/
theorem Sent.carries
    {url : Url}
    {request : Request}
    {made : List Request}
    (sent : Sent redirectLimit url request before made after)
    (reached : before.reaches url = true) :
    before.Carries [request.unnumbered] after where
  trails := by
    have recorded := sent.requests_eq
    obtain ⟨followed, rfl⟩ := sent.exists_eq_cons reached
    refine ⟨[request :: followed], .cons ⟨request, followed, rfl, rfl, ?_, sent.isChain⟩ .nil, ?_⟩
    · exact Nat.le_of_succ_le_succ sent.length_le
    · rw [List.flatten_singleton, recorded]
  direct direct := by
    obtain ⟨single, stillDirect⟩ := sent.of_isDirect direct
    rw [if_pos reached] at single
    exact ⟨⟨made, sent.requests_eq, by rw [single]; rfl⟩, stillDirect⟩

private theorem Carries.trans
    (first : before.Carries planned middle)
    (second : middle.Carries later after) :
    before.Carries (planned ++ later) after where
  trails := by
    obtain ⟨trails, areTrails, recorded⟩ := first.trails
    obtain ⟨laterTrails, areLater, recordedLater⟩ := second.trails
    refine ⟨trails ++ laterTrails, List.rel_append areTrails areLater, ?_⟩
    rw [recordedLater, recorded, List.flatten_append, List.append_assoc]
  direct direct := by
    obtain ⟨⟨made, recorded, rfl⟩, middleDirect⟩ := first.direct direct
    obtain ⟨⟨madeLater, recordedLater, rfl⟩, afterDirect⟩ := second.direct middleDirect
    refine ⟨⟨made ++ madeLater, ?_, List.map_append⟩, afterDirect⟩
    rw [recordedLater, recorded, List.append_assoc]

end Wire

namespace CallState

/-- A state with so many planned requests and operations more. -/
def Added (before : CallState) (requests : List Request) (operations : List String)
    (after : CallState) : Prop :=
  before.wire.Carries requests after.wire
    ∧ ∃ new, after.measurements = before.measurements ++ new
      ∧ new.filterMap Measurement.operation? = operations

theorem Added.nothing
    {before after : CallState}
    (sameWire : after.wire = before.wire)
    (sameMeasurements : after.measurements = before.measurements) :
    before.Added [] [] after := by
  refine ⟨?_, ⟨[], by rw [sameMeasurements, List.append_nil], rfl⟩⟩
  rw [sameWire]
  exact .nothing before.wire

private theorem Added.carried
    {before after : CallState}
    {requests : List Request}
    (carries : before.wire.Carries requests after.wire)
    (sameMeasurements : after.measurements = before.measurements) :
    before.Added requests [] after :=
  ⟨carries, ⟨[], by rw [sameMeasurements, List.append_nil], rfl⟩⟩

private theorem Added.measured
    {before after : CallState}
    {measurement : Measurement}
    (sameWire : after.wire = before.wire)
    (oneMore : after.measurements = before.measurements ++ [measurement]) :
    before.Added [] measurement.operation?.toList after := by
  refine ⟨?_, ⟨[measurement], oneMore, by cases measurement <;> rfl⟩⟩
  rw [sameWire]
  exact .nothing before.wire

private theorem Added.trans
    {before middle after : CallState}
    {requests later : List Request}
    {operations laterOperations : List String}
    (first : before.Added requests operations middle)
    (second : middle.Added later laterOperations after) :
    before.Added (requests ++ later) (operations ++ laterOperations) after := by
  obtain ⟨carries, ⟨new, measuredFirst, rfl⟩⟩ := first
  obtain ⟨carriesLater, ⟨newLater, measuredThen, rfl⟩⟩ := second
  refine ⟨carries.trans carriesLater, ⟨new ++ newLater, ?_, List.filterMap_append⟩⟩
  rw [measuredThen, measuredFirst, List.append_assoc]

end CallState

/-! ## Calls with a plan -/

namespace Call

variable {α β : Type} {requests later : List Request} {operations laterOperations : List String}

private theorem isTransport_of_exchange
    {context : CallContext}
    {operation : String}
    {limit : ExchangeLimit}
    {url : Url}
    {request : Request}
    {before after : CallState}
    {error : TxError}
    (lateTransport : limit.late.isTransport = true)
    (failed : (exchange context operation limit url request).Fails before error after) :
    error.isTransport = true := by
  obtain ⟨time, ended, -⟩ := exchange_cases failed
  rcases context.run_cases operation before.clock
    (Ending.within limit.duration (.error limit.late) (before.deliver url request).1)
    with itself | ⟨other, taken, transport⟩
  · have result := congrArg Ending.result (itself.symm.trans ended)
    simp only [Ending.within] at result
    split at result
    · cases result
      exact lateTransport
    · rename_i ending delivered
      split at result
      · exact CallState.isTransport_of_deliver delivered result
      · cases result
        exact lateTransport
  · rw [ended] at taken
    cases taken
    exact transport

private theorem isTransport_of_failAtOnce
    {context : CallContext}
    {operation : String}
    {error failure : TxError}
    {before after : CallState}
    (transport : error.isTransport = true)
    (failed : (failAtOnce context operation error : Call α).Fails before failure after) :
    failure.isTransport = true := by
  have result :
      (context.run operation before.clock ⟨0, .error error⟩).result
        = (.error failure : Except TxError α) :=
    congrArg Prod.fst failed
  rcases context.run_cases operation before.clock
      (⟨0, .error error⟩ : Ending (Except TxError α)) with itself | ⟨other, taken, isTransport⟩
  · rw [itself] at result
    cases result
    exact transport
  · rw [result] at taken
    cases taken
    exact isTransport

variable {isOf : TxError → Prop}

end Call

/-! ## Clients -/

namespace RpcClient

variable {client : RpcClient} {context : CallContext}

/-- The request for a path, if the text of its URL can be read. -/
def requestsFor (client : RpcClient) (path : String) : List Request :=
  match Url.read (client.urlFor path) with
  | .ok url => [.get (String.ofList url.target)]
  | .error _ => []

/-- A query fails only where the node does not answer. -/
theorem isTransport_of_get
    {operation path : String}
    {before after : CallState}
    {error : TxError}
    (failed : (client.get context operation path).Fails before error after) :
    error.isTransport = true := by
  simp only [get, Call.fails_bind_iff, Call.not_fails_emit, Call.not_fails_outcome,
    Call.not_fails_record, Call.returns_outcome_iff, Call.fails_ofExcept_iff, false_or] at failed
  obtain ⟨_, _, -, _, _, exchanged, _, _, -, rfl, -⟩ := failed
  split at exchanged
  · exact Call.isTransport_of_exchange rfl exchanged
  · exact Call.isTransport_of_failAtOnce rfl exchanged

end RpcClient

end ChainTx
