import ChainTx.Proofs.Call.Exchange
import ChainTx.Proofs.Connecting
import ChainTx.Proofs.Handover

/-!
Contract: calls under a context that has been cancelled before they start.

Owns:
- what such a call leaves: the wire as it was, the clock where it stood, and a result that is known
  beforehand, with one law for each way to make a call;
- queries and remote calls of both kinds of clients, which all end as cancelled;
- connecting, building and broadcasting, which end as cancelled or with what they find out by
  themselves, except for connecting to an EVM network.

Does not own: contexts that are cancelled later.

## Why connecting to an EVM network differs

Its only query compares chain ids, and whatever comes of the comparison is an event. A cancelled
query is one of the things that may come of it, so the cancellation ends there.
-/

set_option autoImplicit false

namespace ChainTx

namespace Call

variable {α β : Type} {context : CallContext}

/-- A call that finds its context cancelled: nothing is put on the wire, the clock stands still, and
the result is one of these. -/
def Cancels (context : CallContext) (call : Call α) (results : Except TxError α → Prop) : Prop :=
  ∀ before, context.isCancelledAt before.clock = true →
    (call.run.run before).2.wire = before.wire
      ∧ (call.run.run before).2.clock = before.clock
      ∧ results (call.run.run before).1

private theorem Cancels.ended
    {call : Call α}
    {results : Except TxError α → Prop}
    {before after : CallState}
    {result : Except TxError α}
    (ends : Cancels context call results)
    (cancelled : context.isCancelledAt before.clock = true)
    (ran : call.run.run before = (result, after)) :
    after.wire = before.wire ∧ results result := by
  obtain ⟨wire, -, ended⟩ := ends before cancelled
  rw [ran] at wire ended
  exact ⟨wire, ended⟩

/-! ## Sequences -/

private theorem cancels_bind
    {call : Call α}
    {next : α → Call β}
    {middle : Except TxError α → Prop}
    {results : Except TxError β → Prop}
    (first : Cancels context call middle)
    (failing : ∀ error, middle (.error error) → results (.error error))
    (rest : ∀ value, middle (.ok value) → Cancels context (next value) results) :
    Cancels context (call >>= next) results := by
  intro before cancelled
  obtain ⟨wire, clock, ended⟩ := first before cancelled
  rw [ExceptT.run_bind, StateT.run_bind]
  generalize call.run.run before = ran at *
  obtain ⟨result, reached⟩ := ran
  cases result with
  | error error => exact ⟨wire, clock, failing error ended⟩
  | ok value =>
      -- The clock stands where it stood, so the rest finds the context cancelled, too.
      have still : context.isCancelledAt reached.clock = true := by
        rw [show reached.clock = before.clock from clock]
        exact cancelled
      obtain ⟨restWire, restClock, restEnded⟩ := rest value ended reached still
      exact ⟨restWire.trans wire, restClock.trans clock, restEnded⟩

/-- Behind a call that returns a known value. -/
theorem cancels_bind_ok
    {call : Call α}
    {next : α → Call β}
    {value : α}
    {results : Except TxError β → Prop}
    (first : Cancels context call (· = .ok value))
    (rest : Cancels context (next value) results) :
    Cancels context (call >>= next) results := by
  apply cancels_bind first
  · intro error impossible
    cases impossible
  · rintro _ ⟨⟩
    exact rest

/-- Behind a call that fails nothing is done. -/
theorem cancels_bind_error
    {call : Call α}
    {next : α → Call β}
    {error : TxError}
    (first : Cancels context call (· = .error error)) :
    Cancels context (call >>= next) (· = .error error) := by
  apply cancels_bind first
  · rintro _ ⟨⟩
    rfl
  · intro value impossible
    cases impossible

private theorem cancels_weaken
    {call : Call α}
    {results weaker : Except TxError α → Prop}
    (ends : Cancels context call results)
    (weakens : ∀ result, results result → weaker result) :
    Cancels context call weaker := by
  intro before cancelled
  obtain ⟨wire, clock, ended⟩ := ends before cancelled
  exact ⟨wire, clock, weakens _ ended⟩

/-! ## Single steps -/

private theorem cancels_pure (value : α) :
    Cancels context (pure value) (· = .ok value) :=
  fun _ _ => ⟨rfl, rfl, rfl⟩

private theorem cancels_throw (error : TxError) :
    Cancels context (throw error : Call α) (· = .error error) :=
  fun _ _ => ⟨rfl, rfl, rfl⟩

private theorem cancels_ofExcept (result : Except TxError α) :
    Cancels context (ofExcept result) (· = result) := by
  cases result with
  | ok value => exact cancels_pure value
  | error error => exact cancels_throw error

private theorem cancels_emit
    (level : Level)
    (message : String) :
    Cancels context (emit level message) (· = .ok ()) :=
  fun _ _ => ⟨rfl, rfl, rfl⟩

private theorem cancels_record (measurement : Measurement) :
    Cancels context (record measurement) (· = .ok ()) :=
  fun _ _ => ⟨rfl, rfl, rfl⟩

private theorem cancels_outcome
    {call : Call α}
    (result : Except TxError α)
    (ends : Cancels context call (· = result)) :
    Cancels context (outcome call) (· = .ok result) := by
  intro before cancelled
  obtain ⟨wire, clock, ended⟩ := ends before cancelled
  exact ⟨wire, clock, congrArg Except.ok ended⟩

private theorem run_of_isCancelledAt
    {operation : String}
    {now : Nat}
    (cancelled : context.isCancelledAt now = true)
    (work : Ending (Except TxError α)) :
    context.run operation now work = ⟨0, .error (.cancelled operation)⟩ := by
  unfold CallContext.run CallContext.run?
  rw [if_pos cancelled, Option.getD_some]

/-- No exchange begins. -/
theorem cancels_exchange
    (operation : String)
    (limit : ExchangeLimit)
    (url : Url)
    (request : Request) :
    Cancels context (exchange context operation limit url request)
      (· = .error (.cancelled operation)) := by
  intro before cancelled
  simp only [exchange, ExceptT.run, StateT.run, run_of_isCancelledAt cancelled]
  exact ⟨rfl, rfl, rfl⟩

private theorem cancels_failAtOnce
    (operation : String)
    (error : TxError) :
    Cancels context (failAtOnce context operation error : Call α)
      (· = .error (.cancelled operation)) := by
  intro before cancelled
  simp only [failAtOnce, ExceptT.run, StateT.run, run_of_isCancelledAt cancelled]
  exact ⟨trivial, trivial, trivial⟩

end Call

/-! ## Clients -/

namespace RpcClient

variable {α : Type} {client : RpcClient} {context : CallContext}

private theorem cancels_get
    (operation path : String) :
    Call.Cancels context (client.get context operation path)
      (· = .error (.cancelled operation)) := by
  apply Call.cancels_bind_ok (Call.cancels_emit _ _)
  refine Call.cancels_bind_ok (Call.cancels_outcome (.error (.cancelled operation)) ?_) ?_
  · split
    · apply Call.cancels_exchange
    · apply Call.cancels_failAtOnce
  · apply Call.cancels_bind_ok (Call.cancels_record _)
    apply Call.cancels_ofExcept

private theorem cancels_callKnown
    (method : String)
    (params : Json)
    (resultShape : Json.Shape)
    (readResult : Json → Option α) :
    Call.Cancels context (client.callKnown context method params resultShape readResult)
      (· = .error (.cancelled method)) := by
  apply Call.cancels_bind_ok (Call.cancels_emit _ _)
  apply Call.cancels_bind_ok (Call.cancels_outcome _ (Call.cancels_exchange _ _ _ _))
  apply Call.cancels_bind_ok (Call.cancels_record _)
  apply Call.cancels_bind_error
  apply Call.cancels_ofExcept

end RpcClient

namespace Evm.Client

variable {client : Client} {context : CallContext}

/-- A request that is not sent takes no number. -/
theorem cancels_nextNumber :
    Call.Cancels context (client.nextNumber context) (fun result => ∃ number, result = .ok number) := by
  intro before cancelled
  have found : (get : Call CallState).Returns before before before := rfl
  rw [nextNumber, Call.run_bind_of_returns found]
  simp only [if_pos cancelled]
  exact ⟨rfl, rfl, _, rfl⟩

private theorem cancels_query
    (method : String)
    (params : List Json)
    (width : Nat) :
    Call.Cancels context (client.query context method params width)
      (· = .error (.cancelled method)) := by
  apply Call.cancels_bind cancels_nextNumber
  · rintro error ⟨number, impossible⟩
    cases impossible
  · intro number _
    apply Call.cancels_bind_ok (Call.cancels_outcome _ (Call.cancels_exchange _ _ _ _))
    apply Call.cancels_bind_ok (Call.cancels_record _)
    apply Call.cancels_bind_ok (Call.cancels_emit _ _)
    apply Call.cancels_throw

/-- The cancelled query for the chain id is reported like any other failure. -/
theorem cancels_verifyChainId :
    Call.Cancels context (client.verifyChainId context) (· = .ok ()) := by
  have asked : Call.Cancels context (client.reportedChainId context)
      (· = .error (.cancelled "eth_chainId")) :=
    Call.cancels_bind_error (cancels_query _ _ _)
  apply Call.cancels_bind_ok (Call.cancels_outcome _ asked)
  apply Call.cancels_emit

end Evm.Client

/-! ## The Cosmos family -/

namespace Cosmos

variable {context : CallContext}

private theorem Builder.cancels_connect
    {network : NetworkConfig}
    (sound : network.Sound)
    (unnamed : network.sdkVersion = none) :
    Call.Cancels context (connect network context) (· = .error (.cancelled "abci_info")) := by
  obtain ⟨rpc, detects⟩ := versionOf_of_unnamed sound unnamed context
  rw [connect, detects]
  apply Call.cancels_bind_error
  apply Call.cancels_bind_error
  apply RpcClient.cancels_get

private theorem Builder.cancels_build
    (builder : Builder)
    (request : BuildRequest) :
    Call.Cancels context (builder.build context request)
      (· = (builder.prepare request).bind fun _ => .error (.cancelled "account query")) := by
  unfold build
  cases prepared : builder.prepare request with
  | error error =>
      apply Call.cancels_bind_error
      apply Call.cancels_throw
  | ok parts =>
      apply Call.cancels_bind_ok (Call.cancels_pure parts)
      apply Call.cancels_bind_error
      apply Call.cancels_bind_error
      apply RpcClient.cancels_get

private theorem Builder.cancels_broadcast
    (builder : Builder)
    (signed : SignedTx) :
    Call.Cancels context (builder.broadcast context signed)
      (· = .error (if signed.txBytes = [] then .validation "tx_bytes" .emptyTransaction
        else .cancelled Broadcast.method)) := by
  unfold broadcast Broadcast.broadcast
  apply Call.cancels_bind_error
  by_cases empty : signed.txBytes = []
  · rw [if_pos empty, if_pos empty]
    apply Call.cancels_bind_error
    apply Call.cancels_throw
  · rw [if_neg empty, if_neg empty]
    apply Call.cancels_bind_error
    apply RpcClient.cancels_callKnown

end Cosmos

/-! ## The EVM family -/

namespace Evm

variable {context : CallContext}

private theorem Client.cancels_make
    (endpoint : String)
    (chainId : UInt64)
    (timeout : Duration) :
    Call.Cancels context (make endpoint chainId timeout) fun _ => True := by
  intro before _
  unfold make
  cases Endpoint.require endpoint <;> exact ⟨rfl, rfl, trivial⟩

/-- Whatever connecting comes to, it is without the node. -/
theorem Builder.cancels_connect (network : NetworkConfig) :
    Call.Cancels context (connect network context) fun _ => True := by
  apply Call.cancels_bind (Call.cancels_ofExcept _) (fun _ _ => trivial)
  intro chainId _
  apply Call.cancels_bind (Client.cancels_make _ _ _) (fun _ _ => trivial)
  intro client _
  apply Call.cancels_bind (Call.cancels_ofExcept _) (fun _ _ => trivial)
  intro rpc _
  apply Call.cancels_bind_ok Client.cancels_verifyChainId
  exact Call.cancels_weaken (Call.cancels_pure _) fun _ _ => trivial

/-- The check of the price that a request names. -/
def Builder.checkPrice (request : BuildRequest) : Except TxError Unit :=
  match requestedPrice? request.gasPrice with
  | some raw => (parseGasPrice raw).map fun _ => ()
  | none => .ok ()

/-- The first thing that a build asks for. -/
def Builder.firstQuery (request : BuildRequest) : String :=
  match requestedPrice? request.gasPrice with
  | some _ => "eth_getTransactionCount"
  | none => "eth_gasPrice"

private theorem Builder.cancels_resolveNonce
    {builder : Builder}
    {link : NodeLink}
    (present : builder.node = some link)
    (sender : Address) :
    Call.Cancels context (builder.resolveNonce context sender)
      (· = .error (.cancelled "eth_getTransactionCount")) := by
  unfold resolveNonce
  rw [present]
  apply Call.cancels_bind_error
  apply Client.cancels_query

private theorem Builder.cancels_build
    {builder : Builder}
    {link : NodeLink}
    (present : builder.node = some link)
    (request : BuildRequest) :
    Call.Cancels context (builder.build context request)
      (· = (builder.prepare request).bind fun _ =>
        (checkPrice request).bind fun _ => .error (.cancelled (firstQuery request))) := by
  unfold build
  cases prepared : builder.prepare request with
  | error error =>
      apply Call.cancels_bind_error
      apply Call.cancels_throw
  | ok parts =>
      apply Call.cancels_bind_ok (Call.cancels_pure parts)
      unfold resolveGasPrice checkPrice firstQuery
      cases requestedPrice? request.gasPrice with
      | none =>
          simp only [present]
          apply Call.cancels_bind_error
          apply Call.cancels_bind_error
          apply Client.cancels_query
      | some raw =>
          simp only
          cases parseGasPrice raw with
          | error error =>
              apply Call.cancels_bind_error
              apply Call.cancels_throw
          | ok price =>
              apply Call.cancels_bind_ok (Call.cancels_pure price)
              apply Call.cancels_bind_error
              exact cancels_resolveNonce present _

private theorem Builder.cancels_broadcast
    {builder : Builder}
    {link : NodeLink}
    (present : builder.node = some link)
    (signed : SignedTx) :
    Call.Cancels context (builder.broadcast context signed)
      (· = .error (if signed.txBytes = [] then .validation "tx_bytes" .emptyTransaction
        else .cancelled Broadcast.method)) := by
  unfold broadcast Broadcast.broadcast
  simp only [present]
  apply Call.cancels_bind_error
  by_cases empty : signed.txBytes = []
  · rw [if_pos empty, if_pos empty]
    apply Call.cancels_bind_error
    apply Call.cancels_throw
  · rw [if_neg empty, if_neg empty]
    apply Call.cancels_bind_error
    apply RpcClient.cancels_callKnown

end Evm

/-! ## Networks and builders of either family -/

namespace Builder

variable {context : CallContext}

/-- What a build finds out about a request without asking anybody. -/
def check (builder : Builder) (request : BuildRequest) : Except TxError Unit :=
  match builder with
  | .cosmos builder => (builder.prepare request).bind fun _ => .ok ()
  | .evm builder => (builder.prepare request).bind fun _ => Evm.Builder.checkPrice request

/-- The first thing that a build asks for. -/
def firstQuery : Builder → BuildRequest → String
  | .cosmos _, _ => "account query"
  | .evm _, request => Evm.Builder.firstQuery request

private theorem cancels_connect_cosmos
    {network : NetworkConfig}
    (accepted : network.problems = [])
    (isCosmos : network.framework = .cosmos)
    (unnamed : network.sdkVersion = none) :
    Call.Cancels context (connect network context) (· = .error (.cancelled "abci_info")) := by
  rw [connect, if_neg (not_not_intro accepted), ofFamily, isCosmos]
  apply Call.cancels_bind_error
  apply Call.cancels_bind_error
  exact Cosmos.Builder.cancels_connect (NetworkConfig.sound_of_problems accepted) unnamed

private theorem cancels_ofFamily_evm
    {network : NetworkConfig}
    (isEvm : network.framework = .evm) :
    Call.Cancels context (ofFamily network context) fun _ => True := by
  rw [ofFamily, isEvm]
  apply Call.cancels_bind (Evm.Builder.cancels_connect network) (fun _ _ => trivial)
  intro builder _
  exact Call.cancels_weaken (Call.cancels_pure _) fun _ _ => trivial

private theorem cancels_connect_evm
    {network : NetworkConfig}
    (accepted : network.problems = [])
    (isEvm : network.framework = .evm) :
    Call.Cancels context (connect network context) fun _ => True := by
  rw [connect, if_neg (not_not_intro accepted)]
  apply Call.cancels_bind (cancels_ofFamily_evm isEvm) (fun _ _ => trivial)
  intro builder _
  apply Call.cancels_bind_ok (Call.cancels_emit _ _)
  exact Call.cancels_weaken (Call.cancels_pure _) fun _ _ => trivial

/-- The comparison of the chain ids swallows the cancellation, so a builder is made. -/
theorem exists_returns_connect_evm
    {network : NetworkConfig}
    (accepted : network.problems = [])
    (isEvm : network.framework = .evm)
    (context : CallContext)
    (before : CallState) :
    ∃ builder after, (connect network context).Returns before builder after := by
  obtain ⟨builder, middle, connected⟩ := Evm.Builder.returns_connect
    (NetworkConfig.sound_of_problems accepted) isEvm context before
  have made : (ofFamily network context).Returns before (.evm builder) middle := by
    simp only [ofFamily, isEvm, Call.returns_bind_iff, Call.returns_pure_iff]
    exact ⟨builder, middle, connected, rfl, rfl⟩
  obtain ⟨after, returned⟩ := exists_returns_connect accepted made
  exact ⟨_, after, returned⟩

private theorem cancels_build
    {builder : Builder}
    {rpc : RpcClient}
    (linked : builder.handover? = some rpc)
    (request : BuildRequest) :
    Call.Cancels context (builder.build context request)
      (· = (builder.check request).bind fun _ => .error (.cancelled (builder.firstQuery request))) := by
  cases builder with
  | cosmos builder =>
      apply Call.cancels_weaken (builder.cancels_build request)
      rintro _ rfl
      rw [check]
      cases builder.prepare request <;> rfl
  | evm builder =>
      obtain ⟨link, present, -⟩ := Option.map_eq_some_iff.mp linked
      apply Call.cancels_weaken (Evm.Builder.cancels_build present request)
      rintro _ rfl
      rw [check]
      cases builder.prepare request <;> rfl

/-- How a broadcast fails that finds its context cancelled. -/
def handoverFailure (builder : Builder) (signed : SignedTx) : TxError :=
  match builder.handover? with
  | none => .configuration .offlineBroadcast
  | some _ =>
      if signed.txBytes = [] then .validation "tx_bytes" .emptyTransaction
      else .cancelled builder.handoverMethod

private theorem cancels_broadcast
    (builder : Builder)
    (signed : SignedTx) :
    Call.Cancels context (builder.broadcast context signed)
      (· = .error (builder.handoverFailure signed)) := by
  cases builder with
  | cosmos builder => exact builder.cancels_broadcast signed
  | evm builder =>
      cases node : builder.node with
      | none =>
          show Call.Cancels context (Evm.Builder.broadcast builder context signed) _
          rw [handoverFailure, handover?, Evm.Builder.broadcast, node]
          exact Call.cancels_throw _
      | some link =>
          rw [handoverFailure, handover?, node]
          exact Evm.Builder.cancels_broadcast node signed

/-- Under a context that has been cancelled beforehand no operation puts anything on the wire. To
connect is refused for the problems of the settings; without one it ends as cancelled for a Cosmos
network that does not name its version, but makes a builder for an EVM network. To build, with a
node, and to broadcast end with what is found out without it, and otherwise as cancelled. -/
theorem cancelled_beforehand
    (context : CallContext)
    (before : CallState)
    (cancelled : context.isCancelledAt before.clock = true) :
    (∀ (network : NetworkConfig) (result : Except TxError Builder) (after : CallState),
        network.framework = .evm ∨ network.sdkVersion = none →
        (connect network context).run.run before = (result, after) →
        after.wire = before.wire
          ∧ (network.problems ≠ [] →
            result = .error (.configuration (.rejected network.problems)))
          ∧ (network.problems = [] → network.framework = .cosmos →
            result = .error (.cancelled "abci_info"))
          ∧ (network.problems = [] → network.framework = .evm →
            ∃ builder, result = .ok builder))
      ∧ (∀ (builder : Builder) (rpc : RpcClient) (request : BuildRequest)
          (result : Except TxError UnsignedTx) (after : CallState),
        builder.handover? = some rpc →
        (builder.build context request).run.run before = (result, after) →
        after.wire = before.wire
          ∧ (∀ error, builder.check request = .error error → result = .error error)
          ∧ (builder.check request = .ok () →
            result = .error (.cancelled (builder.firstQuery request))))
      ∧ ∀ (builder : Builder) (signed : SignedTx) (result : Except TxError BroadcastResult)
          (after : CallState),
        (builder.broadcast context signed).run.run before = (result, after) →
        after.wire = before.wire
          ∧ (builder.handover? = none → result = .error (.configuration .offlineBroadcast))
          ∧ ∀ rpc, builder.handover? = some rpc →
            (signed.txBytes = [] → result = .error (.validation "tx_bytes" .emptyTransaction))
              ∧ (signed.txBytes ≠ [] → result = .error (.cancelled builder.handoverMethod)) := by
  refine ⟨?_, ?_, ?_⟩
  · intro network result after asks ran
    by_cases accepted : network.problems = []
    · cases framework : network.framework with
      | cosmos =>
          have unnamed : network.sdkVersion = none :=
            asks.resolve_left (by rw [framework]; decide)
          obtain ⟨wire, ended⟩ :=
            (cancels_connect_cosmos accepted framework unnamed).ended cancelled ran
          exact ⟨wire, fun refused => absurd accepted refused, fun _ _ => ended,
            fun _ isEvm => absurd isEvm (by decide)⟩
      | evm =>
          obtain ⟨wire, -⟩ := (cancels_connect_evm accepted framework).ended cancelled ran
          obtain ⟨builder, left, returned⟩ :=
            exists_returns_connect_evm accepted framework context before
          rw [Call.Returns, ran] at returned
          cases returned
          exact ⟨wire, fun refused => absurd accepted refused,
            fun _ isCosmos => absurd isCosmos (by decide), fun _ _ => ⟨builder, rfl⟩⟩
    · rw [run_connect_of_problems accepted] at ran
      cases ran
      exact ⟨rfl, fun _ => rfl, fun none => absurd none accepted, fun none => absurd none accepted⟩
  · intro builder rpc request result after linked ran
    obtain ⟨wire, rfl⟩ := (cancels_build linked request).ended cancelled ran
    refine ⟨wire, ?_, ?_⟩
    · intro error found
      rw [found]
      rfl
    · intro sound
      rw [sound]
      rfl
  · intro builder signed result after ran
    obtain ⟨wire, rfl⟩ := (builder.cancels_broadcast signed).ended cancelled ran
    unfold handoverFailure
    refine ⟨wire, ?_, ?_⟩
    · intro offline
      rw [offline]
    · intro rpc linked
      rw [linked]
      exact ⟨fun empty => congrArg Except.error (if_pos empty),
        fun notEmpty => congrArg Except.error (if_neg notEmpty)⟩

/-! ### A context that is cancelled from the start -/

def cancelledContext : CallContext :=
  ⟨some 0, none⟩

/-- To connect to a Cosmos network and to broadcast end as cancelled. -/
theorem cancelled_plainCosmos :
    ((connect .plainCosmos cancelledContext).run.run (.initial (some sampleNode))).1
        = .error (.cancelled "abci_info")
      ∧ ((sampleBuilder.broadcast cancelledContext sampleTx).run.run (.initial (some sampleNode))).1
        = .error (.cancelled "eth_sendRawTransaction")
      ∧ ((sampleBuilder.broadcast cancelledContext sampleTx).run.run
          (.initial (some sampleNode))).2.requests = [] := by
  obtain ⟨connects, -, broadcasts⟩ :=
    cancelled_beforehand cancelledContext (.initial (some sampleNode)) rfl
  have accepted : NetworkConfig.plainCosmos.problems = [] := by
    decide +kernel
  obtain ⟨-, -, cosmos, -⟩ := connects .plainCosmos _ _ (.inr rfl) rfl
  obtain ⟨wire, -, handover⟩ := broadcasts sampleBuilder sampleTx _ _ rfl
  exact ⟨cosmos accepted rfl, (handover _ rfl).2 (by decide), congrArg Wire.requests wire⟩

/-- To connect to an EVM network makes a builder all the same, and the cancelled query is only
reported. -/
theorem connected_plainEvm_cancelled :
    NetworkConfig.plainEvm.problems = []
      ∧ cancelledContext.isCancelledAt (CallState.initial none).clock = true
      ∧ ∃ builder after,
        (connect .plainEvm cancelledContext).Returns (.initial none) builder after
          ∧ after.events.map Event.text
            = ["WARN EVM RPC call failed",
              "WARN EVM client initialized but chain verification failed",
              "INFO Transaction builder ready"] := by
  have accepted : NetworkConfig.plainEvm.problems = [] := by
    decide +kernel
  refine ⟨accepted, rfl, ?_⟩
  obtain ⟨builder, after, returned⟩ :=
    exists_returns_connect_evm accepted rfl cancelledContext (.initial none)
  refine ⟨builder, after, returned, ?_⟩
  have left : after = ((connect .plainEvm cancelledContext).run.run (.initial none)).2 :=
    (congrArg Prod.snd returned).symm
  rw [left]
  decide +kernel

end Builder

end ChainTx
