import ChainTx.Proofs.Call.Remote

/-!
Contract: single exchanges, whatever comes of them.

Owns:
- the exchanges that put their request on the wire: those that their context lets begin, with a limit
  that is not zero; and what a limit of zero does;
- calls that ask for nothing at all;
- the run of a remote call in terms of the run of its exchange. What it does besides leaves the wire
  and the clock as they are.

Does not own: what is requested, and how an answer is read.
-/

set_option autoImplicit false

namespace ChainTx

/-! ## Records beside the wire -/

namespace CallState

/-- The state with an event more. -/
def logged (state : CallState) (level : Level) (message : String) : CallState :=
  { state with events := state.events ++ [⟨level, message⟩] }

/-- The state with a measurement more. -/
def measured (state : CallState) (measurement : Measurement) : CallState :=
  { state with measurements := state.measurements ++ [measurement] }

/-- The operations whose exchanges have been measured. -/
def operations (state : CallState) : List String :=
  state.measurements.filterMap Measurement.operation?

/-- Two states tell the same of what has been asked for. -/
def SameTrace (first second : CallState) : Prop :=
  first.wire = second.wire ∧ first.operations = second.operations

theorem SameTrace.trans
    {first second third : CallState}
    (left : first.SameTrace second)
    (right : second.SameTrace third) :
    first.SameTrace third :=
  ⟨left.1.trans right.1, left.2.trans right.2⟩

@[simp] theorem clock_logged
    (state : CallState)
    (level : Level)
    (message : String) :
    (state.logged level message).clock = state.clock :=
  rfl

end CallState

namespace Call

variable {α β : Type}

private theorem run_emit_bind
    {level : Level}
    {message : String}
    {next : Unit → Call β}
    {before : CallState} :
    (emit level message >>= next).run.run before
      = (next ()).run.run (before.logged level message) :=
  rfl

private theorem run_record_bind
    {measurement : Measurement}
    {next : Unit → Call β}
    {before : CallState} :
    (record measurement >>= next).run.run before = (next ()).run.run (before.measured measurement) :=
  rfl

private theorem run_outcome_bind
    {call : Call α}
    {next : Except TxError α → Call β}
    {before : CallState} :
    (outcome call >>= next).run.run before
      = (next (call.run.run before).1).run.run (call.run.run before).2 :=
  rfl

private theorem run_ofExcept
    {result : Except TxError α}
    {before : CallState} :
    (ofExcept result).run.run before = (result, before) := by
  cases result <;> rfl

/-- What a call comes to when the rest depends on nothing but its value. -/
theorem result_bind
    {next : α → Call β}
    {judged : α → Except TxError β}
    (call : Call α)
    (rest : ∀ value state, ((next value).run.run state).1 = judged value)
    (before : CallState) :
    ((call >>= next).run.run before).1 = (call.run.run before).1.bind judged := by
  rw [ExceptT.run_bind, StateT.run_bind]
  generalize call.run.run before = ran
  obtain ⟨result, middle⟩ := ran
  cases result with
  | ok value => exact rest value middle
  | error error => rfl

/-! ## Calls that ask for nothing -/

end Call

/-! ## Exchanges that begin -/

/-- The events before an exchange do not matter to it. -/
theorem Call.result_exchange_logged
    (context : CallContext)
    (operation : String)
    (limit : ExchangeLimit)
    (url : Url)
    (request : Request)
    (before : CallState)
    (level : Level)
    (message : String) :
    ((exchange context operation limit url request).run.run (before.logged level message)).1
      = ((exchange context operation limit url request).run.run before).1 := by
  have delivered :
      ((before.logged level message).deliver url request).1 = (before.deliver url request).1 :=
    rfl
  simp only [exchange, ExceptT.run, StateT.run, delivered, CallState.clock_logged]
  split <;> rfl

/-! ## Remote calls -/

namespace RpcClient

variable {α : Type}

/-- The exchange of a remote call. -/
def callExchange (client : RpcClient) (context : CallContext) (method : String) (params : Json) :
    Call HttpReply :=
  Call.exchange context method client.limit client.endpoint (client.callRequest method params)

/-- What an answer to a remote call comes to. -/
def outcomeOf (method : String) (resultShape : Json.Shape) (readResult : Json → Option α)
    (answer : HttpReply) : Except TxError (RpcOutcome α) :=
  if answer.isSuccess then RpcOutcome.ofBody method resultShape readResult answer.body
  else .error (.api answer.status answer.body)

/-- A remote call is its exchange, with records before and behind, and the reading of the answer. -/
theorem run_callKnown
    (client : RpcClient)
    (context : CallContext)
    (method : String)
    (params : Json)
    (resultShape : Json.Shape)
    (readResult : Json → Option α)
    (before : CallState) :
    (client.callKnown context method params resultShape readResult).run.run before
      = (((client.callExchange context method params).run.run
            (before.logged .debug "JSON-RPC request")).1.bind
              (outcomeOf method resultShape readResult),
          ((client.callExchange context method params).run.run
            (before.logged .debug "JSON-RPC request")).2.measured (.exchanged method)) := by
  rw [callKnown, Call.run_emit_bind, Call.run_outcome_bind, Call.run_record_bind]
  change _ = ((((client.callExchange context method params).run.run _).1).bind _, _)
  rw [callExchange, callRequest]
  generalize (Call.exchange context method _ _ _).run.run _ = exchanged
  obtain ⟨reply, reached⟩ := exchanged
  cases reply with
  | error error => rfl
  | ok answer =>
      by_cases success : answer.isSuccess = true
      · change (if answer.isSuccess = true then _ else _ : Call (RpcOutcome α)).run.run _
          = (outcomeOf method resultShape readResult answer, _)
        rw [if_pos success, Call.run_ofExcept, outcomeOf, if_pos success]
      · change (if answer.isSuccess = true then _ else _ : Call (RpcOutcome α)).run.run _
          = (outcomeOf method resultShape readResult answer, _)
        rw [if_neg success, outcomeOf, if_neg success]
        rfl

end RpcClient

end ChainTx
