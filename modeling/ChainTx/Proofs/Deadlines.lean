import ChainTx.CommandLine.Outcome
import ChainTx.Proofs.Call.Deadlines
import ChainTx.Proofs.Checks

/-!
Contract: how long calls and commands take under a context.

Owns:
- the relation between a piece of work and the chains of operations that its time goes into, with
  one law for each way to make a call;
- clients of both kinds, builders of both families, and commands, with the number of operations that
  each of them runs at most;
- the condition under which the deadline bounds a chain of operations as a whole.

Does not own: the law of chains itself.

## Why the deadline does not bound a command

A command makes one context from its settings and runs everything under it, but the deadline of that
context begins anew with each operation. A command that asks a node for four things may take four
times the time that its settings give it. To connect to an EVM network even goes on when its only
query has used up the whole time, because what comes of that query is only reported.
-/

set_option autoImplicit false

namespace ChainTx

/-- Work under a context whose time goes into a chain of at most so many operations. -/
def RunsInTurn {ε α : Type} (context : CallContext) (count : Nat)
    (work : ExceptT ε (StateM CallState) α) : Prop :=
  ∀ before, ∃ (operations : List (Operation HttpReply)) (spans : List (Span HttpReply)),
    operations.length ≤ count
      ∧ context.runInTurn? before.clock operations = some spans
      ∧ (work.run.run before).2.clock = before.clock + Span.elapsed spans

section

variable {ε α β : Type} {context : CallContext} {first rest count : Nat}

/-! ## Sequences -/

/-- Work that leaves the clock alone runs no operation. -/
theorem runsInTurn_of_clock
    {work : ExceptT ε (StateM CallState) α}
    (still : ∀ before, (work.run.run before).2.clock = before.clock) :
    RunsInTurn context 0 work :=
  fun before => ⟨[], [], Nat.le_refl 0, rfl, still before⟩

private theorem runsInTurn_pure (value : α) :
    RunsInTurn context 0 (pure value : ExceptT ε (StateM CallState) α) :=
  runsInTurn_of_clock fun _ => rfl

private theorem runsInTurn_throw (error : ε) :
    RunsInTurn context 0 (throw error : ExceptT ε (StateM CallState) α) :=
  runsInTurn_of_clock fun _ => rfl

/-- Behind a failure nothing runs. -/
theorem runsInTurn_throw_bind
    (error : ε)
    (next : α → ExceptT ε (StateM CallState) β) :
    RunsInTurn context 0 (throw error >>= next) :=
  runsInTurn_of_clock fun _ => rfl

private theorem RunsInTurn.of_le
    {work : ExceptT ε (StateM CallState) α}
    (runs : RunsInTurn context first work)
    (le : first ≤ count) :
    RunsInTurn context count work := by
  intro before
  obtain ⟨operations, spans, few, ran, clock⟩ := runs before
  exact ⟨operations, spans, Nat.le_trans few le, ran, clock⟩

private theorem RunsInTurn.of_still
    {work : ExceptT ε (StateM CallState) α}
    (still : RunsInTurn context 0 work) :
    RunsInTurn context count work :=
  still.of_le (Nat.zero_le count)

private theorem RunsInTurn.bind
    {work : ExceptT ε (StateM CallState) α}
    {next : α → ExceptT ε (StateM CallState) β}
    (runs : RunsInTurn context first work)
    (runsNext : ∀ value, RunsInTurn context rest (next value)) :
    RunsInTurn context (first + rest) (work >>= next) := by
  intro before
  obtain ⟨operations, spans, few, ran, clock⟩ := runs before
  rw [ExceptT.run_bind, StateT.run_bind]
  generalize work.run.run before = reached at *
  obtain ⟨result, middle⟩ := reached
  simp only at clock
  cases result with
  | error error => exact ⟨operations, spans, Nat.le_add_right_of_le few, ran, clock⟩
  | ok value =>
      obtain ⟨nextOperations, nextSpans, nextFew, nextRan, nextClock⟩ := runsNext value middle
      rw [clock] at nextRan nextClock
      refine ⟨operations ++ nextOperations, spans ++ nextSpans, ?_, ?_, ?_⟩
      · rw [List.length_append]
        exact Nat.add_le_add few nextFew
      · exact CallContext.runInTurn?_append ran nextRan
      · rw [Span.elapsed_append, ← Nat.add_assoc]
        exact nextClock

/-- Behind work that runs no operation. -/
theorem RunsInTurn.bind_of_still
    {work : ExceptT ε (StateM CallState) α}
    {next : α → ExceptT ε (StateM CallState) β}
    (still : RunsInTurn context 0 work)
    (runsNext : ∀ value, RunsInTurn context count (next value)) :
    RunsInTurn context count (work >>= next) := by
  rw [← Nat.zero_add count]
  exact still.bind runsNext

/-- Before work that runs no operation. -/
theorem RunsInTurn.bind_still
    {work : ExceptT ε (StateM CallState) α}
    {next : α → ExceptT ε (StateM CallState) β}
    (runs : RunsInTurn context count work)
    (still : ∀ value, RunsInTurn context 0 (next value)) :
    RunsInTurn context count (work >>= next) :=
  runs.bind still

private theorem RunsInTurn.bind_pure
    {work : ExceptT ε (StateM CallState) α}
    (runs : RunsInTurn context count work)
    (result : α → β) :
    RunsInTurn context count (work >>= fun value => pure (result value)) :=
  runs.bind_still fun value => runsInTurn_pure (result value)

end

namespace Call

variable {α : Type} {context : CallContext} {count : Nat}

/-! ## Single steps -/

private theorem runsInTurn_ofExcept (result : Except TxError α) :
    RunsInTurn context 0 (ofExcept result) := by
  cases result with
  | ok value => exact runsInTurn_pure value
  | error error => exact runsInTurn_throw error

private theorem runsInTurn_emit
    (level : Level)
    (message : String) :
    RunsInTurn context 0 (emit level message) :=
  runsInTurn_of_clock fun _ => rfl

private theorem runsInTurn_record (measurement : Measurement) :
    RunsInTurn context 0 (record measurement) :=
  runsInTurn_of_clock fun _ => rfl

private theorem runsInTurn_outcome
    {call : Call α}
    (runs : RunsInTurn context count call) :
    RunsInTurn context count (outcome call) :=
  runs

private theorem runsInTurn_failAtOnce
    (operation : String)
    (error : TxError) :
    RunsInTurn context 0 (failAtOnce context operation error : Call α) :=
  runsInTurn_of_clock fun _ => rfl

/-- An exchange is one operation: its work is the exchange with the limit of the client. -/
theorem runsInTurn_exchange
    (operation : String)
    (limit : ExchangeLimit)
    (url : Url)
    (request : Request) :
    RunsInTurn context 1 (exchange context operation limit url request) := by
  intro before
  let work := Ending.within limit.duration (.error limit.late) (before.deliver url request).1
  let ending := context.run operation before.clock work
  refine ⟨[⟨operation, some work⟩], [⟨⟨operation, some work⟩, before.clock, ending⟩],
    Nat.le_refl 1, ?_, ?_⟩
  · exact CallContext.runInTurn?_cons_eq_some_iff.mpr
      ⟨ending, [], CallContext.run?_eq_some_run operation before.clock work, rfl, rfl⟩
  · show _ = before.clock + (ending.time + 0)
    simp only [exchange, ExceptT.run, StateT.run]
    split
    · rename_i atOnce
      rw [show ending.time = 0 from atOnce, Nat.add_zero]
    · rfl

end Call

/-! ## Clients -/

namespace RpcClient

variable {α : Type} {context : CallContext}

private theorem runsInTurn_get
    (client : RpcClient)
    (operation path : String) :
    RunsInTurn context 1 (client.get context operation path) := by
  apply RunsInTurn.bind_of_still (Call.runsInTurn_emit _ _)
  intro _
  apply RunsInTurn.bind_still
  · apply Call.runsInTurn_outcome
    split
    · apply Call.runsInTurn_exchange
    · exact (Call.runsInTurn_failAtOnce _ _).of_still
  · intro reply
    apply RunsInTurn.bind_of_still (Call.runsInTurn_record _)
    intro _
    apply Call.runsInTurn_ofExcept

private theorem runsInTurn_callKnown
    (client : RpcClient)
    (method : String)
    (params : Json)
    (resultShape : Json.Shape)
    (readResult : Json → Option α) :
    RunsInTurn context 1 (client.callKnown context method params resultShape readResult) := by
  apply RunsInTurn.bind_of_still (Call.runsInTurn_emit _ _)
  intro _
  apply RunsInTurn.bind_still (Call.runsInTurn_outcome (Call.runsInTurn_exchange _ _ _ _))
  intro reply
  apply RunsInTurn.bind_of_still (Call.runsInTurn_record _)
  intro _
  apply RunsInTurn.bind_of_still (Call.runsInTurn_ofExcept _)
  intro reply
  split
  · apply Call.runsInTurn_ofExcept
  · apply runsInTurn_throw

end RpcClient

namespace Evm.Client

variable {context : CallContext}

private theorem runsInTurn_nextNumber (client : Client) :
    RunsInTurn context 0 (client.nextNumber context) := by
  apply runsInTurn_of_clock
  intro before
  have found : (get : Call CallState).Returns before before before := rfl
  rw [nextNumber, Call.run_bind_of_returns found]
  simp only
  split <;> rfl

private theorem runsInTurn_query
    (client : Client)
    (method : String)
    (params : List Json)
    (width : Nat) :
    RunsInTurn context 1 (client.query context method params width) := by
  apply RunsInTurn.bind_of_still client.runsInTurn_nextNumber
  intro number
  apply RunsInTurn.bind_still (Call.runsInTurn_outcome (Call.runsInTurn_exchange _ _ _ _))
  intro reply
  apply RunsInTurn.bind_of_still (Call.runsInTurn_record _)
  intro _
  split
  · apply runsInTurn_pure
  · apply RunsInTurn.bind_of_still (Call.runsInTurn_emit _ _)
    intro _
    apply runsInTurn_throw

/-- To compare chain ids takes one query, also when it fails. -/
theorem runsInTurn_verifyChainId (client : Client) :
    RunsInTurn context 1 (client.verifyChainId context) := by
  apply RunsInTurn.bind_still
  · apply Call.runsInTurn_outcome
    exact (client.runsInTurn_query _ _ _).bind_pure _
  · intro reported
    split
    · split <;> apply Call.runsInTurn_emit
    · apply Call.runsInTurn_emit

private theorem runsInTurn_make
    (endpoint : String)
    (chainId : UInt64)
    (timeout : Duration) :
    RunsInTurn context 0 (make endpoint chainId timeout) := by
  apply runsInTurn_of_clock
  intro before
  unfold make
  cases Endpoint.require endpoint <;> rfl

end Evm.Client

/-! ## Builders -/

namespace Cosmos

variable {context : CallContext}

private theorem Builder.runsInTurn_connect (network : NetworkConfig) :
    RunsInTurn context 1 (connect network context) := by
  refine RunsInTurn.bind_still ?_ fun _ => Call.runsInTurn_ofExcept _
  unfold versionOf
  split
  · apply RunsInTurn.of_still
    apply RunsInTurn.bind_of_still (Call.runsInTurn_ofExcept _)
    intro app
    exact (Call.runsInTurn_emit _ _).bind_pure _
  · apply RunsInTurn.bind_of_still (Call.runsInTurn_ofExcept _)
    intro rpc
    apply RunsInTurn.bind_still (rpc.runsInTurn_get _ _)
    intro reply
    apply RunsInTurn.bind_of_still (Call.runsInTurn_ofExcept _)
    intro app
    exact (Call.runsInTurn_emit _ _).bind_pure _

private theorem Builder.runsInTurn_build
    (builder : Builder)
    (request : BuildRequest) :
    RunsInTurn context 1 (builder.build context request) := by
  apply RunsInTurn.bind_of_still (Call.runsInTurn_ofExcept _)
  rintro ⟨message, fee⟩
  apply RunsInTurn.bind_still
  · apply RunsInTurn.bind_still (builder.rest.runsInTurn_get _ _)
    intro reply
    apply RunsInTurn.bind_of_still (Call.runsInTurn_ofExcept _)
    intro account
    exact (Call.runsInTurn_emit _ _).bind_pure _
  · intro account
    have rest : RunsInTurn context 0 (do
        Call.record (.built .cosmos request.txType)
        Call.emit .debug "Built unsigned Cosmos transaction"
        pure (builder.assemble request message fee account) : Call UnsignedTx) := by
      apply RunsInTurn.bind_of_still (Call.runsInTurn_record _)
      intro _
      exact (Call.runsInTurn_emit _ _).bind_pure _
    split
    · exact RunsInTurn.bind_of_still (Call.runsInTurn_emit _ _) fun _ => rest
    · exact rest

private theorem Builder.runsInTurn_sign
    (builder : Builder)
    (unsigned : UnsignedTx)
    (key : SigningKey) :
    RunsInTurn context 0 (builder.sign unsigned key) := by
  apply RunsInTurn.bind_of_still (Call.runsInTurn_ofExcept _)
  intro signed
  exact (Call.runsInTurn_emit _ _).bind_pure _

private theorem Broadcast.runsInTurn_broadcast
    (rpc : RpcClient)
    (signed : SignedTx) :
    RunsInTurn context 1 (broadcast rpc context signed) := by
  unfold broadcast
  split
  · exact (runsInTurn_throw_bind _ _).of_still
  · apply RunsInTurn.bind_still (rpc.runsInTurn_callKnown _ _ _ _)
    intro outcome
    split
    · split
      · exact (Call.runsInTurn_emit _ _).bind_pure _
      · exact (Call.runsInTurn_emit _ _).bind_pure _
    · exact (Call.runsInTurn_emit _ _).bind_still fun _ => runsInTurn_throw _

private theorem Builder.runsInTurn_broadcast
    (builder : Builder)
    (signed : SignedTx) :
    RunsInTurn context 1 (builder.broadcast context signed) := by
  apply RunsInTurn.bind_still (Broadcast.runsInTurn_broadcast _ _)
  intro result
  exact (Call.runsInTurn_record _).bind_pure _

end Cosmos

namespace Evm

variable {context : CallContext}

private theorem Builder.runsInTurn_connect (network : NetworkConfig) :
    RunsInTurn context 1 (connect network context) := by
  apply RunsInTurn.bind_of_still (Call.runsInTurn_ofExcept _)
  intro chainId
  apply RunsInTurn.bind_of_still (Client.runsInTurn_make _ _ _)
  intro client
  apply RunsInTurn.bind_of_still (Call.runsInTurn_ofExcept _)
  intro rpc
  exact client.runsInTurn_verifyChainId.bind_pure _

private theorem Builder.runsInTurn_resolveGasPrice
    (builder : Builder)
    (requested : Option String) :
    RunsInTurn context 1 (builder.resolveGasPrice context requested) := by
  unfold resolveGasPrice
  split
  · exact (Call.runsInTurn_ofExcept _).of_still
  · split
    · exact (Client.runsInTurn_query _ _ _ _).bind_pure _
    · apply RunsInTurn.of_still
      exact (Call.runsInTurn_emit _ _).bind_pure _

private theorem Builder.runsInTurn_resolveNonce
    (builder : Builder)
    (sender : Address) :
    RunsInTurn context 1 (builder.resolveNonce context sender) := by
  unfold resolveNonce
  split
  · exact (Client.runsInTurn_query _ _ _ _).bind_pure _
  · apply RunsInTurn.of_still
    exact (Call.runsInTurn_emit _ _).bind_pure _

/-- The price of gas and the nonce are asked for one after the other. -/
theorem Builder.runsInTurn_build
    (builder : Builder)
    (request : BuildRequest) :
    RunsInTurn context 2 (builder.build context request) := by
  apply RunsInTurn.bind_of_still (Call.runsInTurn_ofExcept _)
  rintro ⟨sender, transfer⟩
  show RunsInTurn context (1 + 1) _
  apply RunsInTurn.bind (builder.runsInTurn_resolveGasPrice _)
  intro gasPrice
  apply RunsInTurn.bind_still (builder.runsInTurn_resolveNonce _)
  intro nonce
  apply RunsInTurn.bind_of_still (Call.runsInTurn_record _)
  intro _
  exact (Call.runsInTurn_emit _ _).bind_pure _

private theorem Builder.runsInTurn_sign
    (builder : Builder)
    (unsigned : UnsignedTx)
    (key : SigningKey) :
    RunsInTurn context 0 (builder.sign unsigned key) := by
  apply RunsInTurn.bind_of_still (Call.runsInTurn_ofExcept _)
  intro signed
  exact (Call.runsInTurn_emit _ _).bind_pure _

private theorem Broadcast.runsInTurn_broadcast
    (rpc : RpcClient)
    (signed : SignedTx) :
    RunsInTurn context 1 (broadcast rpc context signed) := by
  unfold broadcast
  split
  · exact (runsInTurn_throw_bind _ _).of_still
  · apply RunsInTurn.bind_still (rpc.runsInTurn_callKnown _ _ _ _)
    intro outcome
    split <;> exact (Call.runsInTurn_emit _ _).bind_pure _

private theorem Builder.runsInTurn_broadcast
    (builder : Builder)
    (signed : SignedTx) :
    RunsInTurn context 1 (builder.broadcast context signed) := by
  unfold broadcast
  split
  · exact (runsInTurn_throw _).of_still
  · apply RunsInTurn.bind_still (Broadcast.runsInTurn_broadcast _ _)
    intro result
    exact (Call.runsInTurn_record _).bind_pure _

end Evm

namespace Builder

variable {context : CallContext}

/-! ### Either family -/

private theorem runsInTurn_connect (network : NetworkConfig) :
    RunsInTurn context 1 (connect network context) := by
  have rest : RunsInTurn context 1 (do
      let builder ← ofFamily network context
      Call.emit .info "Transaction builder ready"
      pure builder : Call Builder) := by
    apply RunsInTurn.bind_still
    · unfold ofFamily
      split
      · exact (Cosmos.Builder.runsInTurn_connect _).bind_pure _
      · exact (Evm.Builder.runsInTurn_connect _).bind_pure _
    · intro builder
      exact (Call.runsInTurn_emit _ _).bind_pure _
  unfold connect
  split
  · exact (runsInTurn_throw_bind _ _).of_still
  · exact rest

private theorem runsInTurn_build
    (builder : Builder)
    (request : BuildRequest) :
    RunsInTurn context 2 (builder.build context request) := by
  cases builder with
  | cosmos builder => exact (builder.runsInTurn_build request).of_le (Nat.le_succ 1)
  | evm builder => exact builder.runsInTurn_build request

private theorem runsInTurn_sign
    (builder : Builder)
    (unsigned : UnsignedTx)
    (key : SigningKey) :
    RunsInTurn context 0 (builder.sign unsigned key) := by
  cases builder with
  | cosmos builder => exact builder.runsInTurn_sign unsigned key
  | evm builder => exact builder.runsInTurn_sign unsigned key

private theorem runsInTurn_broadcast
    (builder : Builder)
    (signed : SignedTx) :
    RunsInTurn context 1 (builder.broadcast context signed) := by
  cases builder with
  | cosmos builder => exact builder.runsInTurn_broadcast signed
  | evm builder => exact builder.runsInTurn_broadcast signed

end Builder

/-! ## Commands -/

namespace Job

variable {α : Type} {context : CallContext} {count : Nat}

private theorem runsInTurn_call
    {work : Call α}
    (runs : RunsInTurn context count work) :
    RunsInTurn context count (call work) := by
  intro before
  have clock : ((call work).run.run before).2.clock = (work.run.run before).2.clock := by
    simp only [call, ExceptT.run, StateT.run]
    rcases work before with ⟨_ | _, _⟩ <;> rfl
  rw [clock]
  exact runs before

private theorem runsInTurn_check (result : Except TxError α) :
    RunsInTurn context 0 (check result) :=
  runsInTurn_call (Call.runsInTurn_ofExcept result)

private theorem runsInTurn_signingKey
    (environment : Environment)
    (sender : String) :
    RunsInTurn context 0 (signingKey environment sender) := by
  unfold signingKey
  split
  · exact (runsInTurn_check _).bind_pure _
  · exact runsInTurn_pure _

private theorem runsInTurn_request
    (framework : Framework)
    (arguments : TxArguments)
    (key : Option SigningKey) :
    RunsInTurn context 0 (request framework arguments key) := by
  apply RunsInTurn.bind_of_still (runsInTurn_check _)
  intro type
  split
  · exact runsInTurn_throw _
  · exact (runsInTurn_check _).bind_pure _

private theorem runsInTurn_build
    (environment : Environment)
    (builder : Builder)
    (arguments : TxArguments) :
    RunsInTurn context 2 (build environment context builder arguments) := by
  apply RunsInTurn.bind_of_still (runsInTurn_signingKey _ _)
  intro key
  apply RunsInTurn.bind_of_still (runsInTurn_request _ _ _)
  intro request
  apply RunsInTurn.bind_still (runsInTurn_call (builder.runsInTurn_build request))
  intro unsigned
  split
  · exact (runsInTurn_call (builder.runsInTurn_sign _ _)).bind_pure _
  · exact runsInTurn_pure _

private theorem runsInTurn_send
    (environment : Environment)
    (builder : Builder)
    (arguments : TxArguments) :
    RunsInTurn context 3 (send environment context builder arguments) := by
  apply RunsInTurn.bind_of_still (runsInTurn_signingKey _ _)
  intro key
  split
  · exact (runsInTurn_throw _).of_still
  · apply RunsInTurn.bind_of_still (runsInTurn_request _ _ _)
    intro request
    show RunsInTurn context (2 + 1) _
    apply RunsInTurn.bind (runsInTurn_call (builder.runsInTurn_build request))
    intro unsigned
    apply RunsInTurn.bind_of_still (runsInTurn_call (builder.runsInTurn_sign _ _))
    intro signed
    exact runsInTurn_call (builder.runsInTurn_broadcast signed)

/-- A command runs everything under the one context of its settings. To connect takes one operation
at most, to build two, and to hand over one. -/
theorem runsInTurn_perform
    {environment : Environment}
    {path : String}
    {config : Config}
    (loaded : Config.load (environment.readFile path) = .ok config)
    (command : Command) :
    RunsInTurn (.withTimeout config.callTimeout) 4 (perform environment path command) := by
  have configured : settings environment path = pure config := by
    rw [settings, loaded]
  unfold perform
  rw [configured, pure_bind]
  show RunsInTurn _ (1 + 3) _
  apply RunsInTurn.bind (runsInTurn_call (Builder.runsInTurn_connect _))
  intro builder
  split
  · exact (runsInTurn_pure _).of_still
  · apply RunsInTurn.of_le _ (Nat.le_succ 2)
    exact (runsInTurn_build _ _ _).bind_pure _
  · exact (runsInTurn_send _ _ _).bind_pure _

end Job

/-! ## What the deadline bounds -/

namespace CallContext

/-- Each operation may use up the deadline once. -/
theorem clock_le_of_runsInTurn
    {ε α : Type}
    {context : CallContext}
    {limit : Duration}
    {count : Nat}
    {work : ExceptT ε (StateM CallState) α}
    (bounded : context.timeout = some limit)
    (runs : RunsInTurn context count work)
    (before : CallState) :
    (work.run.run before).2.clock ≤ before.clock + count * limit.timerNanoseconds := by
  obtain ⟨operations, spans, few, ran, clock⟩ := runs before
  obtain ⟨_, ranAgain, -, time⟩ := exists_runInTurn? bounded before.clock operations
  cases ran.symm.trans ranAgain
  rw [clock, time]
  apply Nat.add_le_add_left
  calc context.capAt before.clock (Operation.totalWithin limit.timerNanoseconds operations)
      ≤ Operation.totalWithin limit.timerNanoseconds operations :=
        (capAt_le_iff _ _ _).mpr (.inl (Nat.le_refl _))
    _ ≤ operations.length * limit.timerNanoseconds :=
        Operation.totalWithin_le _ operations
    _ ≤ count * limit.timerNanoseconds := Nat.mul_le_mul_right _ few

/-- Under a context with a deadline every chain of operations ends, and its time is the sum of what
its operations take, each cut off by the deadline alone, until the context is cancelled. Exactly
when that sum fits the deadline, or the context is cancelled before the deadline has passed, the
deadline bounds the chain as a whole. A command, which runs everything under the one context of its
settings, takes up to four times the deadline. -/
theorem deadlineBounds_iff
    {α : Type}
    (context : CallContext)
    (limit : Duration)
    (bounded : context.timeout = some limit) :
    (∀ (start : Nat) (operations : List (Operation α)), ∃ spans,
      context.runInTurn? start operations = some spans
        ∧ spans.map Span.operation = operations
        ∧ Span.elapsed spans
          = context.capAt start (Operation.totalWithin limit.timerNanoseconds operations)
        ∧ (context.DeadlineBounds limit start spans
          ↔ Operation.totalWithin limit.timerNanoseconds operations ≤ limit.timerNanoseconds
            ∨ context.isCancelledAt (start + limit.timerNanoseconds) = true))
      ∧ ∀ (environment : Environment) (path : String) (config : Config) (command : Command)
          (before : CallState),
        Config.load (environment.readFile path) = .ok config →
        ((Job.perform environment path command).run.run before).2.clock
          ≤ before.clock + 4 * config.callTimeout.timerNanoseconds := by
  refine ⟨?_, ?_⟩
  · intro start operations
    obtain ⟨spans, ran, same, time⟩ := exists_runInTurn? bounded start operations
    refine ⟨spans, ran, same, time, ?_⟩
    rw [deadlineBounds_iff_elapsed_le bounded ran, time]
    exact capAt_le_iff start _ _
  · intro environment path config command before loaded
    exact clock_le_of_runsInTurn rfl (Job.runsInTurn_perform loaded command) before

/-! ### A second for everything -/

/-- Settings that give a command one second. -/
def hurriedConfig : Config where
  network :=
    { framework := .evm
      rpcEndpoint := "http://n"
      chainId := "1" }
  callSeconds := 1

/-- An environment whose only file holds these settings. -/
def hurriedEnvironment : Environment where
  configVariable := none
  keyVariable := none
  readFile _ := some (Bytes.ofText
    ("[network]\nframework = \"evm\"\nrpc_endpoint = \"http://n\"\nchain_id = \"1\"\n"
      ++ "[timeouts]\ncall_secs = 1"))

private theorem load_hurriedEnvironment :
    Config.load (hurriedEnvironment.readFile "") = .ok hurriedConfig := by
  have read : (Config.load (hurriedEnvironment.readFile "")).toOption = some hurriedConfig := by
    decide +kernel
  exact eq_ok_of_toOption read

def hurried : CallContext :=
  .withTimeout hurriedConfig.callTimeout

/-- An operation whose work is there after so many milliseconds. -/
def lasting (name : String) (milliseconds : Nat) : Operation Unit :=
  ⟨name, some ⟨milliseconds * 1000000, .ok ()⟩⟩

def quickChain : List (Operation Unit) :=
  [lasting "eth_chainId" 300, lasting "eth_gasPrice" 300, lasting "eth_sendRawTransaction" 300]

/-- Three operations that use nine tenths of the second are bounded by it. -/
theorem bounded_of_quickChain :
    hurried.timeout = some hurriedConfig.callTimeout
      ∧ (∃ spans,
        hurried.runInTurn? 0 quickChain = some spans
          ∧ Span.elapsed spans = 900000000
          ∧ hurried.DeadlineBounds hurriedConfig.callTimeout 0 spans)
      ∧ Config.load (hurriedEnvironment.readFile "") = .ok hurriedConfig
      ∧ ((Job.perform hurriedEnvironment "" .types).run.run (.initial none)).2.clock
        ≤ 4000000000 := by
  obtain ⟨chains, commands⟩ := @deadlineBounds_iff Unit hurried hurriedConfig.callTimeout rfl
  obtain ⟨spans, ran, -, time, boundedIff⟩ := chains 0 quickChain
  refine ⟨rfl, ⟨spans, ran, ?_, ?_⟩, load_hurriedEnvironment, ?_⟩
  · rw [time]
    decide
  · rw [boundedIff]
    exact .inl (by decide)
  · exact commands hurriedEnvironment "" hurriedConfig .types _ load_hurriedEnvironment

/-! ### A node that keeps silent once -/

/-- Work that never ends, and behind it work that is there after a nanosecond. -/
def stalledChain : List (Operation Unit) :=
  [⟨"eth_chainId", none⟩, ⟨"eth_getTransactionCount", some ⟨1, .ok ()⟩⟩]

/-- A node that never answers the query for its chain id, but the one for a nonce. -/
def silentOnce : Node where
  host := .name ['n']
  port := none
  replies :=
    [("eth_chainId", [⟨0, .hang⟩]),
      ("eth_getTransactionCount", [⟨0, .envelope [("result", .string "0x0")]⟩])]

/-- A transfer whose price need not be asked for. -/
def pricedTransfer : TxArguments where
  txType := "native_transfer"
  sender := "0x00000000000000000000000000000000000000aa"
  payload :=
    "\x7b\"toAddress\":\"0x00000000000000000000000000000000000000bb\",\"amount\":\"5\"\x7d"
  gasLimit := 0
  gasPrice := some "1"
  memo := ""

/-- The silence uses up the whole second. What is unfinished then does not end as timed out: the
next operation starts with a second of its own, and a command that meets this node succeeds late. -/
theorem overrun_of_silentOnce :
    (∃ spans,
      hurried.runInTurn? 0 stalledChain = some spans
        ∧ hurriedConfig.callTimeout.timerNanoseconds < Span.elapsed spans
        ∧ (∃ span ∈ spans,
          span.UnfinishedAt hurried hurriedConfig.callTimeout.timerNanoseconds
            ∧ span.ending.result = .ok ())
        ∧ ¬ hurried.DeadlineBounds hurriedConfig.callTimeout 0 spans)
      ∧ ((Job.perform hurriedEnvironment "" (.build pricedTransfer)).run.run
          (.initial (some silentOnce))).1.isOk = true
      ∧ hurriedConfig.callTimeout.timerNanoseconds
        < ((Job.perform hurriedEnvironment "" (.build pricedTransfer)).run.run
          (.initial (some silentOnce))).2.clock := by
  refine ⟨⟨_, rfl, by decide, ?_, ?_⟩, ?_⟩
  · refine ⟨_, List.mem_cons_of_mem _ List.mem_cons_self, ⟨rfl, ?_⟩, rfl⟩
    rintro own ⟨⟩
    decide
  · intro bounds
    exact absurd bounds.elapsed_le (by decide)
  · decide +kernel

end CallContext

end ChainTx
