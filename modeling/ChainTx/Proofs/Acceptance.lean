import ChainTx.CommandLine.Outcome
import ChainTx.Proofs.Call.RpcClient
import ChainTx.Proofs.Checks
import ChainTx.Proofs.Json.Shape

/-!
Contract: what counts as the acceptance of a transaction.

Owns:
- answers that carry an error, and what remote calls make of them;
- which broadcasts are accepted when the node's answer carries an error;
- the count of accepted broadcasts and the exit code of sending, both of which follow the result.

Does not own: what a node means by the code of an error.
-/

set_option autoImplicit false

namespace ChainTx

/-! ## Answers that carry an error -/

/-- A value carries an error: an object has a member `error` that is not null, or an array such an
element in second place. -/
def Json.carriesError : Json → Prop
  | .object members => ∃ failure, ("error", failure) ∈ members ∧ failure ≠ .null
  | .array (_ :: failure :: _) => failure ≠ .null
  | _ => False

/-- A text carries an error if it has one in the place of the value's. -/
def Json.Source.carriesError : Json.Source → Prop
  | .object members => ∃ failure, (some "error", failure) ∈ members ∧ failure ≠ .null
  | .array (_ :: failure :: _) => failure ≠ .null
  | _ => False

/-- The body of an answer is a text that carries an error, whatever else it holds. -/
def CarriesError (body : String) : Prop :=
  ∃ source, Json.Source.read? body = some source ∧ source.carriesError

/-- The code of the error that a body carries, if the whole body can be read with a text as its
result. -/
def errorCode? (body : String) : Option Int64 :=
  match RpcOutcome.read? .whole Json.string? body with
  | some (_, some failure) => some failure.code
  | _ => none

namespace Json

/-- A value carries an error if the second member of its record is not null. -/
theorem carriesError_iff_of_record?
    {json : Json}
    {value failure : Option Json}
    (read : record? ["result", "error"] 1 json = some [value, failure]) :
    json.carriesError ↔ ∃ found, failure = some found ∧ found ≠ .null := by
  cases json with
  | object members =>
      simp only [record?, List.mapM_cons, List.mapM_nil, Option.bind_eq_bind,
        Option.bind_eq_some_iff, Option.pure_def, Option.some.injEq, List.cons.injEq] at read
      obtain ⟨_, _, _, ⟨_, foundRead, _, rfl, rfl⟩, _, rfl, _⟩ := read
      simp only [carriesError, mem_iff_of_single? foundRead]
  | array elements =>
      simp only [record?, positional?] at read
      split at read
      · rename_i bounds
        cases elements with
        | nil => exact absurd bounds.1 (by decide)
        | cons first rest =>
            cases rest with
            | nil =>
                cases read
                simp [carriesError]
            | cons second others =>
                have alone : others = [] := List.length_eq_zero_iff.mp (by simpa using bounds.2)
                subst alone
                cases read
                simp [carriesError]
      · cases read
  | _ => cases read

end Json

namespace RpcOutcome

variable {α : Type} {resultShape : Json.Shape} {readResult : Json → Option α} {body : String}

/-- A text carries an error if the value does that is read of it. -/
theorem carriesError_iff_of_value?
    {source : Json.Source}
    {json : Json}
    {levels : Nat}
    (valued : source.value? (shape resultShape) levels = some json) :
    source.carriesError ↔ json.carriesError := by
  cases source with
  | object members =>
      cases levels with
      | zero => cases valued
      | succ levels =>
          obtain ⟨values, allValued, rfl⟩ := Option.map_eq_some_iff.mp valued
          have looked : (shape resultShape).member "error" ≠ .any := by
            intro notLooked
            cases notLooked
          exact (Json.exists_member_of_memberValues? looked allValued).symm
  | array elements =>
      cases levels with
      | zero => cases valued
      | succ levels =>
          obtain ⟨values, allValued, rfl⟩ := Option.map_eq_some_iff.mp valued
          cases elements with
          | nil =>
              cases allValued
              rfl
          | cons first rest =>
              cases rest with
              | nil =>
                  simp only [Json.elementValues?, Option.bind_eq_bind, Option.bind_eq_some_iff,
                    Option.some.injEq] at allValued
                  obtain ⟨_, _, _, rfl, rfl⟩ := allValued
                  rfl
              | cons failure others =>
                  simp only [Json.elementValues?, Option.bind_eq_bind, Option.bind_eq_some_iff,
                    Option.some.injEq] at allValued
                  obtain ⟨_, _, _, ⟨found, failureValued, _, _, rfl⟩, rfl⟩ := allValued
                  have looked : (shape resultShape).element 1 ≠ .any := by
                    intro notLooked
                    cases notLooked
                  exact not_congr (Json.Source.eq_null_iff_of_value? looked failureValued).symm
  | null | bool | integer =>
      cases valued
      rfl
  | float | text =>
      obtain ⟨_, _, rfl⟩ := Option.map_eq_some_iff.mp valued
      rfl

/-- A body that can be read carries an error exactly if an error is read from it. -/
theorem carriesError_iff_of_read?
    {value : Option α}
    {failure : Option RpcError}
    (read : read? resultShape readResult body = some (value, failure)) :
    CarriesError body ↔ ∃ error, failure = some error := by
  unfold read? Json.readKnown? at read
  simp only [Option.bind_eq_bind, Option.bind_eq_some_iff] at read
  obtain ⟨json, ⟨source, sourceRead, valued⟩, record, recordRead, read⟩ := read
  have carries : CarriesError body ↔ json.carriesError := by
    simp only [CarriesError, sourceRead, Option.some.injEq, exists_eq_left',
      carriesError_iff_of_value? valued]
  split at read
  · rename_i first second
    simp only [Option.bind_eq_some_iff, Option.some.injEq, Prod.mk.injEq] at read
    obtain ⟨_, _, found, foundRead, rfl, rfl⟩ := read
    rw [carries, Json.carriesError_iff_of_record? recordRead]
    -- A member is read as no error if it is missing and if it is null.
    unfold Json.optional? at foundRead
    split at foundRead
    · cases foundRead
      simp
    · cases foundRead
      simp
    · rename_i other notNull
      obtain ⟨error, _, rfl⟩ := Option.map_eq_some_iff.mp foundRead
      simpa using notNull
  · cases read

/-- An error wins over a result: a body that carries one has no other outcome. -/
theorem ofBody_of_carriesError
    {method : String}
    {outcome : RpcOutcome α}
    (carries : CarriesError body)
    (read : ofBody method resultShape readResult body = .ok outcome) :
    ∃ error value,
      outcome = .error error
        ∧ read? resultShape readResult body = some (value, some error) := by
  unfold ofBody at read
  split at read
  · cases read
  · rename_i value error found
    cases read
    exact ⟨error, value, rfl, found⟩
  · rename_i value found
    obtain ⟨_, impossible⟩ := (carriesError_iff_of_read? found).mp carries
    cases impossible
  · cases read

end RpcOutcome

/-- A body whose error has a code carries an error. -/
theorem carriesError_of_errorCode?
    {body : String}
    {code : Int64}
    (read : errorCode? body = some code) :
    CarriesError body := by
  unfold errorCode? at read
  split at read
  · rename_i value failure found
    exact (RpcOutcome.carriesError_iff_of_read? found).mpr ⟨failure, rfl⟩
  · cases read

/-! ## Broadcasts -/

/-- A broadcast came to a result that counts as acceptance. -/
def accepted : Except TxError BroadcastResult → Bool
  | .ok result => result.isAccepted
  | .error _ => false

namespace Builder

/-- Where a builder hands a transaction over, and by which request; nowhere without a node. -/
def delivery? (builder : Builder) (signed : SignedTx) : Option (Url × Request) :=
  match builder with
  | .cosmos builder =>
      some (builder.rpc.endpoint, builder.rpc.callRequest Cosmos.Broadcast.method
        (Cosmos.Broadcast.params signed.txBytes))
  | .evm builder =>
      builder.node.map fun link =>
        (link.rpc.endpoint, link.rpc.callRequest Evm.Broadcast.method
          (Evm.Broadcast.params signed.txBytes))

end Builder

/-- A remote call whose answer carries an error returns that error. -/
theorem RpcClient.error_of_returns_callKnown
    {α : Type}
    {client : RpcClient}
    {context : CallContext}
    {method : String}
    {params : Json}
    {resultShape : Json.Shape}
    {readResult : Json → Option α}
    {before after : CallState}
    {wire : Wire}
    {outcome : RpcOutcome α}
    {answer : HttpReply}
    (served : Wire.Served client.endpoint (client.callRequest method params) before.wire answer wire)
    (carries : CarriesError answer.body)
    (returned : (client.callKnown context method params resultShape readResult).Returns before outcome
      after) :
    ∃ error value,
      outcome = .error error
        ∧ RpcOutcome.read? resultShape readResult answer.body = some (value, some error) := by
  obtain ⟨returnedAnswer, returnedServed, _, outcomeRead⟩ :=
    RpcClient.served_of_returns_callKnown returned
  rw [← served.unique returnedServed] at outcomeRead
  exact RpcOutcome.ofBody_of_carriesError carries outcomeRead

/-- The Cosmos family returns nothing when the answer carries an error. -/
theorem Cosmos.Broadcast.not_returns_of_carriesError
    {rpc : RpcClient}
    {context : CallContext}
    {signed : SignedTx}
    {before after : CallState}
    {wire : Wire}
    {result : BroadcastResult}
    {answer : HttpReply}
    (served : Wire.Served rpc.endpoint (rpc.callRequest method (params signed.txBytes)) before.wire
      answer wire)
    (carries : CarriesError answer.body) :
    ¬ (broadcast rpc context signed).Returns before result after := by
  intro returned
  unfold broadcast at returned
  split at returned
  · simp only [Call.returns_bind_iff, Call.not_returns_throw, false_and, exists_false] at returned
  · rw [Call.returns_bind_iff] at returned
    obtain ⟨outcome, middle, called, continued⟩ := returned
    obtain ⟨error, _, rfl, _⟩ := RpcClient.error_of_returns_callKnown served carries called
    simp only [Call.returns_bind_iff, Call.not_returns_throw, and_false, exists_false] at continued

/-- The EVM family makes a result of the error, with the hash of the bytes that were sent. -/
theorem Evm.Broadcast.refused_of_carriesError
    {rpc : RpcClient}
    {context : CallContext}
    {signed : SignedTx}
    {before after : CallState}
    {wire : Wire}
    {result : BroadcastResult}
    {answer : HttpReply}
    (served : Wire.Served rpc.endpoint (rpc.callRequest method (params signed.txBytes)) before.wire
      answer wire)
    (carries : CarriesError answer.body)
    (returned : (broadcast rpc context signed).Returns before result after) :
    ∃ error value,
      RpcOutcome.read? .whole Json.string? answer.body = some (value, some error)
        ∧ result = ⟨txHash signed.txBytes, error.code, error.message⟩ := by
  unfold broadcast at returned
  split at returned
  · simp only [Call.returns_bind_iff, Call.not_returns_throw, false_and, exists_false] at returned
  · rw [Call.returns_bind_iff] at returned
    obtain ⟨outcome, middle, called, continued⟩ := returned
    obtain ⟨error, value, rfl, bodyRead⟩ := RpcClient.error_of_returns_callKnown served carries called
    simp only [Call.returns_bind_iff, Call.returns_emit_iff, Call.returns_pure_iff] at continued
    obtain ⟨_, _, _, rfl, _⟩ := continued
    exact ⟨error, value, bodyRead, rfl⟩

/-- The code of the error becomes the code of the result. -/
theorem Evm.Broadcast.code_of_carriesError
    {rpc : RpcClient}
    {context : CallContext}
    {signed : SignedTx}
    {before after : CallState}
    {wire : Wire}
    {result : BroadcastResult}
    {answer : HttpReply}
    (served : Wire.Served rpc.endpoint (rpc.callRequest method (params signed.txBytes)) before.wire
      answer wire)
    (carries : CarriesError answer.body)
    (returned : (broadcast rpc context signed).Returns before result after) :
    errorCode? answer.body = some result.code := by
  obtain ⟨error, value, bodyRead, rfl⟩ := refused_of_carriesError served carries returned
  rw [errorCode?, bodyRead]

/-- A broadcast of the Cosmos family returns what the node was told about. -/
theorem Cosmos.Builder.returns_broadcast
    {builder : Cosmos.Builder}
    {context : CallContext}
    {signed : SignedTx}
    {before after : CallState}
    {result : BroadcastResult}
    (returned : (builder.broadcast context signed).Returns before result after) :
    ∃ middle, (Broadcast.broadcast builder.rpc context signed).Returns before result middle := by
  simp only [broadcast, Call.returns_bind_iff, Call.returns_pure_iff] at returned
  obtain ⟨found, middle, broadcasted, _, _, _, rfl, _⟩ := returned
  exact ⟨middle, broadcasted⟩

/-- A broadcast of the EVM family returns what the node was told about. -/
theorem Evm.Builder.returns_broadcast
    {builder : Evm.Builder}
    {context : CallContext}
    {signed : SignedTx}
    {before after : CallState}
    {result : BroadcastResult}
    (returned : (builder.broadcast context signed).Returns before result after) :
    ∃ link middle,
      builder.node = some link
        ∧ (Broadcast.broadcast link.rpc context signed).Returns before result middle := by
  unfold broadcast at returned
  split at returned
  · exact absurd returned Call.not_returns_throw
  · rename_i link present
    simp only [Call.returns_bind_iff, Call.returns_pure_iff] at returned
    obtain ⟨found, middle, broadcasted, _, _, _, rfl, _⟩ := returned
    exact ⟨link, middle, present, broadcasted⟩

/-- When the node's answer carries an error, a result that counts as acceptance comes from an EVM
builder and an error of code zero, and from nothing else. -/
theorem Builder.accepted_iff_of_carriesError
    {builder : Builder}
    {context : CallContext}
    {signed : SignedTx}
    {before after : CallState}
    {result : Except TxError BroadcastResult}
    {url : Url}
    {request : Request}
    {answer : HttpReply}
    {wire : Wire}
    (ran : (builder.broadcast context signed).run.run before = (result, after))
    (delivered : builder.delivery? signed = some (url, request))
    (served : Wire.Served url request before.wire answer wire)
    (carries : CarriesError answer.body) :
    accepted result = true
      ↔ builder.framework = .evm ∧ errorCode? answer.body = some 0
        ∧ ∃ value, result = .ok value := by
  cases result with
  | error error => simp [accepted]
  | ok value =>
      cases builder with
      | cosmos builder =>
          cases delivered
          obtain ⟨middle, broadcasted⟩ := Cosmos.Builder.returns_broadcast ran
          exact absurd broadcasted (Cosmos.Broadcast.not_returns_of_carriesError served carries)
      | evm builder =>
          obtain ⟨link, middle, present, broadcasted⟩ := Evm.Builder.returns_broadcast ran
          simp only [delivery?, present, Option.map_some, Option.some.injEq, Prod.mk.injEq]
            at delivered
          obtain ⟨rfl, rfl⟩ := delivered
          have code := Evm.Broadcast.code_of_carriesError served carries broadcasted
          simp [accepted, BroadcastResult.isAccepted, framework, code]

/-! ## Counting broadcasts -/

/-- A call that counts no broadcast, whatever becomes of it. -/
def Call.CountsNone {α : Type} (call : Call α) : Prop :=
  ∀ before framework outcome,
    (call.run.run before).2.measurements.count (.broadcast framework outcome)
      = before.measurements.count (.broadcast framework outcome)

namespace Call

variable {α β : Type}

private theorem countsNone_pure (value : α) :
    CountsNone (pure value) :=
  fun _ _ _ => rfl

private theorem countsNone_throw (error : TxError) :
    CountsNone (throw error : Call α) :=
  fun _ _ _ => rfl

private theorem countsNone_ofExcept (result : Except TxError α) :
    CountsNone (ofExcept result) := by
  cases result with
  | ok value => exact countsNone_pure value
  | error error => exact countsNone_throw error

private theorem countsNone_emit
    (level : Level)
    (message : String) :
    CountsNone (emit level message) :=
  fun _ _ _ => rfl

private theorem countsNone_record_exchanged (operation : String) :
    CountsNone (record (.exchanged operation)) := by
  intro before framework outcome
  change (before.measurements ++ [Measurement.exchanged operation]).count _ = _
  simp

private theorem countsNone_outcome
    {call : Call α}
    (counts : call.CountsNone) :
    CountsNone (outcome call) :=
  counts

private theorem countsNone_bind
    {call : Call α}
    {next : α → Call β}
    (first : call.CountsNone)
    (rest : ∀ value, (next value).CountsNone) :
    CountsNone (call >>= next) := by
  intro before framework outcome
  have firstCount := first before framework outcome
  rw [ExceptT.run_bind, StateT.run_bind]
  generalize call.run.run before = ran at *
  obtain ⟨result, middle⟩ := ran
  cases result with
  | ok value => exact (rest value middle framework outcome).trans firstCount
  | error error => exact firstCount

private theorem countsNone_exchange
    (context : CallContext)
    (operation : String)
    (limit : ExchangeLimit)
    (url : Url)
    (request : Request) :
    CountsNone (exchange context operation limit url request) := by
  intro before framework outcome
  simp only [exchange, ExceptT.run, StateT.run]
  split <;> rfl

private theorem countsNone_callKnown
    {resultShape : Json.Shape}
    {readResult : Json → Option α}
    (client : RpcClient)
    (context : CallContext)
    (method : String)
    (params : Json) :
    CountsNone (client.callKnown context method params resultShape readResult) := by
  refine countsNone_bind (countsNone_emit _ _) fun _ => ?_
  refine countsNone_bind (countsNone_outcome (countsNone_exchange _ _ _ _ _)) fun reply => ?_
  refine countsNone_bind (countsNone_record_exchanged _) fun _ => ?_
  refine countsNone_bind (countsNone_ofExcept _) fun answer => ?_
  split
  · exact countsNone_ofExcept _
  · exact countsNone_throw _

/-- A call that is counted as a broadcast when it returns. -/
theorem count_bind_record
    {call : Call BroadcastResult}
    {framework : Framework}
    {before after : CallState}
    {result : Except TxError BroadcastResult}
    (counts : call.CountsNone)
    (ran : (do
      let result ← call
      record (.broadcast framework result.isAccepted)
      pure result : Call BroadcastResult).run.run before = (result, after)) :
    after.measurements.count (.broadcast framework true)
      = before.measurements.count (.broadcast framework true) + (accepted result).toNat := by
  have callCount := counts before framework true
  rw [ExceptT.run_bind, StateT.run_bind] at ran
  generalize call.run.run before = called at *
  obtain ⟨outcome, middle⟩ := called
  cases outcome with
  | error error =>
      cases ran
      exact callCount
  | ok value =>
      cases ran
      change (middle.measurements ++ [Measurement.broadcast framework value.isAccepted]).count _ = _
      rw [List.count_append, callCount, accepted]
      cases value.isAccepted <;> simp

end Call

private theorem Cosmos.Broadcast.countsNone_broadcast
    (rpc : RpcClient)
    (context : CallContext)
    (signed : SignedTx) :
    (broadcast rpc context signed).CountsNone := by
  unfold broadcast
  split
  · exact fun _ _ _ => rfl
  · refine Call.countsNone_bind (Call.countsNone_callKnown _ _ _ _) fun outcome => ?_
    cases outcome with
    | result result =>
        simp only
        split
        · exact Call.countsNone_bind (Call.countsNone_emit _ _) fun _ => Call.countsNone_pure _
        · exact Call.countsNone_bind (Call.countsNone_emit _ _) fun _ => Call.countsNone_pure _
    | error error =>
        exact Call.countsNone_bind (Call.countsNone_emit _ _) fun _ => Call.countsNone_throw _

private theorem Evm.Broadcast.countsNone_broadcast
    (rpc : RpcClient)
    (context : CallContext)
    (signed : SignedTx) :
    (broadcast rpc context signed).CountsNone := by
  unfold broadcast
  split
  · exact fun _ _ _ => rfl
  · refine Call.countsNone_bind (Call.countsNone_callKnown _ _ _ _) fun outcome => ?_
    cases outcome with
    | result hash =>
        exact Call.countsNone_bind (Call.countsNone_emit _ _) fun _ => Call.countsNone_pure _
    | error error =>
        exact Call.countsNone_bind (Call.countsNone_emit _ _) fun _ => Call.countsNone_pure _

/-- A broadcast adds one to the count of accepted broadcasts if its result counts as acceptance, and
nothing otherwise. -/
theorem Builder.count_of_broadcast
    {builder : Builder}
    {context : CallContext}
    {signed : SignedTx}
    {before after : CallState}
    {result : Except TxError BroadcastResult}
    (ran : (builder.broadcast context signed).run.run before = (result, after)) :
    after.measurements.count (.broadcast builder.framework true)
      = before.measurements.count (.broadcast builder.framework true)
        + (accepted result).toNat := by
  cases builder with
  | cosmos builder =>
      exact Call.count_bind_record (Cosmos.Broadcast.countsNone_broadcast _ _ _) ran
  | evm builder =>
      unfold broadcast Evm.Builder.broadcast at ran
      simp only at ran
      split at ran
      · cases ran
        rfl
      · exact Call.count_bind_record (Evm.Broadcast.countsNone_broadcast _ _ _) ran

/-! ## Sending from the command line -/

namespace Job

/-- What the command for sending does before it hands the transaction over. -/
def ready (environment : Environment) (configPath : String) (arguments : TxArguments) :
    Job (Builder × CallContext × SignedTx) := do
  let config ← settings environment configPath
  let context := CallContext.withTimeout config.callTimeout
  let builder ← call (Builder.connect config.network context)
  match ← signingKey environment arguments.sender with
  | none => throw .missingKey
  | some key => do
      let request ← request builder.framework arguments (some key)
      let unsigned ← call (builder.build context request)
      let signed ← call (builder.sign unsigned key)
      pure (builder, context, signed)

/-- The command for sending hands over what it has made ready, and its success is acceptance. -/
theorem perform_send
    (environment : Environment)
    (configPath : String)
    (arguments : TxArguments) :
    perform environment configPath (.send arguments) = (do
      let (builder, context, signed) ← ready environment configPath arguments
      let result ← call (builder.broadcast context signed)
      pure (broadcastText result, result.isAccepted)) := by
  simp only [perform, send, ready, bind_assoc]
  refine bind_congr fun config => bind_congr fun builder => bind_congr fun key => ?_
  cases key with
  | none => rfl
  | some key => simp only [bind_assoc, pure_bind]

/-- A command for sending ends with the exit code of success if the broadcast's result counts as
acceptance, and with another one otherwise. -/
theorem exitCode_of_send
    {environment : Environment}
    {configPath : String}
    {arguments : TxArguments}
    {builder : Builder}
    {context : CallContext}
    {signed : SignedTx}
    {start before after : CallState}
    {result : Except TxError BroadcastResult}
    (readied : (ready environment configPath arguments).run.run start
      = (.ok (builder, context, signed), before))
    (ran : (builder.broadcast context signed).run.run before = (result, after)) :
    ∃ outcome,
      (Outcome.ofCommandLine environment (.invocation configPath (.send arguments))).run start
          = (outcome, after)
        ∧ (outcome.exitCode = 0 ↔ accepted result = true) := by
  have handed : (call (builder.broadcast context signed)).run.run before
      = (result.mapError .transaction, after) := by
    simp only [call, ExceptT.run, StateT.run] at ran ⊢
    rw [ran]
    cases result <;> rfl
  have performed : (perform environment configPath (.send arguments)).run.run start
      = ((result.mapError .transaction).map fun result =>
          (broadcastText result, result.isAccepted), after) := by
    rw [perform_send, ExceptT.run_bind, StateT.run_bind, readied]
    change (call (builder.broadcast context signed) >>= fun result =>
      pure (broadcastText result, result.isAccepted)).run.run before = _
    rw [ExceptT.run_bind, StateT.run_bind, handed]
    cases result <;> rfl
  refine ⟨Outcome.ofResult ((result.mapError .transaction).map fun result =>
    (broadcastText result, result.isAccepted)), ?_, ?_⟩
  · rw [Outcome.ofCommandLine, StateT.run_bind, performed]
    rfl
  · cases result with
    | error error => simp [mapError_error, Except.map, Outcome.ofResult, accepted]
    | ok result =>
        cases success : result.isAccepted <;>
          simp [mapError_ok, Except.map, Outcome.ofResult, Outcome.refusalCode, accepted,
            success]

end Job

/-! ## Answers that carry an error, and acceptance -/

namespace Builder

/-- When the node's answer to a broadcast carries an error, the broadcast counts as acceptance only
for the EVM family and an error of code zero, and then always if it returns. The count of accepted
broadcasts and the exit code of sending follow. -/
theorem acceptance_of_carriesError
    (builder : Builder)
    (context : CallContext)
    (signed : SignedTx)
    (before after : CallState)
    (result : Except TxError BroadcastResult)
    (url : Url)
    (request : Request)
    (answer : HttpReply)
    (wire : Wire)
    (ran : (builder.broadcast context signed).run.run before = (result, after))
    (delivered : builder.delivery? signed = some (url, request))
    (served : Wire.Served url request before.wire answer wire)
    (carries : CarriesError answer.body) :
    (accepted result = true
        ↔ builder.framework = .evm ∧ errorCode? answer.body = some 0
          ∧ ∃ value, result = .ok value)
      ∧ after.measurements.count (.broadcast builder.framework true)
          = before.measurements.count (.broadcast builder.framework true)
            + (accepted result).toNat
      ∧ ∀ environment configPath arguments start,
          (Job.ready environment configPath arguments).run.run start
              = (.ok (builder, context, signed), before)
            → ∃ outcome,
                (Outcome.ofCommandLine environment
                    (.invocation configPath (.send arguments))).run start = (outcome, after)
                  ∧ (outcome.exitCode = 0 ↔ accepted result = true) := by
  refine ⟨accepted_iff_of_carriesError ran delivered served carries, count_of_broadcast ran, ?_⟩
  intro environment configPath arguments start readied
  exact Job.exitCode_of_send readied ran

/-! ### A refusal of code zero -/

/-- Where a node of the name `n` listens. -/
def sampleEndpoint : Url :=
  ⟨['h', 't', 't', 'p'], some ⟨[], [], .name ['n'], none⟩, ['/'], none, none⟩

def sampleBuilder : Builder :=
  .evm { Evm.Builder.offline 1 with
    node := some ⟨⟨sampleEndpoint, 1, ⟨10 ^ 9⟩, 0⟩, ⟨sampleEndpoint, ⟨10 ^ 9⟩⟩⟩ }

def sampleRefusal : HttpReply :=
  ⟨200, "\x7b\"error\":\x7b\"code\":0,\"message\":\"refused\"\x7d\x7d"⟩

/-- A node that refuses every transaction. -/
def sampleNode : Node where
  host := .name ['n']
  port := none
  replies :=
    [(Evm.Broadcast.method, [⟨0, .answer sampleRefusal.status sampleRefusal.body⟩])]

def sampleTx : SignedTx :=
  ⟨[0xf8, 0x6b], [], []⟩

/-- What the node's refusal comes to. -/
theorem returns_broadcast_sample :
    ∃ value after,
      (sampleBuilder.broadcast .background sampleTx).Returns (.initial (some sampleNode)) value after
        ∧ value.isAccepted = true := by
  have accepts :
      (((sampleBuilder.broadcast .background sampleTx).run.run
        (.initial (some sampleNode))).1.toOption.map BroadcastResult.isAccepted) = some true := by
    decide +kernel
  obtain ⟨value, found, valueAccepted⟩ := Option.map_eq_some_iff.mp accepts
  obtain ⟨after, returned⟩ := Call.returns_of_toOption found
  exact ⟨value, after, returned, valueAccepted⟩

private theorem served_sample :
    ∃ url request wire,
      sampleBuilder.delivery? sampleTx = some (url, request)
        ∧ Wire.Served url request (CallState.initial (some sampleNode)).wire sampleRefusal wire :=
  have present : (CallState.initial (some sampleNode)).wire.node = some sampleNode := rfl
  ⟨_, _, _, rfl, .of_reply present (by decide) rfl⟩

private theorem carriesError_sample :
    CarriesError sampleRefusal.body :=
  carriesError_of_errorCode? (show errorCode? sampleRefusal.body = some 0 by decide +kernel)

/-- The acceptance of the sample comes from the code of the error. -/
theorem acceptance_of_sample :
    ∃ url request wire value after,
      (sampleBuilder.broadcast .background sampleTx).run.run (.initial (some sampleNode))
          = (.ok value, after)
        ∧ sampleBuilder.delivery? sampleTx = some (url, request)
        ∧ Wire.Served url request (CallState.initial (some sampleNode)).wire sampleRefusal wire
        ∧ CarriesError sampleRefusal.body
        ∧ errorCode? sampleRefusal.body = some 0 := by
  obtain ⟨value, after, returned, valueAccepted⟩ := returns_broadcast_sample
  obtain ⟨url, request, wire, delivered, served⟩ := served_sample
  obtain ⟨acceptedIff, -, -⟩ :=
    acceptance_of_carriesError sampleBuilder .background sampleTx (.initial (some sampleNode)) after
      (.ok value) url request sampleRefusal wire returned delivered served carriesError_sample
  exact ⟨url, request, wire, value, after, returned, delivered, served, carriesError_sample,
    (acceptedIff.mp valueAccepted).2.1⟩

/-- A transaction that is not empty is refused with an error of code zero, and the broadcast is
counted as accepted. -/
theorem accepted_of_refused_sample :
    ∃ url request wire value after,
      sampleTx.txBytes ≠ []
        ∧ sampleBuilder.delivery? sampleTx = some (url, request)
        ∧ Wire.Served url request (CallState.initial (some sampleNode)).wire sampleRefusal wire
        ∧ CarriesError sampleRefusal.body
        ∧ (sampleBuilder.broadcast .background sampleTx).Returns (.initial (some sampleNode)) value
            after
        ∧ value.isAccepted = true
        ∧ after.measurements.count (.broadcast .evm true) = 1 := by
  obtain ⟨value, after, returned, valueAccepted⟩ := returns_broadcast_sample
  obtain ⟨url, request, wire, delivered, served⟩ := served_sample
  refine ⟨url, request, wire, value, after, by decide, delivered, served, carriesError_sample,
    returned, valueAccepted, ?_⟩
  have counted := count_of_broadcast returned
  rw [accepted, valueAccepted] at counted
  exact counted

end Builder

end ChainTx
