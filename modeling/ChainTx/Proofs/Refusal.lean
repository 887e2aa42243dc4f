import Mathlib
import ChainTx.Proofs.Handover
import ChainTx.Proofs.Json.Shape

/-!
Contract: error objects of a node, and what may stand beside them.

Owns:
- bodies that hold a well-formed error object, and the results that may stand beside it: null and
  what the caller of the method takes for a result;
- remote calls that are answered so: the error object wins over every such result, and over no other;
- the results that the two families take, and what becomes of their broadcasts.

Does not own: bodies that hold an error object which is not well formed.

## Why the result matters at all

An error object is returned whatever the result says, but the body is read with the result's type
before anybody looks for the error. A result that cannot be read hides the error.
-/

set_option autoImplicit false

namespace ChainTx

/-! ## Error objects -/

/-- An object of distinct names with an integer code of 64 bits and a text as its message. -/
def Json.IsErrorObject (failure : Json) (code : Int64) (message : String) : Prop :=
  ∃ members,
    failure = .object members
      ∧ Json.Distinct members
      ∧ ("code", .integer code.toInt) ∈ members
      ∧ ("message", .string message) ∈ members

/-- A body is the text of an object of distinct names whose member `error` is an error object. -/
structure HoldsErrorObject (body : String) (members : List (String × Json)) (code : Int64)
    (message : String) : Prop where
  isObject : Json.readRaw? body = some (.object members)
  distinct : Json.Distinct members
  holds : ∃ failure, ("error", failure) ∈ members ∧ failure.IsErrorObject code message

/-- What stands beside the error object is no hindrance: no result, or null, or one that is taken. -/
def ResultFits (takes : Json → Prop) (members : List (String × Json)) : Prop :=
  ∀ value, ("result", value) ∈ members → value = .null ∨ takes value

private theorem resultFits_congr
    {takes others : Json → Prop}
    (same : ∀ value, takes value ↔ others value)
    (members : List (String × Json)) :
    ResultFits takes members ↔ ResultFits others members :=
  forall₂_congr fun value _ => or_congr_right (same value)

/-- An error object is read with its code and its message. -/
theorem RpcError.ofJson?_of_isErrorObject
    {failure : Json}
    {code : Int64}
    {message : String}
    (isErrorObject : failure.IsErrorObject code message) :
    ∃ data, ofJson? failure = some ⟨code, message, data⟩ := by
  obtain ⟨members, rfl, distinct, hasCode, hasMessage⟩ := isErrorObject
  rw [Json.mem_iff_lookup distinct] at hasCode hasMessage
  obtain ⟨data, dataRead⟩ : ∃ data, Json.optional? some (members.lookup "data") = some data := by
    rw [Json.exists_optional?_iff]
    intro value _
    exact .inr ⟨value, rfl⟩
  refine ⟨data.map Json.canonical, ?_⟩
  rw [ofJson?, Json.record?_of_distinct distinct]
  simp only [List.map_cons, List.map_nil, hasCode, hasMessage, Option.bind_eq_bind,
    Option.bind_some, Json.required?, Json.int64?_toInt, Json.string?, dataRead]

/-- An error object is read alike with and without its shape. -/
theorem RpcError.keeps_shape :
    RpcError.shape.Keeps RpcError.ofJson? :=
  ⟨nofun, fun json => by rw [ofJson?, shape, Json.record?_narrow, ofJson?]⟩

/-! ## Answers to remote calls -/

namespace RpcOutcome

variable {α : Type} {resultShape : Json.Shape} {readResult : Json → Option α} {body : String}
  {members : List (String × Json)} {code : Int64} {message : String}

/-- A body with an error object has the outcome of its error if the result can be read, and none
otherwise. -/
theorem read?_of_holdsErrorObject
    (keeps : resultShape.Keeps readResult)
    (refuses : HoldsErrorObject body members code message) :
    ∃ data,
      read? resultShape readResult body
        = (Json.optional? readResult (members.lookup "result")).map fun value =>
          (value, some ⟨code, message, data⟩) := by
  obtain ⟨failure, isMember, isErrorObject⟩ := refuses.holds
  obtain ⟨data, errorRead⟩ := RpcError.ofJson?_of_isErrorObject isErrorObject
  have found := (Json.mem_iff_lookup refuses.distinct).mp isMember
  have failureRead : Json.optional? RpcError.ofJson? (members.lookup "error")
      = some (some ⟨code, message, data⟩) := by
    obtain ⟨_, rfl, _⟩ := isErrorObject
    rw [found]
    show (RpcError.ofJson? _).map some = _
    rw [errorRead]
    rfl
  have read : Json.readKnown? (shape resultShape) body
      = some (.object (Json.narrowMembers (shape resultShape) members)) :=
    Json.readKnown?_of_readRaw? (shape resultShape) refuses.isObject
  have resultLooked : (shape resultShape).member "result" = resultShape := rfl
  have errorLooked : (shape resultShape).member "error" = RpcError.shape := rfl
  refine ⟨data, ?_⟩
  rw [read?, read]
  simp only [Option.bind_eq_bind, Option.bind_some,
    Json.record?_of_distinct refuses.distinct.narrowMembers, List.map_cons, List.map_nil,
    Json.lookup_narrowMembers, resultLooked, errorLooked, Json.optional?_narrow keeps,
    Json.optional?_narrow RpcError.keeps_shape, failureRead]
  cases Json.optional? readResult (members.lookup "result") <;> rfl

/-- Beside a result that fits, the error object wins. -/
theorem ofBody_of_resultFits
    (method : String)
    (keeps : resultShape.Keeps readResult)
    (refuses : HoldsErrorObject body members code message)
    (fits : ResultFits (fun value => ∃ result, readResult value = some result) members) :
    ∃ data, ofBody method resultShape readResult body = .ok (.error ⟨code, message, data⟩) := by
  obtain ⟨data, read⟩ := read?_of_holdsErrorObject keeps refuses
  obtain ⟨value, resultRead⟩ :
      ∃ value, Json.optional? readResult (members.lookup "result") = some value := by
    rw [Json.exists_optional?_iff]
    intro value found
    exact fits value ((Json.mem_iff_lookup refuses.distinct).mpr found)
  refine ⟨data, ?_⟩
  rw [ofBody, read, resultRead]
  rfl

/-- Any other result makes the body unreadable, and the error object is lost with it. -/
theorem ofBody_of_not_resultFits
    (method : String)
    (keeps : resultShape.Keeps readResult)
    (refuses : HoldsErrorObject body members code message)
    (unfit : ¬ ResultFits (fun value => ∃ result, readResult value = some result) members) :
    ofBody method resultShape readResult body = .error (.transport (.malformed method)) := by
  obtain ⟨data, read⟩ := read?_of_holdsErrorObject keeps refuses
  have unread : Json.optional? readResult (members.lookup "result") = none := by
    rw [Option.eq_none_iff_forall_ne_some]
    intro value resultRead
    apply unfit
    intro result isMember
    exact Json.exists_optional?_iff.mp ⟨value, resultRead⟩ result
      ((Json.mem_iff_lookup refuses.distinct).mp isMember)
  rw [ofBody, read, unread]
  rfl

end RpcOutcome

/-! ## The results that the families take -/

namespace Json

/-- An integer of 64 bits with a sign. -/
def IsInt64 (value : Json) : Prop :=
  ∃ number : Int64, value = .integer number.toInt

def IsText (value : Json) : Prop :=
  ∃ text, value = .string text

end Json

namespace Cosmos.Broadcast

/-- What a Cosmos node tells about a transaction: a code, a hash and a log, all of which may be
missing, as members of an object or one after the other in an array. -/
def IsSyncResult : Json → Prop
  | .object members =>
      (∀ name ∈ ["code", "hash", "log"], (members.map Prod.fst).count name ≤ 1)
        ∧ (∀ value, ("code", value) ∈ members → value.IsInt64)
        ∧ (∀ value, ("hash", value) ∈ members → value.IsText)
        ∧ ∀ value, ("log", value) ∈ members → value.IsText
  | .array elements =>
      elements.length ≤ 3
        ∧ (∀ value, elements[0]? = some value → value.IsInt64)
        ∧ (∀ value, elements[1]? = some value → value.IsText)
        ∧ ∀ value, elements[2]? = some value → value.IsText
  | _ => False

private theorem exists_readResult?_of_record?
    {json : Json}
    {code hash log : Option Json}
    (read : Json.record? ["code", "hash", "log"] 0 json = some [code, hash, log]) :
    (∃ result, readResult? json = some result)
      ↔ (∀ value, code = some value → value.IsInt64)
        ∧ (∀ value, hash = some value → value.IsText)
        ∧ ∀ value, log = some value → value.IsText := by
  have codeRead := @Json.exists_defaulted?_iff _ Json.int64? 0 code
  have hashRead := @Json.exists_defaulted?_iff _ Json.string? "" hash
  have logRead := @Json.exists_defaulted?_iff _ Json.string? "" log
  simp only [Json.exists_int64?_iff, Json.exists_string?_iff] at codeRead hashRead logRead
  simp only [Json.IsInt64, Json.IsText]
  rw [← codeRead, ← hashRead, ← logRead, readResult?, read]
  simp only [Option.bind_eq_bind, Option.bind_some, Option.bind_eq_some_iff, Option.some.injEq]
  constructor
  · rintro ⟨_, number, codeFound, text, hashFound, shown, logFound, _⟩
    exact ⟨⟨number, codeFound⟩, ⟨text, hashFound⟩, ⟨shown, logFound⟩⟩
  · rintro ⟨⟨number, codeFound⟩, ⟨text, hashFound⟩, ⟨shown, logFound⟩⟩
    exact ⟨_, number, codeFound, text, hashFound, shown, logFound, rfl⟩

private theorem exists_readResult?_object
    {members : List (String × Json)} :
    (∃ result, readResult? (.object members) = some result) ↔ IsSyncResult (.object members) := by
  by_cases single : ∀ name ∈ ["code", "hash", "log"], (members.map Prod.fst).count name ≤ 1
  · obtain ⟨code, codeFound⟩ := Json.exists_single?_iff.mpr (single "code" (by simp))
    obtain ⟨hash, hashFound⟩ := Json.exists_single?_iff.mpr (single "hash" (by simp))
    obtain ⟨log, logFound⟩ := Json.exists_single?_iff.mpr (single "log" (by simp))
    have read : Json.record? ["code", "hash", "log"] 0 (.object members)
        = some [code, hash, log] := by
      simp only [Json.record?, List.mapM_cons, List.mapM_nil, codeFound, hashFound, logFound]
      rfl
    rw [exists_readResult?_of_record? read, IsSyncResult, and_iff_right single]
    simp only [Json.mem_iff_of_single? codeFound, Json.mem_iff_of_single? hashFound,
      Json.mem_iff_of_single? logFound]
  · refine iff_of_false ?_ fun isResult => single isResult.1
    rintro ⟨result, read⟩
    simp only [readResult?, Json.record?, List.mapM_cons, List.mapM_nil, Option.bind_eq_bind,
      Option.bind_eq_some_iff] at read
    obtain ⟨_, ⟨code, codeFound, _, ⟨hash, hashFound, _, ⟨log, logFound, _⟩, _⟩, _⟩, _⟩ := read
    apply single
    intro name isName
    simp only [List.mem_cons, List.not_mem_nil, or_false] at isName
    rcases isName with rfl | rfl | rfl
    · exact Json.exists_single?_iff.mp ⟨code, codeFound⟩
    · exact Json.exists_single?_iff.mp ⟨hash, hashFound⟩
    · exact Json.exists_single?_iff.mp ⟨log, logFound⟩

private theorem exists_readResult?_array
    {elements : List Json} :
    (∃ result, readResult? (.array elements) = some result) ↔ IsSyncResult (.array elements) := by
  by_cases short : elements.length ≤ 3
  · have read : Json.record? ["code", "hash", "log"] 0 (.array elements)
        = some [elements[0]?, elements[1]?, elements[2]?] := by
      match elements, short with
      | [], _ => rfl
      | [_], _ => rfl
      | [_, _], _ => rfl
      | [_, _, _], _ => rfl
    rw [exists_readResult?_of_record? read, IsSyncResult, and_iff_right short]
  · refine iff_of_false ?_ fun isResult => short isResult.1
    rintro ⟨result, read⟩
    have tooLong : Json.record? ["code", "hash", "log"] 0 (.array elements) = none := by
      rw [Json.record?, Json.positional?, if_neg fun bounds => short bounds.2]
    rw [readResult?, tooLong] at read
    cases read

/-- These results are taken, and no others. -/
theorem exists_readResult?_iff
    {json : Json} :
    (∃ result, readResult? json = some result) ↔ IsSyncResult json := by
  cases json with
  | object members => exact exists_readResult?_object
  | array elements => exact exists_readResult?_array
  | _ => exact iff_of_false (by rintro ⟨_, ⟨⟩⟩) id

/-- A result is read alike with and without its shape. -/
theorem keeps_resultShape :
    resultShape.Keeps readResult? :=
  ⟨nofun, fun json => by rw [readResult?, resultShape, Json.record?_narrow, readResult?]⟩

end Cosmos.Broadcast

/-! ## Broadcasts that are answered -/

namespace RpcClient

variable {α : Type} {client : RpcClient} {context : CallContext} {method : String} {params : Json}

/-- A call whose exchange comes to an answer of success comes to what the answer's body tells. -/
theorem result_callKnown_of_answer
    {before reached : CallState}
    {answer : HttpReply}
    (answered : (client.callExchange context method params).Returns before answer reached)
    (success : answer.isSuccess = true)
    (resultShape : Json.Shape)
    (readResult : Json → Option α) :
    ((client.callKnown context method params resultShape readResult).run.run before).1
      = RpcOutcome.ofBody method resultShape readResult answer.body := by
  have exchanged :
      ((client.callExchange context method params).run.run
        (before.logged .debug "JSON-RPC request")).1 = .ok answer :=
    (Call.result_exchange_logged _ _ _ _ _ _ _ _).trans (congrArg Prod.fst answered)
  rw [run_callKnown, exchanged]
  show outcomeOf method resultShape readResult answer = _
  rw [outcomeOf, if_pos success]

end RpcClient

/-- What a Cosmos node's outcome comes to. -/
def Cosmos.Broadcast.judge : RpcOutcome BroadcastResult → Except TxError BroadcastResult
  | .result result => .ok result
  | .error error => .error (.rpc error.code (errorMessage error))

private theorem Cosmos.Broadcast.result_broadcast
    {rpc : RpcClient}
    {context : CallContext}
    {signed : SignedTx}
    (notEmpty : signed.txBytes ≠ [])
    (before : CallState) :
    ((broadcast rpc context signed).run.run before).1
      = ((rpc.callKnown context method (params signed.txBytes) resultShape readResult?).run.run
          before).1.bind judge := by
  rw [broadcast, if_neg notEmpty]
  apply Call.result_bind
  intro outcome state
  cases outcome with
  | result result =>
      simp only
      split <;> rfl
  | error error => rfl

/-- What an EVM node's outcome comes to, for the bytes that were sent. -/
def Evm.Broadcast.judge (txBytes : Bytes) : RpcOutcome String → Except TxError BroadcastResult
  | .result hash => .ok ⟨hash, 0, ""⟩
  | .error error => .ok ⟨txHash txBytes, error.code, error.message⟩

private theorem Evm.Broadcast.result_broadcast
    {rpc : RpcClient}
    {context : CallContext}
    {signed : SignedTx}
    (notEmpty : signed.txBytes ≠ [])
    (before : CallState) :
    ((broadcast rpc context signed).run.run before).1
      = ((rpc.call context method (params signed.txBytes) Json.string?).run.run before).1.bind
        (judge signed.txBytes) := by
  rw [broadcast, if_neg notEmpty]
  apply Call.result_bind
  intro outcome state
  cases outcome <;> rfl

/-- Counting a broadcast does not change what it comes to. -/
theorem Call.result_bind_record
    (call : Call BroadcastResult)
    (framework : Framework)
    (before : CallState) :
    ((do
      let result ← call
      record (.broadcast framework result.isAccepted)
      pure result : Call BroadcastResult).run.run before).1 = (call.run.run before).1 := by
  rw [ExceptT.run_bind, StateT.run_bind]
  generalize call.run.run before = ran
  obtain ⟨result, middle⟩ := ran
  cases result <;> rfl

namespace Builder

/-- What a builder makes of the body of an answer to a broadcast of these bytes. -/
def readBody (builder : Builder) (txBytes : Bytes) (body : String) :
    Except TxError BroadcastResult :=
  match builder with
  | .cosmos _ =>
      (RpcOutcome.ofBody Cosmos.Broadcast.method Cosmos.Broadcast.resultShape
        Cosmos.Broadcast.readResult? body).bind Cosmos.Broadcast.judge
  | .evm _ =>
      (RpcOutcome.ofBody Evm.Broadcast.method .whole Json.string? body).bind
        (Evm.Broadcast.judge txBytes)

/-- The results that the nodes of a builder's family answer with. -/
def TakesResult : Builder → Json → Prop
  | .cosmos _ => Cosmos.Broadcast.IsSyncResult
  | .evm _ => Json.IsText

/-- How a builder tells of a refusal: the Cosmos family by an error with the code, the EVM family by a
result with the code, the message and the hash of the bytes. -/
def refusal : Builder → Bytes → RpcError → Except TxError BroadcastResult
  | .cosmos _, _, error => .error (.rpc error.code (Cosmos.Broadcast.errorMessage error))
  | .evm _, txBytes, error => .ok ⟨Evm.txHash txBytes, error.code, error.message⟩

/-- A broadcast that is answered with success comes to what the answer's body tells. -/
theorem result_of_answer
    {builder : Builder}
    {rpc : RpcClient}
    {context : CallContext}
    {signed : SignedTx}
    {before reached : CallState}
    {answer : HttpReply}
    (linked : builder.handover? = some rpc)
    (notEmpty : signed.txBytes ≠ [])
    (answered : (rpc.callExchange context builder.handoverMethod
      (builder.handoverParams signed.txBytes)).Returns before answer reached)
    (success : answer.isSuccess = true) :
    ((builder.broadcast context signed).run.run before).1
      = builder.readBody signed.txBytes answer.body := by
  cases builder with
  | cosmos builder =>
      cases linked
      show ((builder.broadcast context signed).run.run before).1 = _
      rw [Cosmos.Builder.broadcast, Call.result_bind_record,
        Cosmos.Broadcast.result_broadcast notEmpty]
      exact congrArg (Except.bind · Cosmos.Broadcast.judge)
        (RpcClient.result_callKnown_of_answer answered success Cosmos.Broadcast.resultShape
          Cosmos.Broadcast.readResult?)
  | evm builder =>
      obtain ⟨link, present, rfl⟩ := Option.map_eq_some_iff.mp linked
      show ((builder.broadcast context signed).run.run before).1 = _
      rw [Evm.Builder.broadcast, present]
      show ((do
        let result ← Evm.Broadcast.broadcast link.rpc context signed
        Call.record (.broadcast .evm result.isAccepted)
        pure result : Call BroadcastResult).run.run before).1 = _
      rw [Call.result_bind_record, Evm.Broadcast.result_broadcast notEmpty]
      exact congrArg (Except.bind · (Evm.Broadcast.judge signed.txBytes))
        (RpcClient.result_callKnown_of_answer answered success .whole Json.string?)

section

variable {body : String} {members : List (String × Json)} {code : Int64} {message : String}

/-- Beside a result that fits, the refusal is told. -/
theorem readBody_of_resultFits
    (builder : Builder)
    (txBytes : Bytes)
    (refuses : HoldsErrorObject body members code message)
    (fits : ResultFits builder.TakesResult members) :
    ∃ data, builder.readBody txBytes body = builder.refusal txBytes ⟨code, message, data⟩ := by
  cases builder with
  | cosmos builder =>
      have readable := (resultFits_congr (fun _ => Cosmos.Broadcast.exists_readResult?_iff) _).mpr fits
      obtain ⟨data, outcome⟩ :=
        RpcOutcome.ofBody_of_resultFits Cosmos.Broadcast.method Cosmos.Broadcast.keeps_resultShape
          refuses readable
      refine ⟨data, ?_⟩
      rw [readBody, outcome]
      rfl
  | evm builder =>
      have readable := (resultFits_congr (fun _ => Json.exists_string?_iff) _).mpr fits
      obtain ⟨data, outcome⟩ :=
        RpcOutcome.ofBody_of_resultFits Evm.Broadcast.method (.whole _) refuses readable
      refine ⟨data, ?_⟩
      rw [readBody, outcome]
      rfl

/-- Beside any other result a refusal looks like an answer that cannot be read. -/
theorem readBody_of_not_resultFits
    (builder : Builder)
    (txBytes : Bytes)
    (refuses : HoldsErrorObject body members code message)
    (unfit : ¬ ResultFits builder.TakesResult members) :
    builder.readBody txBytes body
      = .error (.transport (.malformed builder.handoverMethod)) := by
  cases builder with
  | cosmos builder =>
      have unreadable :=
        mt (resultFits_congr (fun _ => Cosmos.Broadcast.exists_readResult?_iff) _).mp unfit
      rw [readBody, RpcOutcome.ofBody_of_not_resultFits _ Cosmos.Broadcast.keeps_resultShape refuses
        unreadable]
      rfl
  | evm builder =>
      have unreadable := mt (resultFits_congr (fun _ => Json.exists_string?_iff) _).mp unfit
      rw [readBody, RpcOutcome.ofBody_of_not_resultFits _ (.whole _) refuses unreadable]
      rfl

end

/-! ## Error objects and results -/

/-- When an error object wins. Whatever an answer of success holds beside a well-formed error object,
a remote call comes to that error if its caller can read the result, or there is none; otherwise it
fails as malformed. So does a broadcast: the Cosmos family returns an error with the code, the EVM
family a result with the code and the message, and with a result that the family does not take both
fail in transport. -/
theorem error_object_wins_iff_result_fits
    (answer : HttpReply)
    (members : List (String × Json))
    (code : Int64)
    (message : String)
    (success : answer.isSuccess = true)
    (refuses : HoldsErrorObject answer.body members code message) :
    (∀ (α : Type) (readResult : Json → Option α) (client : RpcClient) (context : CallContext)
        (method : String) (params : Json) (before reached : CallState),
      (client.callExchange context method params).Returns before answer reached →
      (ResultFits (fun value => ∃ result, readResult value = some result) members →
          ∃ data,
            ((client.call context method params readResult).run.run before).1
              = .ok (.error ⟨code, message, data⟩))
        ∧ (¬ ResultFits (fun value => ∃ result, readResult value = some result) members →
          ((client.call context method params readResult).run.run before).1
            = .error (.transport (.malformed method))))
      ∧ ∀ (builder : Builder) (rpc : RpcClient) (context : CallContext) (signed : SignedTx)
          (before reached : CallState),
        builder.handover? = some rpc →
        signed.txBytes ≠ [] →
        (rpc.callExchange context builder.handoverMethod
          (builder.handoverParams signed.txBytes)).Returns before answer reached →
        (ResultFits builder.TakesResult members →
            ∃ data,
              ((builder.broadcast context signed).run.run before).1
                = builder.refusal signed.txBytes ⟨code, message, data⟩)
          ∧ (¬ ResultFits builder.TakesResult members →
            ((builder.broadcast context signed).run.run before).1
              = .error (.transport (.malformed builder.handoverMethod))) := by
  constructor
  · intro α readResult client context method params before reached answered
    have keeps := Json.Shape.Keeps.whole readResult
    rw [RpcClient.call, RpcClient.result_callKnown_of_answer answered success .whole readResult]
    constructor
    · intro fits
      exact RpcOutcome.ofBody_of_resultFits method keeps refuses fits
    · intro unfit
      exact RpcOutcome.ofBody_of_not_resultFits method keeps refuses unfit
  · intro builder rpc context signed before reached linked notEmpty answered
    rw [result_of_answer linked notEmpty answered success]
    constructor
    · intro fits
      exact builder.readBody_of_resultFits signed.txBytes refuses fits
    · intro unfit
      exact builder.readBody_of_not_resultFits signed.txBytes refuses unfit

/-! ### A refusal beside a text and beside an object -/

/-- An error object, with something beside it. -/
def refusalBeside (result : Json) : List (String × Json) :=
  [("result", result),
    ("error", .object [("code", .integer (-32000)), ("message", .string "nonce too low")])]

def besideText : HttpReply :=
  ⟨200, "\x7b\"result\":\"0x\",\"error\":\x7b\"code\":-32000,\"message\":\"nonce too low\"\x7d\x7d"⟩

def besideObject : HttpReply :=
  ⟨200, "\x7b\"result\":\x7b\x7d,\"error\":\x7b\"code\":-32000,\"message\":\"nonce too low\"\x7d\x7d"⟩

/-- A node that gives this answer to every transaction. -/
def answeringNode (answer : HttpReply) : Node :=
  { sampleNode with replies := [(Evm.Broadcast.method, [⟨0, .answer answer.status answer.body⟩])] }

private theorem holdsErrorObject_refusalBeside
    {body : String}
    {result : Json}
    (read : Json.readRaw? body = some (.object (refusalBeside result))) :
    HoldsErrorObject body (refusalBeside result) (-32000) "nonce too low" where
  isObject := read
  distinct := by
    show ["result", "error"].Nodup
    decide
  holds := by
    refine ⟨_, List.mem_cons_of_mem _ List.mem_cons_self, _, rfl, ?_, List.mem_cons_self,
      List.mem_cons_of_mem _ List.mem_cons_self⟩
    show ["code", "message"].Nodup
    decide

/-- The client of the sample builder. -/
def sampleClient : RpcClient :=
  ⟨sampleEndpoint, ⟨10 ^ 9⟩⟩

private theorem answered_sample
    {answer : HttpReply}
    (heard : ((sampleClient.callExchange .background Evm.Broadcast.method
      (Evm.Broadcast.params sampleTx.txBytes)).run.run
        (.initial (some (answeringNode answer)))).1.toOption = some answer) :
    ∃ reached, (sampleClient.callExchange .background sampleBuilder.handoverMethod
      (sampleBuilder.handoverParams sampleTx.txBytes)).Returns
        (.initial (some (answeringNode answer))) answer reached :=
  Call.returns_of_toOption heard

/-- The refusal stands beside a text, which an EVM node might answer with, and wins. -/
theorem error_object_wins_beside_text :
    ((sampleBuilder.broadcast .background sampleTx).run.run
        (.initial (some (answeringNode besideText)))).1
      = .ok ⟨Evm.txHash sampleTx.txBytes, -32000, "nonce too low"⟩ := by
  have refuses : HoldsErrorObject besideText.body (refusalBeside (.string "0x")) (-32000)
      "nonce too low" :=
    holdsErrorObject_refusalBeside (by unfold besideText refusalBeside; cbv)
  have fits : ResultFits sampleBuilder.TakesResult (refusalBeside (.string "0x")) := by
    intro value isMember
    have isText := (Json.mem_iff_lookup refuses.distinct).mp isMember
    cases isText
    exact .inr ⟨"0x", rfl⟩
  obtain ⟨reached, answered⟩ := answered_sample (show _ = some besideText by decide +kernel)
  obtain ⟨-, broadcasts⟩ := error_object_wins_iff_result_fits besideText _ _ _ rfl refuses
  obtain ⟨data, told⟩ := (broadcasts sampleBuilder sampleClient .background sampleTx _ reached rfl
    (by decide) answered).1 fits
  exact told

/-- The refusal stands beside an object, which no EVM node answers with, and is lost: the broadcast
fails in transport. -/
theorem error_object_lost_beside_object :
    ∃ rpc reached,
      besideObject.isSuccess = true
        ∧ HoldsErrorObject besideObject.body (refusalBeside (.object [])) (-32000) "nonce too low"
        ∧ sampleBuilder.handover? = some rpc
        ∧ sampleTx.txBytes ≠ []
        ∧ (rpc.callExchange .background sampleBuilder.handoverMethod
          (sampleBuilder.handoverParams sampleTx.txBytes)).Returns
            (.initial (some (answeringNode besideObject))) besideObject reached
        ∧ ((sampleBuilder.broadcast .background sampleTx).run.run
            (.initial (some (answeringNode besideObject)))).1
          = .error (.transport (.malformed "eth_sendRawTransaction")) := by
  have refuses : HoldsErrorObject besideObject.body (refusalBeside (.object [])) (-32000)
      "nonce too low" :=
    holdsErrorObject_refusalBeside (by unfold besideObject refusalBeside; cbv)
  have unfit : ¬ ResultFits sampleBuilder.TakesResult (refusalBeside (.object [])) := by
    intro fits
    obtain null | ⟨text, isText⟩ := fits (.object []) List.mem_cons_self
    · cases null
    · cases isText
  obtain ⟨reached, answered⟩ := answered_sample (show _ = some besideObject by decide +kernel)
  refine ⟨sampleClient, reached, rfl, refuses, rfl, by decide, answered, ?_⟩
  rw [result_of_answer (show sampleBuilder.handover? = some sampleClient from rfl) (by decide)
    answered rfl]
  exact sampleBuilder.readBody_of_not_resultFits sampleTx.txBytes refuses unfit

end Builder

end ChainTx
