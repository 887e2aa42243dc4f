import ChainTx.Evm.Client
import ChainTx.Proofs.Call.Deadlines

/-!
Contract: what ends a guarded call.

Owns:
- the first of several endings, and that a race of races is one race;
- all that can end a call: the caller's cancellation, the work itself, and timers, each with the
  result that it leaves;
- that the first of these ends a call under a context, also where the client's own limit stands around
  the work;
- the two cases that no timer decides: a context that is cancelled beforehand, and work that is ready at
  once.

Does not own: calls one after another.

## Why the layers do not matter

A call is guarded twice: the client's limit cuts the work off, and the context cuts off what that
leaves. Each layer takes the earlier of two endings and prefers the inner one of two at the same time.
Taking the earlier is associative, so the layers are one race of everything that can happen, in the
order in which it is preferred.
-/

set_option autoImplicit false

namespace ChainTx

namespace Ending

variable {α : Type}

/-- Of these endings none is earlier, and none of the same time stands in front of this one. -/
structure IsFirst (endings : List (Ending α)) (ending : Ending α) : Prop where
  le : ∀ other ∈ endings, ending.time ≤ other.time
  find? : endings.find? (·.time == ending.time) = some ending

private theorem isFirst_of_earliest?
    {endings : List (Ending α)}
    {ending : Ending α}
    (earliest : earliest? endings = some ending) :
    IsFirst endings ending := by
  induction endings generalizing ending with
  | nil => cases earliest
  | cons first rest inductionHypothesis =>
      rw [earliest?] at earliest
      cases found : earliest? rest with
      | none =>
          have alone : rest = [] := by
            have noTime := map_time_earliest? rest
            rw [found, Option.map_none] at noTime
            exact List.map_eq_nil_iff.mp (List.min?_eq_none_iff.mp noTime.symm)
          rw [found] at earliest
          cases earliest
          rw [alone]
          exact ⟨by simp, by simp⟩
      | some other =>
          obtain ⟨otherLe, otherFound⟩ := inductionHypothesis found
          rw [found] at earliest
          simp only at earliest
          split at earliest
          · rename_i earlier
            obtain rfl := Option.some.inj earliest
            refine ⟨List.forall_mem_cons.mpr ⟨Nat.le_of_lt earlier, otherLe⟩, ?_⟩
            have passed : (first.time == other.time) = false :=
              beq_eq_false_iff_ne.mpr (Nat.ne_of_gt earlier)
            rw [List.find?_cons, passed, otherFound]
          · rename_i notEarlier
            cases earliest
            refine ⟨List.forall_mem_cons.mpr ⟨Nat.le_refl _, fun later isIn => ?_⟩, ?_⟩
            · exact Nat.le_trans (Nat.le_of_not_lt notEarlier) (otherLe later isIn)
            · rw [List.find?_cons, beq_self_eq_true]

/-- The earliest of some endings is the first of them. -/
theorem earliest?_eq_some_iff
    {endings : List (Ending α)}
    {ending : Ending α} :
    earliest? endings = some ending ↔ IsFirst endings ending := by
  refine ⟨isFirst_of_earliest?, ?_⟩
  rintro ⟨le, found⟩
  cases earliest : earliest? endings with
  | none =>
      have noTime := map_time_earliest? endings
      rw [earliest, Option.map_none] at noTime
      rw [List.map_eq_nil_iff.mp (List.min?_eq_none_iff.mp noTime.symm)] at found
      cases found
  | some other =>
      obtain ⟨otherLe, otherFound⟩ := isFirst_of_earliest? earliest
      have same : ending.time = other.time :=
        Nat.le_antisymm (le other (earliest?_mem earliest))
          (otherLe ending (List.mem_of_find?_eq_some found))
      rw [same, otherFound] at found
      exact found

/-- A race depends on the winners of its parts. -/
theorem earliest?_append (first second : List (Ending α)) :
    earliest? (first ++ second)
      = earliest? ((earliest? first).toList ++ (earliest? second).toList) := by
  induction first with
  | nil =>
      rw [List.nil_append]
      cases earliest? second <;> rfl
  | cons ending rest inductionHypothesis =>
      rw [List.cons_append, earliest?, inductionHypothesis, earliest?]
      cases earliest? rest <;> cases earliest? second <;> grind [earliest?]

/-- A race inside a race is no race of its own. -/
theorem earliest?_flatten (before inner after : List (Ending α)) :
    earliest? (before ++ (earliest? inner).toList ++ after)
      = earliest? (before ++ inner ++ after) := by
  have settled : earliest? (earliest? inner).toList = earliest? inner := by
    cases earliest? inner <;> rfl
  rw [List.append_assoc, List.append_assoc, earliest?_append before, earliest?_append before,
    earliest?_append _ after, earliest?_append inner after, settled]

/-- Work that a timer cuts off is a race of the two, in which the work is preferred. -/
theorem some_within_eq_earliest?
    (limit : Duration)
    (late : α)
    (work : Option (Ending α)) :
    some (within limit late work)
      = earliest? (work.toList ++ [⟨limit.timerNanoseconds, late⟩]) := by
  cases work with
  | none => rfl
  | some ending =>
      simp only [within, Duration.timerNanoseconds, Option.toList_some, List.singleton_append, earliest?]
      split
      · rw [if_neg (by omega)]
      · rw [if_pos (by omega)]

end Ending

namespace CallContext

variable {α : Type} {context : CallContext}

/-- All that can end a call: the caller cancels, the work is there, or a timer has run out. -/
def endings (context : CallContext) (operation : String) (now : Nat)
    (work : Option (Ending (Except TxError α))) (timers : List Duration) :
    List (Ending (Except TxError α)) :=
  context.cancelsAt.toList.map (fun time => ⟨time - now, .error (.cancelled operation)⟩)
    ++ work.toList
    ++ timers.map fun limit => ⟨limit.timerNanoseconds, .error (.timeout operation limit)⟩

private theorem run?_of_isCancelledAt
    {operation : String}
    {now : Nat}
    (cancelled : context.isCancelledAt now = true)
    (work : Option (Ending (Except TxError α))) :
    context.run? operation now work = some ⟨0, .error (.cancelled operation)⟩ := by
  unfold run?
  rw [if_pos cancelled]

/-- Work that is ready at once is preferred to every deadline. -/
theorem run?_of_ready
    {operation : String}
    {now : Nat}
    (uncancelled : context.isCancelledAt now = false)
    (result : Except TxError α) :
    context.run? operation now (some ⟨0, result⟩) = some ⟨0, result⟩ := by
  unfold run?
  rw [if_neg (ne_true_of_eq_false uncancelled)]
  rfl

private theorem run?_eq_earliest?_endings
    {operation : String}
    {now : Nat}
    (uncancelled : context.isCancelledAt now = false)
    (work : Option (Ending (Except TxError α))) :
    context.run? operation now work
      = Ending.earliest? (context.endings operation now work context.timeout.toList) := by
  have same : context.endings operation now work context.timeout.toList
      = (context.cancellation operation now).toList ++ work.toList
        ++ (context.deadline operation).toList := by
    unfold endings cancellation deadline Duration.timerNanoseconds
    cases context.cancelsAt <;> cases context.timeout <;> rfl
  rw [same]
  by_cases later : ∀ own, work = some own → own.time ≠ 0
  · exact run?_eq_earliest? uncancelled later
  · simp only [Classical.not_forall, Decidable.not_not, exists_prop, ne_eq] at later
    obtain ⟨⟨_, result⟩, rfl, rfl⟩ := later
    rw [run?_of_ready uncancelled, eq_comm, Ending.earliest?_eq_some_iff]
    unfold cancellation
    unfold isCancelledAt at uncancelled
    cases cancels : context.cancelsAt with
    | none => exact ⟨fun _ _ => Nat.zero_le _, rfl⟩
    | some time =>
        rw [cancels, decide_eq_false_iff_not] at uncancelled
        have notNow : (time - now == 0) = false := by
          rw [beq_eq_false_iff_ne]
          omega
        refine ⟨fun _ _ => Nat.zero_le _, ?_⟩
        simp [notNow]

/-- A call under a context ends as the first of cancellation, work and deadline. -/
theorem run?_eq_some_iff_isFirst
    {operation : String}
    {now : Nat}
    {work : Option (Ending (Except TxError α))}
    {ending : Ending (Except TxError α)}
    (uncancelled : context.isCancelledAt now = false) :
    context.run? operation now work = some ending
      ↔ Ending.IsFirst (context.endings operation now work context.timeout.toList) ending := by
  rw [run?_eq_earliest?_endings uncancelled, Ending.earliest?_eq_some_iff]

end CallContext

/-! ## Clients with a limit of their own -/

namespace Evm.Client

variable {α : Type} {client : Client} {context : CallContext}

/-- What becomes of work for a client: the client's limit is around the work, and the caller's context
around both. -/
def guarded (client : Client) (context : CallContext) (method : String) (now : Nat)
    (work : Option (Ending (Except TxError α))) : Ending (Except TxError α) :=
  context.run method now (Ending.within (client.limit method).duration
    (.error (client.limit method).late) work)

/-- An exchange for a client is guarded work. It leaves its traces only if it takes some time. -/
theorem run_exchange
    (method : String)
    (url : Url)
    (request : Request)
    (state : CallState) :
    (Call.exchange context method (client.limit method) url request).run.run state
      = let ending := client.guarded context method state.clock (state.deliver url request).1
        if ending.time = 0 then (ending.result, state)
        else
          (ending.result,
            { state.deliverFor ending.time url request with
              clock := state.clock + ending.time }) :=
  rfl

private theorem some_guarded
    (method : String)
    (now : Nat)
    (work : Option (Ending (Except TxError α))) :
    some (client.guarded context method now work)
      = context.run? method now (some (Ending.within (client.limit method).duration
          (.error (client.limit method).late) work)) :=
  (CallContext.run?_eq_some_run method now _).symm

/-- Guarded work ends as the first of cancellation, work, the client's limit and the deadline. -/
theorem guarded_eq_iff_isFirst
    {method : String}
    {now : Nat}
    {work : Option (Ending (Except TxError α))}
    {ending : Ending (Except TxError α)}
    (uncancelled : context.isCancelledAt now = false) :
    client.guarded context method now work = ending
      ↔ Ending.IsFirst
          (context.endings method now work (client.requestTimeout :: context.timeout.toList))
          ending := by
  have race : some (client.guarded context method now work)
      = Ending.earliest?
          (context.endings method now work (client.requestTimeout :: context.timeout.toList)) := by
    rw [some_guarded, CallContext.run?_eq_earliest?_endings uncancelled, CallContext.endings,
      Ending.some_within_eq_earliest?, Ending.earliest?_flatten]
    simp [CallContext.endings, limit]
  rw [← Ending.earliest?_eq_some_iff, ← race, Option.some.injEq]

private theorem guarded_of_isCancelledAt
    {method : String}
    {now : Nat}
    (cancelled : context.isCancelledAt now = true)
    (work : Option (Ending (Except TxError α))) :
    client.guarded context method now work = ⟨0, .error (.cancelled method)⟩ := by
  rw [guarded, CallContext.run, CallContext.run?_of_isCancelledAt cancelled, Option.getD_some]

private theorem guarded_of_ready
    {method : String}
    {now : Nat}
    (uncancelled : context.isCancelledAt now = false)
    (result : Except TxError α) :
    client.guarded context method now (some ⟨0, result⟩) = ⟨0, result⟩ := by
  have inTime : Ending.within (client.limit method).duration (.error (client.limit method).late)
      (some ⟨0, result⟩) = ⟨0, result⟩ := by
    simp [Ending.within]
  rw [guarded, inTime, CallContext.run, CallContext.run?_of_ready uncancelled, Option.getD_some]

/-- A context that is cancelled beforehand ends a call at once, whatever the work would have been, and
an exchange leaves everything as it was. Otherwise a call under the context alone ends as the first
of cancellation, work and deadline, and one for a client as the first of these and the client's limit;
of several at one time the first in this order is meant, with the client's limit in front of the
deadline. Work that is ready at once is therefore never late, also where a limit is zero. -/
theorem first_ends_guarded
    (client : Client)
    (context : CallContext)
    (method : String)
    (now : Nat)
    (work : Option (Ending (Except TxError α))) :
    (context.isCancelledAt now = true →
        context.run? method now work = some ⟨0, .error (.cancelled method)⟩
          ∧ client.guarded context method now work = ⟨0, .error (.cancelled method)⟩
          ∧ ∀ url request state, state.clock = now →
            (Call.exchange context method (client.limit method) url request).run.run state
              = (.error (.cancelled method), state))
      ∧ (context.isCancelledAt now = false →
        (∀ ending, context.run? method now work = some ending
            ↔ Ending.IsFirst (context.endings method now work context.timeout.toList) ending)
          ∧ (∀ ending, client.guarded context method now work = ending
            ↔ Ending.IsFirst
                (context.endings method now work
                  (client.requestTimeout :: context.timeout.toList)) ending)
          ∧ ∀ result : Except TxError α,
            context.run? method now (some ⟨0, result⟩) = some ⟨0, result⟩
              ∧ client.guarded context method now (some ⟨0, result⟩) = ⟨0, result⟩)
      ∧ ∀ url request state,
        ((Call.exchange context method (client.limit method) url request).run.run state).1
          = (client.guarded context method state.clock (state.deliver url request).1).result := by
  refine ⟨fun cancelled => ⟨?_, ?_, ?_⟩, fun uncancelled => ⟨?_, ?_, ?_⟩, ?_⟩
  · exact CallContext.run?_of_isCancelledAt cancelled work
  · exact guarded_of_isCancelledAt cancelled work
  · rintro url request state rfl
    rw [run_exchange, guarded_of_isCancelledAt cancelled]
    rfl
  · exact fun ending => CallContext.run?_eq_some_iff_isFirst uncancelled
  · exact fun ending => guarded_eq_iff_isFirst uncancelled
  · exact fun result =>
      ⟨CallContext.run?_of_ready uncancelled result, guarded_of_ready uncancelled result⟩
  · intro url request state
    rw [run_exchange]
    simp only
    split <;> rfl

/-- A client that waits thirty milliseconds. -/
def patientClient : Client :=
  ⟨⟨"http".toList, none, [], none, none⟩, 1, ⟨30000000⟩, 0⟩

/-- The deadline, rounded up to twenty milliseconds, comes before the work, the client's limit and the
cancellation; from then on that the caller has cancelled, nothing begins. -/
theorem first_ends_guarded_patientClient :
    (⟨some 50000000, some ⟨19000001⟩⟩ : CallContext).isCancelledAt 5 = false
      ∧ patientClient.guarded ⟨some 50000000, some ⟨19000001⟩⟩ "eth_chainId" 5
          (some ⟨40000000, (.ok 7 : Except TxError Nat)⟩)
        = ⟨20000000, .error (.timeout "eth_chainId" ⟨19000001⟩)⟩
      ∧ (⟨some 50000000, some ⟨19000001⟩⟩ : CallContext).isCancelledAt 50000000 = true
      ∧ patientClient.guarded ⟨some 50000000, some ⟨19000001⟩⟩ "eth_chainId" 50000000
          (some ⟨40000000, (.ok 7 : Except TxError Nat)⟩)
        = ⟨0, .error (.cancelled "eth_chainId")⟩ := by
  refine ⟨rfl, ?_, rfl, ?_⟩
  · refine (((first_ends_guarded _ _ _ _ _).2.1 rfl).2.1 _).mpr ?_
    refine Ending.isFirst_of_earliest? ?_
    simp [CallContext.endings, Ending.earliest?, patientClient, Duration.timerNanoseconds,
      Duration.timerMilliseconds]
  · exact ((first_ends_guarded _ _ _ _ _).1 rfl).2.1

end Evm.Client

end ChainTx
