import ChainTx.Proofs.Call.Wire

/-!
Contract: what a call that returns has done.

Owns:
- the relation between the state that a call finds, the value it returns and the state it leaves,
  with one law for each way to make a call, and the same relation for errors;
- the law of exchanges: an exchange changes nothing but the wire and the clock, and it returns only
  what its request was answered.

Does not own: which requests are made.
-/

set_option autoImplicit false

namespace ChainTx

namespace Call

variable {α β : Type}

/-! ## Runs -/

/-- A call that finds a state, returns a value and leaves a state behind. -/
def Returns (call : Call α) (before : CallState) (value : α) (after : CallState) : Prop :=
  call.run.run before = (.ok value, after)

/-- A call whose result has a value returns it. -/
theorem returns_of_toOption
    {call : Call α}
    {before : CallState}
    {value : α}
    (found : (call.run.run before).1.toOption = some value) :
    ∃ after, call.Returns before value after := by
  refine ⟨(call.run.run before).2, ?_⟩
  rw [Returns]
  generalize call.run.run before = ran at *
  obtain ⟨result, after⟩ := ran
  cases result with
  | ok returned =>
      cases found
      rfl
  | error error => cases found

/-- A call that goes on after another one has returned. -/
theorem run_bind_of_returns
    {call : Call α}
    {next : α → Call β}
    {before middle : CallState}
    {value : α}
    (returned : call.Returns before value middle) :
    (call >>= next).run.run before = (next value).run.run middle := by
  rw [Returns] at returned
  rw [ExceptT.run_bind, StateT.run_bind, returned]
  rfl

/-- A sequence of calls returns if the first one does and the rest does in the state behind it. -/
theorem returns_bind_iff
    {call : Call α}
    {next : α → Call β}
    {before after : CallState}
    {value : β} :
    (call >>= next).Returns before value after
      ↔ ∃ first middle,
          call.Returns before first middle ∧ (next first).Returns middle value after := by
  constructor
  · intro returned
    cases ran : call.run.run before with
    | mk result middle =>
        cases result with
        | ok first =>
            refine ⟨first, middle, ran, ?_⟩
            rw [Returns, run_bind_of_returns ran] at returned
            exact returned
        | error error =>
            rw [Returns, ExceptT.run_bind, StateT.run_bind, ran] at returned
            cases returned
  · rintro ⟨first, middle, called, continued⟩
    rw [Returns, run_bind_of_returns called]
    exact continued

theorem returns_pure_iff
    {value returned : α}
    {before after : CallState} :
    (pure value : Call α).Returns before returned after ↔ value = returned ∧ before = after := by
  constructor
  · intro ran
    cases ran
    exact ⟨rfl, rfl⟩
  · rintro ⟨rfl, rfl⟩
    rfl

theorem not_returns_throw
    {error : TxError}
    {value : α}
    {before after : CallState} :
    ¬ (throw error : Call α).Returns before value after := by
  intro returned
  cases returned

theorem returns_ofExcept_iff
    {result : Except TxError α}
    {value : α}
    {before after : CallState} :
    (ofExcept result).Returns before value after ↔ result = .ok value ∧ before = after := by
  cases result with
  | ok found => simp [ofExcept, returns_pure_iff]
  | error error => simp [ofExcept, not_returns_throw]

theorem returns_get_iff
    {value before after : CallState} :
    (get : Call CallState).Returns before value after ↔ before = value ∧ before = after :=
  returns_pure_iff

theorem returns_set_iff
    {state before after : CallState}
    {value : PUnit} :
    (set state : Call PUnit).Returns before value after ↔ state = after := by
  constructor
  · intro returned
    cases returned
    rfl
  · rintro rfl
    rfl

theorem returns_emit_iff
    {level : Level}
    {message : String}
    {value : Unit}
    {before after : CallState} :
    (emit level message).Returns before value after
      ↔ { before with events := before.events ++ [⟨level, message⟩] } = after := by
  constructor
  · intro returned
    cases returned
    rfl
  · rintro rfl
    rfl

theorem returns_record_iff
    {measurement : Measurement}
    {value : Unit}
    {before after : CallState} :
    (record measurement).Returns before value after
      ↔ { before with measurements := before.measurements ++ [measurement] } = after := by
  constructor
  · intro returned
    cases returned
    rfl
  · rintro rfl
    rfl

/-- The outcome of a call, whatever it is, is a value. -/
theorem returns_outcome_iff
    {call : Call α}
    {result : Except TxError α}
    {before after : CallState} :
    (outcome call).Returns before result after ↔ call.run.run before = (result, after) := by
  constructor
  · intro returned
    cases returned
    rfl
  · intro ran
    change (Except.ok (call.run.run before).1, (call.run.run before).2) = (Except.ok result, after)
    rw [ran]

/-! ## Failing runs -/

/-- A call that finds a state, fails and leaves a state behind. -/
def Fails (call : Call α) (before : CallState) (error : TxError) (after : CallState) : Prop :=
  call.run.run before = (.error error, after)

def error? : Except TxError α → Option TxError
  | .ok _ => none
  | .error error => some error

/-- A call whose result is an error fails with it. -/
theorem fails_of_error?
    {call : Call α}
    {before : CallState}
    {error : TxError}
    (found : error? (call.run.run before).1 = some error) :
    call.Fails before error (call.run.run before).2 := by
  rw [Fails]
  generalize call.run.run before = ran at *
  obtain ⟨result, after⟩ := ran
  cases result with
  | ok value => cases found
  | error failure =>
      cases found
      rfl

theorem returns_or_fails
    (call : Call α)
    (before : CallState) :
    (∃ value after, call.Returns before value after)
      ∨ ∃ error after, call.Fails before error after := by
  cases ran : call.run.run before with
  | mk result after =>
      cases result with
      | ok value => exact .inl ⟨value, after, ran⟩
      | error error => exact .inr ⟨error, after, ran⟩

private theorem run_bind_of_fails
    {call : Call α}
    {next : α → Call β}
    {before after : CallState}
    {error : TxError}
    (failed : call.Fails before error after) :
    (call >>= next).Fails before error after := by
  rw [Fails] at failed
  rw [Fails, ExceptT.run_bind, StateT.run_bind, failed]
  rfl

/-- A sequence of calls fails with the first one or, if that returns, with the rest. -/
theorem fails_bind_iff
    {call : Call α}
    {next : α → Call β}
    {before after : CallState}
    {error : TxError} :
    (call >>= next).Fails before error after
      ↔ call.Fails before error after
        ∨ ∃ first middle,
          call.Returns before first middle ∧ (next first).Fails middle error after := by
  constructor
  · intro failed
    obtain ⟨first, middle, returned⟩ | ⟨other, middle, failedFirst⟩ := call.returns_or_fails before
    · rw [Fails, run_bind_of_returns returned] at failed
      exact .inr ⟨first, middle, returned, failed⟩
    · have failedBind : (call >>= next).Fails before other middle := run_bind_of_fails failedFirst
      rw [Fails, failed] at failedBind
      cases failedBind
      exact .inl failedFirst
  · rintro (failed | ⟨first, middle, returned, failed⟩)
    · exact run_bind_of_fails failed
    · rw [Fails, run_bind_of_returns returned]
      exact failed

theorem not_fails_pure
    {value : α}
    {before after : CallState}
    {error : TxError} :
    ¬ (pure value : Call α).Fails before error after := by
  intro failed
  cases failed

private theorem fails_throw_iff
    {error failure : TxError}
    {before after : CallState} :
    (throw error : Call α).Fails before failure after ↔ error = failure ∧ before = after := by
  constructor
  · intro failed
    cases failed
    exact ⟨rfl, rfl⟩
  · rintro ⟨rfl, rfl⟩
    rfl

theorem fails_ofExcept_iff
    {result : Except TxError α}
    {error : TxError}
    {before after : CallState} :
    (ofExcept result).Fails before error after ↔ result = .error error ∧ before = after := by
  cases result with
  | ok found => simp [ofExcept, not_fails_pure]
  | error failure => simp [ofExcept, fails_throw_iff]

theorem not_fails_emit
    {level : Level}
    {message : String}
    {before after : CallState}
    {error : TxError} :
    ¬ (emit level message).Fails before error after := by
  intro failed
  cases failed

theorem not_fails_record
    {measurement : Measurement}
    {before after : CallState}
    {error : TxError} :
    ¬ (record measurement).Fails before error after := by
  intro failed
  cases failed

theorem not_fails_outcome
    {call : Call α}
    {before after : CallState}
    {error : TxError} :
    ¬ (outcome call).Fails before error after := by
  intro failed
  cases failed

end Call

/-! ## Work under a context -/

namespace Ending

variable {α : Type}

theorem earliest?_mem
    {endings : List (Ending α)}
    {ending : Ending α}
    (found : earliest? endings = some ending) :
    ending ∈ endings := by
  fun_induction earliest? endings with
  | case1 => cases found
  | case2 first rest _ _ =>
      cases found
      exact List.mem_cons_self
  | case3 first rest other otherFound _ inductionHypothesis =>
      exact List.mem_cons_of_mem first (inductionHypothesis (otherFound.trans found))
  | case4 first rest _ _ _ _ =>
      cases found
      exact List.mem_cons_self

/-- Work whose result is no lateness has ended by itself. -/
theorem within_eq_of_ok
    {limit : Duration}
    {late : TxError}
    {work : Option (Ending (Except TxError α))}
    {value : α}
    (finished : (within limit (.error late) work).result = .ok value) :
    work = some (within limit (.error late) work) := by
  cases work with
  | none => cases finished
  | some ending =>
      simp only [within] at finished ⊢
      split at finished
      · rename_i inTime
        rw [if_pos inTime]
      · cases finished

end Ending

namespace CallContext

variable {α : Type}

/-- Under a context work ends as it does by itself, or cancellation or the deadline takes its
place. -/
theorem run_cases
    (context : CallContext)
    (operation : String)
    (now : Nat)
    (work : Ending (Except TxError α)) :
    context.run operation now work = work
      ∨ ∃ error,
        (context.run operation now work).result = .error error ∧ error.isTransport = true := by
  rw [run]
  cases ran : context.run? operation now (some work) with
  | none => exact .inl rfl
  | some ending =>
      rw [Option.getD_some]
      unfold run? at ran
      split at ran
      · cases ran
        exact .inr ⟨_, rfl, rfl⟩
      · split at ran
        · rename_i atOnce
          cases ran
          exact .inl (Option.some.inj atOnce).symm
        · have member := Ending.earliest?_mem ran
          simp only [cancellation, deadline, List.mem_append, Option.mem_toList, Option.map_eq_some_iff,
            Option.some.injEq] at member
          rcases member with (⟨time, _, rfl⟩ | rfl) | ⟨limit, _, rfl⟩
          · exact .inr ⟨_, rfl, rfl⟩
          · exact .inl rfl
          · exact .inr ⟨_, rfl, rfl⟩

/-- Neither cancellation nor a deadline lets a call return: a result comes from its work. -/
theorem run_eq_of_ok
    {context : CallContext}
    {operation : String}
    {now : Nat}
    {work : Ending (Except TxError α)}
    {value : α}
    (finished : (context.run operation now work).result = .ok value) :
    context.run operation now work = work := by
  rcases context.run_cases operation now work with itself | ⟨error, failed, _⟩
  · exact itself
  · rw [failed] at finished
    cases finished

end CallContext

/-! ## Exchanges -/

theorem Call.wire_eq_of_returns_emit
    {level : Level}
    {message : String}
    {value : Unit}
    {before after : CallState}
    (returned : (Call.emit level message).Returns before value after) :
    after.wire = before.wire := by
  rw [Call.returns_emit_iff] at returned
  rw [← returned, CallState.wire, CallState.wire]

theorem Call.wire_eq_of_returns_record
    {measurement : Measurement}
    {value : Unit}
    {before after : CallState}
    (returned : (Call.record measurement).Returns before value after) :
    after.wire = before.wire := by
  rw [Call.returns_record_iff] at returned
  rw [← returned, CallState.wire, CallState.wire]

namespace CallState

variable {state : CallState} {url : Url} {request : Request}
  {ending : Ending (Except TxError HttpReply)}

theorem time_pos_of_deliver
    (delivered : (state.deliver url request).1 = some ending) :
    0 < ending.time :=
  Wire.lt_time_of_follow delivered

theorem isTransport_of_deliver
    {error : TxError}
    (delivered : (state.deliver url request).1 = some ending)
    (failed : ending.result = .error error) :
    error.isTransport = true :=
  Wire.isTransport_of_follow delivered failed

/-- What is delivered was answered on the wire, and who waited for it leaves the wire behind the
answer. -/
theorem served_of_deliver
    {time : Nat}
    {answer : HttpReply}
    (delivered : (state.deliver url request).1 = some ⟨time, .ok answer⟩) :
    Wire.Served url request state.wire answer (state.deliverFor time url request).wire := by
  have patient := Wire.follow_of_time_le delivered (Nat.le_refl time)
  rw [deliverFor, patient]
  exact Wire.servedWithin_of_follow delivered

end CallState

/-- An exchange ends as its work does under the context. If that is at the start it leaves everything
as it was, and otherwise what the client has made of the wire by then. -/
theorem Call.exchange_cases
    {context : CallContext}
    {operation : String}
    {limit : ExchangeLimit}
    {url : Url}
    {request : Request}
    {before after : CallState}
    {result : Except TxError HttpReply}
    (ran : (Call.exchange context operation limit url request).run.run before = (result, after)) :
    ∃ time,
      context.run operation before.clock
          (Ending.within limit.duration (.error limit.late) (before.deliver url request).1)
        = ⟨time, result⟩
        ∧ after
          = if time = 0 then before
            else { before.deliverFor time url request with clock := before.clock + time } := by
  simp only [exchange, ExceptT.run, StateT.run] at ran
  generalize context.run operation before.clock
    (Ending.within limit.duration (.error limit.late) (before.deliver url request).1) = ending at *
  obtain ⟨time, outcome⟩ := ending
  refine ⟨time, ?_⟩
  split at ran
  · rename_i atOnce
    cases ran
    exact ⟨rfl, (if_pos atOnce).symm⟩
  · rename_i later
    cases ran
    exact ⟨rfl, (if_neg later).symm⟩

/-- An exchange returns only what its request was answered, and leaves the wire behind that answer. -/
theorem Call.served_of_returns_exchange
    {context : CallContext}
    {operation : String}
    {limit : ExchangeLimit}
    {url : Url}
    {request : Request}
    {before after : CallState}
    {answer : HttpReply}
    (returned : (Call.exchange context operation limit url request).Returns before answer after) :
    Wire.Served url request before.wire answer after.wire := by
  obtain ⟨time, ended, rfl⟩ := Call.exchange_cases returned
  have work := CallContext.run_eq_of_ok (congrArg Ending.result ended)
  rw [ended] at work
  have delivered := Ending.within_eq_of_ok (congrArg Ending.result work.symm)
  rw [← work] at delivered
  rw [if_neg (Nat.ne_of_gt (CallState.time_pos_of_deliver delivered))]
  exact CallState.served_of_deliver delivered

theorem Call.not_returns_failAtOnce
    {α : Type}
    {context : CallContext}
    {operation : String}
    {error : TxError}
    {value : α}
    {before after : CallState} :
    ¬ (Call.failAtOnce context operation error : Call α).Returns before value after := by
  intro returned
  have finished :
      (context.run operation before.clock ⟨0, .error error⟩).result = (.ok value : Except TxError α) :=
    congrArg Prod.fst returned
  have work := CallContext.run_eq_of_ok finished
  rw [work] at finished
  cases finished

end ChainTx
