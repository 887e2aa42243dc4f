import ChainTx.Proofs.Call.Runs

/-!
Contract: operations that run one after another under one context.

Owns:
- operations, the spans of time that they take under a context, and runs of several in turn, where
  each one starts when the one before it has ended;
- what it would mean for the deadline to bound such a chain;
- the law of one operation: it takes its own time, cut off by the deadline and by cancellation;
- the law of a chain: the times of its operations, each cut off by the deadline of its own, add up
  until the context is cancelled.

Does not own: which operations a program runs.

## Why the times add up

A context keeps the length of its deadline and not the time at which it began. Each operation
therefore starts a timer of the full length, whatever the operations before it have used of it. A
copy of a context has the same deadline and is cancelled with it, so it does not matter which copy
runs what.
-/

set_option autoImplicit false

namespace ChainTx

/-- The nanoseconds after which a timer of this length has run out: whole milliseconds. -/
def Duration.timerNanoseconds (duration : Duration) : Nat :=
  duration.timerMilliseconds * 1000000

/-- Work with a name, as it is run under a context. -/
structure Operation (α : Type) where
  name : String
  /-- How the work ends by itself; none if it never does. -/
  work : Option (Ending (Except TxError α))

namespace Operation

variable {α : Type}

/-- The time that an operation takes if a timer cuts it off and nobody cancels it. -/
def timeWithin (timer : Nat) (operation : Operation α) : Nat :=
  operation.work.elim timer fun own => min own.time timer

/-- The time that operations take one after another, each with a timer of its own. -/
def totalWithin (timer : Nat) : List (Operation α) → Nat
  | [] => 0
  | operation :: rest => operation.timeWithin timer + totalWithin timer rest

private theorem timeWithin_le
    (timer : Nat)
    (operation : Operation α) :
    operation.timeWithin timer ≤ timer := by
  rw [timeWithin]
  cases operation.work with
  | none => exact Nat.le_refl timer
  | some own => exact Nat.min_le_right own.time timer

theorem totalWithin_le
    (timer : Nat)
    (operations : List (Operation α)) :
    totalWithin timer operations ≤ operations.length * timer := by
  induction operations with
  | nil => exact Nat.zero_le _
  | cons operation rest inductionHypothesis =>
      rw [totalWithin, List.length_cons, Nat.succ_mul, Nat.add_comm]
      exact Nat.add_le_add inductionHypothesis (operation.timeWithin_le timer)

end Operation

/-- An operation, when it started, and how it ended. -/
structure Span (α : Type) where
  operation : Operation α
  start : Nat
  ending : Ending (Except TxError α)

namespace Span

variable {α : Type}

def finish (span : Span α) : Nat :=
  span.start + span.ending.time

/-- The time from the start of the first to the end of the last of spans that follow each other. -/
def elapsed : List (Span α) → Nat
  | [] => 0
  | span :: rest => span.ending.time + elapsed rest

theorem elapsed_append (first second : List (Span α)) :
    elapsed (first ++ second) = elapsed first + elapsed second := by
  induction first with
  | nil => exact (Nat.zero_add _).symm
  | cons span rest inductionHypothesis =>
      rw [List.cons_append, elapsed, elapsed, inductionHypothesis, Nat.add_assoc]

/-- At this time the operation has not been cancelled, and its work is not there yet. -/
def UnfinishedAt (context : CallContext) (time : Nat) (span : Span α) : Prop :=
  context.isCancelledAt time = false
    ∧ ∀ own, span.operation.work = some own → time < span.start + own.time

end Span

namespace CallContext

variable {α : Type}

/-- Runs operations one after another, whatever comes of each; none if one of them never ends. -/
def runInTurn? (context : CallContext) : Nat → List (Operation α) → Option (List (Span α))
  | _, [] => some []
  | now, operation :: rest => do
      let ending ← context.run? operation.name now operation.work
      let spans ← runInTurn? context (now + ending.time) rest
      some (⟨operation, now, ending⟩ :: spans)

/-- The deadline bounds a chain of operations as a whole. It is over when the deadline has passed
since its start, and what is unfinished then ends as timed out. -/
structure DeadlineBounds (context : CallContext) (limit : Duration) (start : Nat)
    (spans : List (Span α)) : Prop where
  elapsed_le : Span.elapsed spans ≤ limit.timerNanoseconds
  timeout_of_unfinished : ∀ span ∈ spans,
    span.UnfinishedAt context (start + limit.timerNanoseconds) →
    span.ending.result = .error (.timeout span.operation.name limit)

/-- A length of time from now, cut off when the context is cancelled. -/
def capAt (context : CallContext) (now duration : Nat) : Nat :=
  match context.cancelsAt with
  | none => duration
  | some time => min duration (time - now)

end CallContext

/-! ## The earliest of some endings -/

namespace Ending

variable {α : Type}

theorem map_time_earliest? (endings : List (Ending α)) :
    (earliest? endings).map time = (endings.map time).min? := by
  induction endings with
  | nil => rfl
  | cons first rest inductionHypothesis =>
      rw [earliest?, List.map_cons, List.min?_cons, ← inductionHypothesis]
      cases earliest? rest with
      | none => rfl
      | some other =>
          simp only [Option.map_some, Option.elim_some]
          split
          · rename_i earlier
            rw [Nat.min_eq_right (Nat.le_of_lt earlier), Option.map_some]
          · rename_i notEarlier
            rw [Nat.min_eq_left (Nat.le_of_not_lt notEarlier), Option.map_some]

end Ending

namespace CallContext

variable {α : Type} {context : CallContext} {limit : Duration}

/-! ## Cancellation cuts time off -/

private theorem capAt_zero (now : Nat) :
    context.capAt now 0 = 0 := by
  unfold capAt
  split
  · rfl
  · exact Nat.zero_min _

/-- What is left of the time behind a first part is cut off where the whole is. -/
theorem capAt_add (now first second : Nat) :
    context.capAt now (first + second)
      = context.capAt now first + context.capAt (now + context.capAt now first) second := by
  unfold capAt
  cases context.cancelsAt with
  | none => rfl
  | some time =>
      simp only
      omega

theorem capAt_le_iff (now duration bound : Nat) :
    context.capAt now duration ≤ bound
      ↔ duration ≤ bound ∨ context.isCancelledAt (now + bound) = true := by
  unfold capAt isCancelledAt
  cases context.cancelsAt with
  | none => simp
  | some time =>
      simp only [decide_eq_true_eq]
      omega

private theorem isCancelledAt_of_le
    {earlier later : Nat}
    (le : earlier ≤ later)
    (uncancelled : context.isCancelledAt later = false) :
    context.isCancelledAt earlier = false := by
  cases cancels : context.cancelsAt with
  | none => rw [isCancelledAt, cancels]
  | some time =>
      simp only [isCancelledAt, cancels, decide_eq_false_iff_not] at uncancelled ⊢
      omega

/-! ## One operation -/

/-- Unless the context is cancelled or the work is there at once, the earliest of cancellation, work
and deadline decides. -/
theorem run?_eq_earliest?
    {operation : String}
    {now : Nat}
    {work : Option (Ending (Except TxError α))}
    (uncancelled : context.isCancelledAt now = false)
    (later : ∀ own, work = some own → own.time ≠ 0) :
    context.run? operation now work
      = Ending.earliest?
          ((context.cancellation operation now).toList ++ work.toList
            ++ (context.deadline operation).toList) := by
  unfold run?
  rw [if_neg (ne_true_of_eq_false uncancelled)]
  split
  · exact absurd rfl (later _ rfl)
  · rfl

/-- Work that is sure to end ends under every context. -/
theorem run?_eq_some_run
    (operation : String)
    (now : Nat)
    (work : Ending (Except TxError α)) :
    context.run? operation now (some work) = some (context.run operation now work) := by
  cases ran : context.run? operation now (some work) with
  | none =>
      unfold run? at ran
      split at ran
      · cases ran
      · split at ran
        · cases ran
        · have missing := (Ending.map_time_earliest? _).symm.trans (congrArg _ ran)
          simp at missing
  | some ending => rw [run, ran, Option.getD_some]

private theorem deadline_of_timeout
    (bounded : context.timeout = some limit)
    (operation : String) :
    context.deadline operation
      = some (⟨limit.timerNanoseconds, .error (.timeout operation limit)⟩ :
          Ending (Except TxError α)) := by
  rw [deadline, bounded, Option.map_some, Duration.timerNanoseconds]

/-- The least of the times at which cancellation, work and a timer are there. -/
theorem min?_times
    (operation : Operation α)
    (now : Nat)
    (timer : Ending (Except TxError α)) :
    (((context.cancellation operation.name now).toList ++ operation.work.toList
        ++ (some timer).toList).map Ending.time).min?
      = some (context.capAt now (operation.timeWithin timer.time)) := by
  unfold cancellation capAt Operation.timeWithin
  cases context.cancelsAt <;> cases operation.work <;>
    simp [List.min?_cons, Nat.min_comm, Nat.min_left_comm]

/-- An operation takes its own time, cut off by the deadline and by cancellation. -/
theorem map_time_run?
    (bounded : context.timeout = some limit)
    (operation : Operation α)
    (now : Nat) :
    (context.run? operation.name now operation.work).map Ending.time
      = some (context.capAt now (operation.timeWithin limit.timerNanoseconds)) := by
  by_cases cancelled : context.isCancelledAt now = true
  · have nothing : context.capAt now (operation.timeWithin limit.timerNanoseconds) = 0 :=
      Nat.le_zero.mp ((capAt_le_iff now _ 0).mpr (.inr cancelled))
    unfold run?
    rw [if_pos cancelled, nothing, Option.map_some]
  · by_cases later : ∀ own, operation.work = some own → own.time ≠ 0
    · rw [run?_eq_earliest? (eq_false_of_ne_true cancelled) later, Ending.map_time_earliest?,
        deadline_of_timeout bounded, min?_times]
    · simp only [Classical.not_forall, Decidable.not_not, exists_prop, ne_eq] at later
      obtain ⟨⟨_, result⟩, works, rfl⟩ := later
      unfold run?
      rw [if_neg cancelled, Operation.timeWithin, works, Option.elim_some, Nat.zero_min, capAt_zero]
      rfl

/-- An operation that ends neither by its work nor by cancellation ends as timed out. -/
theorem timeout_of_run?
    (bounded : context.timeout = some limit)
    {operation : Operation α}
    {now : Nat}
    {ending : Ending (Except TxError α)}
    (ran : context.run? operation.name now operation.work = some ending)
    (uncancelled : context.isCancelledAt (now + ending.time) = false)
    (unfinished : ∀ own, operation.work = some own → ending.time < own.time) :
    ending.result = .error (.timeout operation.name limit) := by
  have uncancelledNow := isCancelledAt_of_le (Nat.le_add_right now ending.time) uncancelled
  have later : ∀ own, operation.work = some own → own.time ≠ 0 :=
    fun own works => Nat.ne_zero_of_lt (unfinished own works)
  rw [run?_eq_earliest? uncancelledNow later] at ran
  have member := Ending.earliest?_mem ran
  simp only [cancellation, deadline, List.mem_append, Option.mem_toList, Option.map_eq_some_iff]
    at member
  rcases member with (⟨time, cancels, rfl⟩ | works) | ⟨_, deadlined, rfl⟩
  · simp only [isCancelledAt, cancels, decide_eq_false_iff_not] at uncancelled
    omega
  · exact absurd (unfinished _ works) (Nat.lt_irrefl _)
  · rw [bounded] at deadlined
    cases deadlined
    rfl

/-! ## Operations in turn -/

theorem runInTurn?_cons_eq_some_iff
    {start : Nat}
    {operation : Operation α}
    {rest : List (Operation α)}
    {spans : List (Span α)} :
    context.runInTurn? start (operation :: rest) = some spans
      ↔ ∃ ending restSpans,
        context.run? operation.name start operation.work = some ending
          ∧ context.runInTurn? (start + ending.time) rest = some restSpans
          ∧ ⟨operation, start, ending⟩ :: restSpans = spans := by
  simp only [runInTurn?, Option.bind_eq_bind, Option.bind_eq_some_iff, Option.some.injEq,
    exists_and_left]

/-- Under a context with a deadline a chain of operations ends. Their times add up, each cut off by
a deadline of its own, until the context is cancelled. -/
theorem exists_runInTurn?
    (bounded : context.timeout = some limit)
    (start : Nat)
    (operations : List (Operation α)) :
    ∃ spans,
      context.runInTurn? start operations = some spans
        ∧ spans.map Span.operation = operations
        ∧ Span.elapsed spans
          = context.capAt start (Operation.totalWithin limit.timerNanoseconds operations) := by
  induction operations generalizing start with
  | nil => exact ⟨[], rfl, rfl, (capAt_zero start).symm⟩
  | cons operation rest inductionHypothesis =>
      obtain ⟨ending, ran, time⟩ :=
        Option.map_eq_some_iff.mp (map_time_run? bounded operation start)
      obtain ⟨spans, restRan, restOperations, restElapsed⟩ :=
        inductionHypothesis (start + ending.time)
      refine ⟨⟨operation, start, ending⟩ :: spans, ?_, ?_, ?_⟩
      · exact runInTurn?_cons_eq_some_iff.mpr ⟨ending, spans, ran, restRan, rfl⟩
      · rw [List.map_cons, restOperations]
      · rw [Span.elapsed, restElapsed, time, Operation.totalWithin, capAt_add]

/-- Each operation of a chain ends as it does under the context, and before the chain is over. -/
theorem run?_of_mem_runInTurn?
    {start : Nat}
    {operations : List (Operation α)}
    {spans : List (Span α)}
    (ran : context.runInTurn? start operations = some spans)
    {span : Span α}
    (member : span ∈ spans) :
    context.run? span.operation.name span.start span.operation.work = some span.ending
      ∧ span.finish ≤ start + Span.elapsed spans := by
  induction operations generalizing start spans with
  | nil =>
      cases ran
      cases member
  | cons operation rest inductionHypothesis =>
      obtain ⟨ending, restSpans, headRan, restRan, rfl⟩ := runInTurn?_cons_eq_some_iff.mp ran
      rw [Span.elapsed, ← Nat.add_assoc]
      rcases List.mem_cons.mp member with rfl | inRest
      · exact ⟨headRan, Nat.le_add_right _ _⟩
      · exact inductionHypothesis restRan inRest

/-- What runs after a chain starts when the chain is over. -/
theorem runInTurn?_append
    {start : Nat}
    {first second : List (Operation α)}
    {firstSpans secondSpans : List (Span α)}
    (firstRan : context.runInTurn? start first = some firstSpans)
    (secondRan : context.runInTurn? (start + Span.elapsed firstSpans) second = some secondSpans) :
    context.runInTurn? start (first ++ second) = some (firstSpans ++ secondSpans) := by
  induction first generalizing start firstSpans with
  | nil =>
      cases firstRan
      exact secondRan
  | cons operation rest inductionHypothesis =>
      obtain ⟨ending, restSpans, headRan, restRan, rfl⟩ := runInTurn?_cons_eq_some_iff.mp firstRan
      rw [Span.elapsed, ← Nat.add_assoc] at secondRan
      exact runInTurn?_cons_eq_some_iff.mpr
        ⟨ending, _, headRan, inductionHypothesis restRan secondRan, rfl⟩

/-- A chain that is over when the deadline has passed is bounded by it: what is unfinished then has
waited for its own deadline, which is the same. -/
theorem deadlineBounds_iff_elapsed_le
    (bounded : context.timeout = some limit)
    {start : Nat}
    {operations : List (Operation α)}
    {spans : List (Span α)}
    (ran : context.runInTurn? start operations = some spans) :
    context.DeadlineBounds limit start spans
      ↔ Span.elapsed spans ≤ limit.timerNanoseconds := by
  constructor
  · exact DeadlineBounds.elapsed_le
  · intro inTime
    refine ⟨inTime, ?_⟩
    rintro span member ⟨uncancelled, unfinished⟩
    obtain ⟨runs, finished⟩ := run?_of_mem_runInTurn? ran member
    have byDeadline : span.start + span.ending.time ≤ start + limit.timerNanoseconds :=
      Nat.le_trans finished (Nat.add_le_add_left inTime start)
    apply timeout_of_run? bounded runs
    · exact isCancelledAt_of_le byDeadline uncancelled
    · intro own works
      have notYet := unfinished own works
      omega

end CallContext

end ChainTx
