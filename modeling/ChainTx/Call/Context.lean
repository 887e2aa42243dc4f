import ChainTx.Error

/-!
Contract: calls that can be cancelled and that have a deadline.

Owns:
- endings of work, that is, a result and the time at which it is there; work that never ends has
  none;
- contexts: when the caller cancels, and how long a call may take;
- what becomes of work under a context. The earliest of cancellation, work and deadline decides. A
  context that is cancelled beforehand does not let the work start, and work that is ready at once
  is done whatever the deadline.

Times are counted in nanoseconds; a deadline strikes after whole milliseconds.
-/

set_option autoImplicit false

namespace ChainTx

/-- A result and the time after the start at which it is there. -/
structure Ending (α : Type) where
  time : Nat
  result : α
deriving DecidableEq, Repr

namespace Ending

/-- The earliest of some endings; of several at one time the first in the list. -/
def earliest? {α : Type} : List (Ending α) → Option (Ending α)
  | [] => none
  | ending :: rest =>
      match earliest? rest with
      | none => some ending
      | some other => if other.time < ending.time then some other else some ending

/-- The ending of work that a timer cuts off with a result of its own. -/
def within {α : Type} (limit : Duration) (late : α) (work : Option (Ending α)) : Ending α :=
  let timer : Ending α := ⟨limit.timerMilliseconds * 1000000, late⟩
  match work with
  | none => timer
  | some ending =>
      if ending.time = 0 ∨ ending.time ≤ timer.time then ending else timer

end Ending

structure CallContext where
  /-- The time on the clock at which the caller cancels. -/
  cancelsAt : Option Nat
  timeout : Option Duration
deriving DecidableEq, Repr

namespace CallContext

/-- Never cancelled, no deadline. -/
def background : CallContext := ⟨none, none⟩

def withTimeout (timeout : Duration) : CallContext := ⟨none, some timeout⟩

/-- True when the caller has cancelled at a time. -/
def isCancelledAt (context : CallContext) (now : Nat) : Bool :=
  match context.cancelsAt with
  | some time => time ≤ now
  | none => false

/-- The ending by cancellation, for a call that starts now. -/
def cancellation {α : Type} (context : CallContext) (operation : String) (now : Nat) :
    Option (Ending (Except TxError α)) :=
  context.cancelsAt.map fun time => ⟨time - now, .error (.cancelled operation)⟩

def deadline {α : Type} (context : CallContext) (operation : String) :
    Option (Ending (Except TxError α)) :=
  context.timeout.map fun limit =>
    ⟨limit.timerMilliseconds * 1000000, .error (.timeout operation limit)⟩

/-- The ending of a call that starts now; none if nothing ever ends it. -/
def run? {α : Type} (context : CallContext) (operation : String) (now : Nat)
    (work : Option (Ending (Except TxError α))) : Option (Ending (Except TxError α)) :=
  if context.isCancelledAt now then some ⟨0, .error (.cancelled operation)⟩
  else
    match work with
    | some ⟨0, result⟩ => some ⟨0, result⟩
    | work =>
        Ending.earliest?
          ((context.cancellation operation now).toList ++ work.toList
            ++ (context.deadline operation).toList)

/-- The ending of a call whose work is sure to end. -/
def run {α : Type} (context : CallContext) (operation : String) (now : Nat)
    (work : Ending (Except TxError α)) : Ending (Except TxError α) :=
  (context.run? operation now (some work)).getD work

end CallContext

end ChainTx
