/-
# Providers of timers

A provider is a state machine.  It is asked one of five things, and each
answer is a `Move`: either the request is done, or a callback has to run
first.  In the second case the provider hands out a `Suspended` value, the
whole of what it will need to go on, and the callback runs with the provider
in the state of the move.  So a callback may itself ask the same provider,
and nothing about that is special.

Suspended requests are plain data, not functions: a statement about the
requests that are under way can look into them.
-/
import PageTimers.Event

namespace PageTimers

/-- The ways to let timers run. -/
inductive Drain
  /-- Move the clock on and run what comes due on the way. -/
  | advance (span : Duration)
  /-- Run what is due now. -/
  | runDue
  /-- Run until no timer waits. -/
  | flush
deriving DecidableEq, Repr

/-- What can be asked of a provider. -/
inductive Request (ι α : Type)
  | schedule (kind : TimerKind) (callback : α) (delay : Duration)
  | clear (kind : TimerKind) (id : ι)
  | drain (drain : Drain)
deriving Repr

/-- What a provider answers when all goes well. -/
inductive Answer (ι : Type)
  | scheduled (id : ι)
  /-- Whether the timer was there to be cancelled. -/
  | cleared (found : Bool)
  /-- How many callbacks a drain ran. -/
  | ran (count : Nat)
deriving DecidableEq, Repr

/-- How a callback came to its end. -/
inductive Ended
  | returned
  | thrown
deriving DecidableEq, Repr

/-- One run of a callback: for which timer, and how often it ran before. -/
structure Firing (ι α : Type) where
  id : Option ι
  callback : α
  count : Nat
deriving Repr

/-- Where a request stands after a move. -/
inductive Outcome (κ ι α : Type)
  | answer (result : Except TimerError (Answer ι))
  /-- Run this callback, then resume. -/
  | invoke (firing : Firing ι α) (suspended : κ)
  /-- What the callback threw goes on to whoever asked. -/
  | rethrow

/-- One move of a provider: what it journals, the state it is in now, and
where the request stands. -/
structure Move (σ κ ι α : Type) where
  events : List (Event ι)
  state : σ
  outcome : Outcome κ ι α

/-- A provider with states `σ`, suspended requests `κ`, identifiers `ι` and
callbacks `α`. -/
structure Provider (σ κ ι α : Type) where
  /-- A request is made. -/
  ask : Request ι α → σ → Move σ κ ι α
  /-- The callback of a suspended request has ended. -/
  resume : κ → Ended → σ → Move σ κ ι α
  /-- What the clock shows. -/
  now : σ → Nat
  /-- The timers that wait, in the order in which they would fire. -/
  pending : σ → List (PendingTimer ι)
  /-- The debugging view. -/
  describe : σ → String

end PageTimers
