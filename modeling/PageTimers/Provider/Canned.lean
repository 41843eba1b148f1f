/-
# A provider with canned answers

It answers whatever it was told to answer, and runs the callback while it is
still scheduling: once for a one-shot timer, twice for a repeating one.  It
shows that nothing around a provider relies on the provider being sensible.
-/
import PageTimers.Provider.Basic

namespace PageTimers

/-- A timer call as a provider sees it. -/
inductive TimerCall (ι : Type)
  | schedule (kind : TimerKind) (delay : Duration)
  | clear (kind : TimerKind) (id : ι)
deriving DecidableEq, Repr

structure Canned (ι : Type) where
  /-- The answer to whatever is asked next. -/
  reply : Except TimerError (Answer ι)
  /-- The calls so far, the latest first. -/
  calls : List (TimerCall ι)

namespace Canned

variable {ι α : Type}

/-- How often the callback runs while a timer is being scheduled. -/
def rehearsals : TimerKind → Nat
  | .once => 1
  | .repeating => 2

/-- A schedule call whose callback runs. -/
structure UnderWay (α : Type) where
  callback : α
  ran : Nat
  /-- How often the callback is still to run. -/
  left : Nat

/-- Run the callback as often as is left, then answer. -/
def proceed (callback : α) (ran left : Nat) (state : Canned ι) :
    Move (Canned ι) (UnderWay α) ι α :=
  match left with
  | 0 => ⟨[], state, .answer state.reply⟩
  | left + 1 => ⟨[], state, .invoke ⟨none, callback, ran⟩ ⟨callback, ran + 1, left⟩⟩

def ask (request : Request ι α) (state : Canned ι) : Move (Canned ι) (UnderWay α) ι α :=
  match request with
  | .schedule kind callback delay =>
    proceed callback 0 (rehearsals kind)
      { state with calls := .schedule kind delay :: state.calls }
  | .clear kind id =>
    let state := { state with calls := .clear kind id :: state.calls }
    ⟨[], state, .answer state.reply⟩
  | .drain _ => ⟨[], state, .answer state.reply⟩

def resume (call : UnderWay α) (ended : Ended) (state : Canned ι) :
    Move (Canned ι) (UnderWay α) ι α :=
  match ended with
  | .returned => proceed call.callback call.ran call.left state
  | .thrown => ⟨[], state, .rethrow⟩

/-- The provider; it has no clock and keeps no timer. -/
def provider : Provider (Canned ι) (UnderWay α) ι α where
  ask := ask
  resume := resume
  now _ := 0
  pending _ := []
  describe _ := "Canned"

end Canned

end PageTimers
