/-
# Timers, durations and what can go wrong with them

The nouns that every provider shares: an identifier handed out by
scheduling, the two kinds of timer, a duration, and the errors that the four
timer calls and the drains can end in.
-/
import PageTimers.Json.Basic

namespace PageTimers

/-- The identifier that the bundled providers hand out: 1, 2, 3, … -/
structure TimerId where
  value : Nat
deriving DecidableEq, Repr, Inhabited

/-- What a type of identifiers needs to be listed, logged and shown.  The
order is total; `display` is the bare text and `debug` the text that shows
the type as well. -/
class Identifier (ι : Type) where
  le : ι → ι → Bool
  display : ι → String
  debug : ι → String

instance : Identifier TimerId where
  le a b := a.value ≤ b.value
  display id := toString id.value
  debug id := s!"TimerId({id.value})"

/-- One-shot or repeating. -/
inductive TimerKind
  | once
  | repeating
deriving DecidableEq, Repr, Inhabited

namespace TimerKind

/-- The name under which a kind is stored and shown. -/
def name : TimerKind → String
  | once => "once"
  | repeating => "repeating"

/-- The text of a kind in a debugging view. -/
def debug : TimerKind → String
  | once => "Once"
  | repeating => "Repeating"

end TimerKind

/-- A span of time, to the nanosecond. -/
structure Duration where
  nanoseconds : Nat
deriving DecidableEq, Repr, Inhabited

namespace Duration

def ofMillis (ms : Nat) : Duration := ⟨ms * 1000000⟩

/-- Whole seconds. -/
def seconds (d : Duration) : Nat := d.nanoseconds / 1000000000

/-- The nanoseconds past the last whole second. -/
def subsecond (d : Duration) : Nat := d.nanoseconds % 1000000000

/-- The last instant a clock can show. -/
def lastInstant : Nat := word64 - 1

/-- Whole milliseconds, at most as many as a clock can show. -/
def millis (d : Duration) : Nat := min (d.nanoseconds / 1000000) lastInstant

end Duration

/-- A point in time moved on by a span, stopping at the last instant. -/
def saturatingAdd (instant span : Nat) : Nat := min (instant + span) Duration.lastInstant

/-- Why a timer call or a drain failed. -/
inductive TimerError
  /-- More callbacks came due in one drain than the limit allows. -/
  | stepLimitExceeded (limit : Nat)
  /-- There is nothing to run timers on. -/
  | runtimeUnavailable
  /-- The clock cannot be moved on that far. -/
  | clockOverflow (now delta : Nat)
deriving DecidableEq, Repr, Inhabited

/-- The text of a timer error. -/
def TimerError.message : TimerError → String
  | stepLimitExceeded limit =>
    s!"Timer step limit exceeded: more than {limit} callbacks ran in one drain"
  | runtimeUnavailable => "No async runtime available to schedule the timer on"
  | clockOverflow now delta => s!"Virtual clock overflow: {now}ms + {delta}ms"

/-- A timer that waits in a provider's queue, as its owner sees it. -/
structure PendingTimer (ι : Type) where
  id : ι
  kind : TimerKind
  dueAt : Nat
  /-- The period of a repeating timer. -/
  period : Option Nat
deriving DecidableEq, Repr

end PageTimers
