/-
# Page programs

What scripts on a page and the harness around it do: a finite tree of
actions.  Scheduling a timer carries the program of its callback along, so
a program may nest as deep as it likes.
-/
import PageTimers.Page.Basic

namespace PageTimers

/-- Which entry points a timer call goes through. -/
inductive Route
  /-- Those of the page: the interceptor, once it is installed. -/
  | page
  /-- The provider itself. -/
  | provider
deriving DecidableEq, Repr

/-- How a program refers to a timer. -/
inductive Target (ι : Type)
  | id (id : ι)
  /-- The last timer that was given this name. -/
  | named (name : String)
  /-- The timer whose callback this is. -/
  | self
deriving DecidableEq, Repr

mutual

/-- One thing that a program does. -/
inductive Action (ι : Type)
  | installInterceptor
  /-- Install the monitor that settings ask for, if they could be read. -/
  | installMonitor (settings : Except DecodeError CompletionSettings)
  | installProbes (probes : List Probe)
  /-- Schedule a timer, and give it a name. -/
  | schedule (route : Route) (kind : TimerKind) (delay : Duration) (name : Option String)
      (handler : Handler ι)
  | clear (route : Route) (kind : TimerKind) (target : Target ι)
  | drain (drain : Drain)
  | now
  | pending
  | setGlobal (name : String) (value : Json)
  | getGlobal (name : String)
  | removeGlobal (name : String)
  | setFlag (name : String) (raised : Bool)
  | completed
  | probeNames
  | outstanding
  | contains (target : Target ι)
  | describe
  | throw

/-- What a callback does.  Each firing has a list of actions of its own in
`ticks`, and beyond those there is `body`. -/
inductive Handler (ι : Type)
  | mk (quiet : Bool) (ticks : List (List (Action ι))) (body : List (Action ι))

end

namespace Handler

variable {ι : Type}

/-- Whether its firings are left out of the log. -/
def quiet : Handler ι → Bool
  | mk quiet _ _ => quiet

/-- What the callback does on a firing, counted from zero. -/
def actions : Handler ι → (count : Nat) → List (Action ι)
  | mk _ ticks body, count => ticks[count]?.getD body

/-- A callback that does nothing. -/
def idle : Handler ι := mk false [] []

end Handler

/-- What came of an action. -/
inductive Result (ι : Type)
  | done
  /-- Whether the interceptor was there before, and what is outstanding. -/
  | intercepted (before : Bool) (outstanding : List ι)
  /-- The probes in force. -/
  | monitored (probes : List String)
  /-- Settings that could not be read. -/
  | refused (error : DecodeError)
  /-- What the provider answered. -/
  | answered (result : Except TimerError (Answer ι))
  /-- No timer has the name, or there is no timer of one's own. -/
  | unresolved
  | instant (now : Nat)
  | waiting (timers : List (PendingTimer ι))
  | value (value : Option Json)
  | completion (completed : Bool) (asked : List Probe)
  | probes (names : Option (List String))
  /-- The outstanding timers: how many, whether none, in ascending order. -/
  | tracked (set : Option (Nat × Bool × List ι))
  | member (answer : Option Bool)
  /-- Debugging views of the provider and of the monitor. -/
  | views (provider : String) (monitor : Option String)

end PageTimers
