/-
# One task per timer

Timers on a runtime that gives each of them a task of its own.  Time is
kept to the nanosecond, but a sleeping task is woken on a whole millisecond,
the first one that is not before its deadline; tasks that wake together run
in the order in which they went to sleep.

A one-shot task leaves the table just before its callback runs.  The task
of a repeating timer that throws is dead but stays in the table until it is
cancelled, and cancelling it then answers that there was nothing to stop.
-/
import PageTimers.Provider.Basic

namespace PageTimers

namespace Duration

/-- No period is longer: thirty years. -/
def longestPeriod : Duration := ⟨86400 * 365 * 30 * 1000000000⟩

def shortestPeriod : Duration := .ofMillis 1

/-- A period within the bounds. -/
def asPeriod (d : Duration) : Duration :=
  ⟨max shortestPeriod.nanoseconds (min longestPeriod.nanoseconds d.nanoseconds)⟩

/-- Seconds that no point in time can be put off by. -/
def secondsBound : Nat := Nat.pow 2 63

/-- How long a task sleeps that is to sleep for `d`: as long as the longest
period where the end would be out of reach. -/
def asSleep (d : Duration) : Duration :=
  if d.seconds < secondsBound then d else longestPeriod

end Duration

structure Task (α : Type) where
  id : TimerId
  /-- In nanoseconds. -/
  deadline : Nat
  /-- Its place among the tasks that wake together. -/
  ticket : Nat
  period : Option Duration
  callback : α
  /-- How often its callback has run. -/
  runs : Nat
  /-- Whether it will ever wake again. -/
  alive : Bool
deriving Repr

namespace Task

variable {α : Type}

/-- The millisecond in which a task wakes. -/
def wakesAt (task : Task α) : Nat := (task.deadline + 999999) / 1000000

/-- Whether `s` runs before `t`, or is `t`. -/
def precedes (s t : Task α) : Bool :=
  s.wakesAt < t.wakesAt || (s.wakesAt == t.wakesAt && s.ticket ≤ t.ticket)

def earlier (s t : Task α) : Task α := if s.precedes t then s else t

def earliest? : List (Task α) → Option (Task α)
  | [] => none
  | t :: rest => some (rest.foldl earlier t)

end Task

structure TaskClock (α : Type) where
  /-- In milliseconds. -/
  now : Nat
  /-- The last identifier handed out. -/
  lastId : Nat
  lastTicket : Nat
  /-- The table of tasks, in no particular order. -/
  tasks : List (Task α)
deriving Repr

namespace TaskClock

variable {α ω : Type}

def fresh : TaskClock α := ⟨0, 0, 0, []⟩

/-- How many timers have a task in the table. -/
def active (clock : TaskClock α) : Nat := clock.tasks.length

/-- Start the task of a new timer. -/
def schedule (kind : TimerKind) (callback : α) (delay : Duration) (clock : TaskClock α) :
    TimerId × TaskClock α :=
  let id : TimerId := ⟨clock.lastId + 1⟩
  let period := match kind with
    | .once => none
    | .repeating => some delay.asPeriod
  let sleep := (period.getD delay).asSleep
  let deadline := clock.now * 1000000 + sleep.nanoseconds
  (id, { clock with
    lastId := clock.lastId + 1
    lastTicket := clock.lastTicket + 1
    tasks := ⟨id, deadline, clock.lastTicket + 1, period, callback, 0, true⟩ :: clock.tasks })

/-- Stop a task and take it out of the table.  The answer says whether it
would have woken again. -/
def cancel (id : TimerId) (clock : TaskClock α) : Bool × TaskClock α :=
  (clock.tasks.any fun task => task.id == id && task.alive,
    { clock with tasks := clock.tasks.filter (·.id != id) })

/-- What cancelling leaves in the journal. -/
def cancelEvent (kind : TimerKind) (id : TimerId) (found : Bool) : Event TimerId :=
  .taskCancelled id kind found

/-- Stop all tasks. -/
def stopAll (clock : TaskClock α) : TaskClock α := { clock with tasks := [] }

/-- The task that wakes next, if one does by the given time. -/
def next? (limit : Nat) (clock : TaskClock α) : Option (Task α) :=
  Task.earliest? (clock.tasks.filter fun task => task.alive && task.wakesAt ≤ limit)

/-- A task wakes: the clock shows the time, and a one-shot task leaves the
table. -/
def wake (task : Task α) (clock : TaskClock α) : TaskClock α :=
  { clock with
    now := max clock.now task.wakesAt
    tasks :=
      if task.period.isNone then clock.tasks.filter (·.ticket != task.ticket) else clock.tasks }

/-- What waking leaves in the journal. -/
def wakeEvent (task : Task α) : Event TimerId :=
  match task.period with
  | none => .timeoutWoke task.id
  | some _ => .intervalTicked task.id

/-- The deadline after the one at which a task with this period woke.  The
first tick sets the beat, on a whole millisecond. -/
def nextDeadline (task : Task α) (period : Duration) : Nat :=
  (if task.runs = 0 then task.wakesAt * 1000000 else task.deadline) + period.nanoseconds

/-- The callback of a task has ended: a repeating task goes back to sleep,
unless its callback threw. -/
def settle (task : Task α) (ended : Ended) (clock : TaskClock α) : TaskClock α :=
  match task.period with
  | none => clock
  | some period =>
    let after : Task α := match ended with
      | .thrown => { task with alive := false }
      | .returned =>
        { task with
          deadline := nextDeadline task period
          ticket := clock.lastTicket + 1
          runs := task.runs + 1 }
    { clock with
      lastTicket := clock.lastTicket + 1
      tasks := clock.tasks.map fun t => if t.ticket = task.ticket then after else t }

/-- A clock, what the callbacks made of the world, and the journal with the
latest event first. -/
structure Woken (α ω : Type) where
  clock : TaskClock α
  world : ω
  journal : List (Event TimerId)

/-- Run what wakes by the given time, at most `left` callbacks.  A callback
is told the time and how often it ran before. -/
def turns (call : α → (now count : Nat) → ω → Ended × ω) (limit : Nat) :
    (left : Nat) → TaskClock α → ω → List (Event TimerId) → Woken α ω
  | 0, clock, world, journal => ⟨clock, world, journal⟩
  | left + 1, clock, world, journal =>
    match clock.next? limit with
    | none => ⟨clock, world, journal⟩
    | some task =>
      let awake := clock.wake task
      let (ended, world) := call task.callback awake.now task.runs world
      turns call limit left (awake.settle task ended) world (wakeEvent task :: journal)

/-- No more callbacks than this can run by the given time: a task wakes at
most once a millisecond. -/
def turnsBound (limit : Nat) (clock : TaskClock α) : Nat :=
  clock.tasks.length * (limit - clock.now + 2)

/-- Let time pass, and run what wakes meanwhile. -/
def sleep (call : α → (now count : Nat) → ω → Ended × ω) (span : Nat) (clock : TaskClock α)
    (world : ω) (journal : List (Event TimerId)) : Woken α ω :=
  let limit := clock.now + span
  let woken := turns call limit (clock.turnsBound limit) clock world journal
  { woken with clock := { woken.clock with now := max woken.clock.now limit } }

end TaskClock

end PageTimers
