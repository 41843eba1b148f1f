/-
# The virtual clock

Nothing fires by itself: timers wait in a queue until a drain takes them
out, one after the other, by due time and then in the order in which they
were put in.  The clock jumps to the due time of each timer it starts and
never runs back.

A timer is out of the queue while its callback runs.  For a repeating timer
the `running` slot remembers whether it was cancelled meanwhile; if not, it
goes back into the queue one period after the time it was due (not after
the time it ran), with a new place in the order.
-/
import PageTimers.Provider.Basic

namespace PageTimers

/-- A timer that waits. -/
structure QueuedTimer (α : Type) where
  id : TimerId
  dueAt : Nat
  /-- Its place among the timers due at the same time. -/
  order : Nat
  /-- The period of a repeating timer. -/
  period : Option Nat
  callback : α
  /-- How often it has fired. -/
  runs : Nat
deriving Repr

namespace QueuedTimer

variable {α : Type}

def kind (timer : QueuedTimer α) : TimerKind :=
  match timer.period with
  | none => .once
  | some _ => .repeating

/-- Whether `s` fires before `t`, or is `t`. -/
def precedes (s t : QueuedTimer α) : Bool :=
  s.dueAt < t.dueAt || (s.dueAt == t.dueAt && s.order ≤ t.order)

/-- Whether a timer is due by a deadline; without one, every timer is. -/
def isDue (deadline : Option Nat) (timer : QueuedTimer α) : Bool :=
  match deadline with
  | none => true
  | some limit => timer.dueAt ≤ limit

/-- The one of two timers that fires first. -/
def earlier (s t : QueuedTimer α) : QueuedTimer α := if s.precedes t then s else t

/-- The timer of a list that fires first. -/
def earliest? : List (QueuedTimer α) → Option (QueuedTimer α)
  | [] => none
  | t :: rest => some (rest.foldl earlier t)

/-- The timer as its owner sees it. -/
def toPending (timer : QueuedTimer α) : PendingTimer TimerId :=
  ⟨timer.id, timer.kind, timer.dueAt, timer.period⟩

def firing (timer : QueuedTimer α) : Firing TimerId α :=
  ⟨some timer.id, timer.callback, timer.runs⟩

end QueuedTimer

/-- The timer whose callback runs. -/
structure Running where
  id : TimerId
  kind : TimerKind
  /-- Whether it was cancelled since it was started. -/
  cancelled : Bool
deriving DecidableEq, Repr

structure VirtualClock (α : Type) where
  now : Nat
  /-- The last identifier handed out. -/
  lastId : Nat
  /-- The last place in the order handed out. -/
  lastOrder : Nat
  /-- The timers that wait, in no particular order. -/
  queue : List (QueuedTimer α)
  running : Option Running
deriving Repr

namespace VirtualClock

variable {α : Type}

/-- The clock at time zero, without timers. -/
def fresh : VirtualClock α := ⟨0, 0, 0, [], none⟩

/-! ## Scheduling and cancelling -/

/-- Put a timer into the queue, behind all that are due at the same time. -/
def push (id : TimerId) (dueAt : Nat) (period : Option Nat) (callback : α) (runs : Nat)
    (clock : VirtualClock α) : VirtualClock α :=
  { clock with
    lastOrder := clock.lastOrder + 1
    queue := ⟨id, dueAt, clock.lastOrder + 1, period, callback, runs⟩ :: clock.queue }

/-- The period kept for a delay.  A repeating timer has at least one
millisecond, or one instant would never end. -/
def periodOf (kind : TimerKind) (delay : Duration) : Option Nat :=
  match kind with
  | .once => none
  | .repeating => some (max delay.millis 1)

/-- Hand out the next identifier and queue a timer under it. -/
def schedule (kind : TimerKind) (callback : α) (delay : Duration) (clock : VirtualClock α) :
    TimerId × VirtualClock α :=
  let id : TimerId := ⟨clock.lastId + 1⟩
  let period := periodOf kind delay
  let dueAt := saturatingAdd clock.now (period.getD delay.millis)
  (id, push id dueAt period callback 0 { clock with lastId := clock.lastId + 1 })

/-- Whether cancelling `id` stops the running timer: it has to be that one,
repeating and not cancelled yet. -/
def stopsRunning (id : TimerId) (clock : VirtualClock α) : Bool :=
  match clock.running with
  | none => false
  | some running => running.id == id && running.kind == .repeating && !running.cancelled

/-- Take a timer out of the queue, or note that the running one is not to
come back.  The answer says whether there was anything to stop. -/
def cancel (id : TimerId) (clock : VirtualClock α) : Bool × VirtualClock α :=
  let stops := clock.stopsRunning id
  (clock.queue.any (·.id == id) || stops,
    { clock with
      queue := clock.queue.filter (·.id != id)
      running := if stops then clock.running.map ({ · with cancelled := true })
        else clock.running })

/-! ## Firing -/

/-- The timer that fires next, if one is due by the deadline. -/
def next? (deadline : Option Nat) (clock : VirtualClock α) : Option (QueuedTimer α) :=
  QueuedTimer.earliest? (clock.queue.filter (·.isDue deadline))

/-- The timers that wait, in the order in which they would fire. -/
def pending (clock : VirtualClock α) : List (QueuedTimer α) :=
  clock.queue.mergeSort QueuedTimer.precedes

/-- Take a timer out of the queue and let the clock show its time. -/
def start (timer : QueuedTimer α) (clock : VirtualClock α) : VirtualClock α :=
  { clock with
    now := max clock.now timer.dueAt
    queue := clock.queue.filter (·.order != timer.order)
    running := some ⟨timer.id, timer.kind, false⟩ }

/-- Nothing runs any more. -/
def rest (clock : VirtualClock α) : VirtualClock α := { clock with running := none }

/-- Whether the running timer was cancelled. -/
def wasCancelled (clock : VirtualClock α) : Bool :=
  match clock.running with
  | none => false
  | some running => running.cancelled

/-- The callback of a timer has returned: a repeating timer that was not
cancelled waits for its next turn. -/
def finish (timer : QueuedTimer α) (clock : VirtualClock α) : VirtualClock α :=
  match timer.period with
  | none => clock.rest
  | some period =>
    if clock.wasCancelled then clock.rest
    else clock.rest.push timer.id (saturatingAdd timer.dueAt period) (some period)
      timer.callback (timer.runs + 1)

/-! ## Drains -/

/-- What a drain is after. -/
inductive Goal
  | advance (delta target : Nat)
  | runDue (now : Nat)
  | flush
deriving DecidableEq, Repr

namespace Goal

/-- Only timers due by then are run. -/
def deadline : Goal → Option Nat
  | advance _ target => some target
  | runDue now => some now
  | flush => none

/-- The goal of a drain that begins now.  Time ends at the last instant. -/
def of (drain : Drain) (now : Nat) : Except TimerError Goal :=
  match drain with
  | .advance span =>
    if now + span.millis < word64 then .ok (advance span.millis (now + span.millis))
    else .error (.clockOverflow now span.millis)
  | .runDue => .ok (runDue now)
  | .flush => .ok flush

end Goal

/-- Nothing is left to run: a clock that was to be moved on shows its goal,
or what it shows already if a callback took it further. -/
def reach (goal : Goal) (clock : VirtualClock α) : VirtualClock α :=
  match goal with
  | .advance _ target => { clock with now := max clock.now target }
  | .runDue _ => clock
  | .flush => clock

/-- What the end of a drain leaves in the journal. -/
def reachEvents (goal : Goal) (ran : Nat) (clock : VirtualClock α) : List (Event TimerId) :=
  match goal with
  | .advance delta target => [.advanced delta (max clock.now target) ran]
  | .runDue _ => []
  | .flush => []

/-- What the start of a timer leaves in the journal. -/
def startEvent (timer : QueuedTimer α) (clock : VirtualClock α) : Event TimerId :=
  .fired timer.id timer.kind (max clock.now timer.dueAt)

/-- A drain that waits for a callback. -/
structure UnderWay (α : Type) where
  goal : Goal
  /-- How many more callbacks it may run. -/
  left : Nat
  /-- How many it has started. -/
  ran : Nat
  /-- The timer whose callback runs. -/
  timer : QueuedTimer α
deriving Repr

/-- One turn of a drain: start the next timer, stop at the limit, or be
done. -/
def proceed (goal : Goal) (left ran : Nat) (clock : VirtualClock α) :
    Move (VirtualClock α) (UnderWay α) TimerId α :=
  match clock.next? goal.deadline with
  | none => ⟨reachEvents goal ran clock, clock.reach goal, .answer (.ok (.ran ran))⟩
  | some timer =>
    match left with
    | 0 => ⟨[], clock, .answer (.error (.stepLimitExceeded ran))⟩
    | left + 1 =>
      ⟨[startEvent timer clock], clock.start timer,
        .invoke timer.firing ⟨goal, left, ran + 1, timer⟩⟩

/-- The least limit is one callback. -/
def clampLimit (limit : Nat) : Nat := max limit 1

def ask (limit : Nat) (request : Request TimerId α) (clock : VirtualClock α) :
    Move (VirtualClock α) (UnderWay α) TimerId α :=
  match request with
  | .schedule kind callback delay =>
    let (id, clock) := clock.schedule kind callback delay
    ⟨[], clock, .answer (.ok (.scheduled id))⟩
  | .clear _ id =>
    let (found, clock) := clock.cancel id
    ⟨[], clock, .answer (.ok (.cleared found))⟩
  | .drain drain =>
    match Goal.of drain clock.now with
    | .error e => ⟨[], clock, .answer (.error e)⟩
    | .ok goal => proceed goal (clampLimit limit) 0 clock

/-- A callback that throws ends the drain that runs it, and its timer is
gone. -/
def resume (drain : UnderWay α) (ended : Ended) (clock : VirtualClock α) :
    Move (VirtualClock α) (UnderWay α) TimerId α :=
  match ended with
  | .returned => proceed drain.goal drain.left drain.ran (clock.finish drain.timer)
  | .thrown => ⟨[], clock.rest, .rethrow⟩

/-- The debugging view of a clock. -/
def describe (limit : Nat) (clock : VirtualClock α) : String :=
  "VirtualTimerProvider \x7b now_ms: " ++ toString clock.now ++
    ", pending: " ++ toString clock.queue.length ++
    ", step_limit: " ++ toString (clampLimit limit) ++ " \x7d"

/-- The virtual clock as a provider.  `limit` is the number of callbacks
that one drain may run. -/
def provider (limit : Nat) : Provider (VirtualClock α) (UnderWay α) TimerId α where
  ask := ask limit
  resume := resume
  now := (·.now)
  pending clock := clock.pending.map (·.toPending)
  describe := describe limit

/-! ## Draining with callbacks that leave the clock alone -/

/-- How a drain came out: the clock, what the callbacks made of the world,
the journal with the latest event first, and the answer. -/
structure Drained (α ω : Type) where
  clock : VirtualClock α
  world : ω
  journal : List (Event TimerId)
  result : Except TimerError Nat

/-- Turn after turn of a drain whose callbacks act on a world of their own. -/
def turns {ω : Type} (call : α → ω → ω) (goal : Goal) :
    (left ran : Nat) → VirtualClock α → ω → List (Event TimerId) → Drained α ω
  | left, ran, clock, world, journal =>
    match clock.next? goal.deadline with
    | none => ⟨clock.reach goal, world, reachEvents goal ran clock ++ journal, .ok ran⟩
    | some timer =>
      match left with
      | 0 => ⟨clock, world, journal, .error (.stepLimitExceeded ran)⟩
      | left + 1 =>
        turns call goal left (ran + 1) ((clock.start timer).finish timer)
          (call timer.callback world) (startEvent timer clock :: journal)

/-- A drain whose callbacks act on a world of their own. -/
def drain {ω : Type} (limit : Nat) (call : α → ω → ω) (request : Drain)
    (clock : VirtualClock α) (world : ω) (journal : List (Event TimerId)) : Drained α ω :=
  match Goal.of request clock.now with
  | .error e => ⟨clock, world, journal, .error e⟩
  | .ok goal => turns call goal (clampLimit limit) 0 clock world journal

/-- How many callbacks one drain may run where nothing else is said. -/
def defaultLimit : Nat := 10000

end VirtualClock

end PageTimers
