/-
# Running page programs

The machine that runs a program on a page over any provider.  Callbacks run
while a request to the provider waits for them, and may make requests of
their own; so the machine keeps a stack of waiting actions, all of it plain
data.  It moves in small steps, each of them without recursion: every state
that a run goes through, in the middle of a callback too, is a value that
a statement can be about.

An exception unwinds the stack.  Each waiting request is told, and passes
it on or not as the provider decides.
-/
import PageTimers.Program.Action

namespace PageTimers

/-- Who acts: the harness, or the callback of a timer. -/
inductive Caller (ι : Type)
  | harness
  | callback (id : Option ι)
deriving DecidableEq, Repr

/-- The timer whose callback acts. -/
def Caller.self? {ι : Type} : Caller ι → Option ι
  | harness => none
  | callback id => id

/-- An entry of the log. -/
inductive Entry (ι : Type)
  /-- A callback was started. -/
  | started (firing : Firing ι (Handler ι)) (now : Nat)
  /-- An action is done. -/
  | did (caller : Caller ι) (action : Action ι) (result : Result ι)

/-- Everything that a program acts on, and the record of what happened. -/
structure World (σ ι : Type) where
  provider : σ
  page : Page ι
  /-- The timers that were given names. -/
  names : Fields ι
  /-- The log, the latest entry first. -/
  log : List (Entry ι)
  /-- The journal, the latest event first. -/
  journal : List (Event ι)

/-- An action whose request waits for a callback. -/
structure Waiting (κ ι : Type) where
  caller : Caller ι
  action : Action ι
  request : Request ι (Handler ι)
  /-- Whether the interceptor sees the answer. -/
  watched : Bool
  /-- What the caller does next. -/
  rest : List (Action ι)

/-- What the machine is about to do. -/
inductive Control (ι : Type)
  /-- Go on with a list of actions. -/
  | run (caller : Caller ι) (actions : List (Action ι))
  /-- Pass an exception down the stack. -/
  | unwind
  /-- Nothing: the program has come to its end. -/
  | halt (ended : Ended)

structure Machine (σ κ ι : Type) where
  world : World σ ι
  control : Control ι
  /-- The waiting actions and their suspended requests, the innermost first. -/
  stack : List (Waiting κ ι × κ)

namespace World

variable {σ κ ι : Type}

def record (world : World σ ι) (entry : Entry ι) : World σ ι :=
  { world with log := entry :: world.log }

/-- Put events behind those in the journal. -/
def journaled (world : World σ ι) (events : List (Event ι)) : World σ ι :=
  { world with journal := events.reverse ++ world.journal }

/-- Take over a page and the events that go with it. -/
def turnPage (world : World σ ι) (change : Page ι × List (Event ι)) : World σ ι :=
  { world with page := change.1 }.journaled change.2

/-- The timer that a program refers to. -/
def resolve (world : World σ ι) (caller : Caller ι) : Target ι → Option ι
  | .id id => some id
  | .named name => world.names.get? name
  | .self => caller.self?

/-- Remember the name of a timer that was scheduled. -/
def bindName (world : World σ ι) (action : Action ι)
    (result : Except TimerError (Answer ι)) : World σ ι :=
  match action, result with
  | .schedule _ _ _ (some name) _, .ok (.scheduled id) =>
    { world with names := world.names.insert name id }
  | _, _ => world

variable [DecidableEq ι] [Identifier ι]

/-- The outstanding timers as a program sees them. -/
def tracked (world : World σ ι) : Result ι :=
  .tracked (world.page.outstanding.map fun set => (set.size, set.isEmpty, set.sorted))

/-- The identifiers that are outstanding, none where nothing is tracked. -/
def outstandingIds (world : World σ ι) : List ι :=
  match world.page.outstanding with
  | none => []
  | some set => set.sorted

end World

/-- What an action comes down to. -/
inductive Plan (σ ι : Type)
  /-- It is done at once. -/
  | finish (result : Result ι) (world : World σ ι)
  /-- The provider has to be asked; the interceptor may see the answer. -/
  | ask (request : Request ι (Handler ι)) (watched : Bool)
  /-- It throws. -/
  | throw

namespace Machine

variable {σ κ ι : Type} [DecidableEq ι] [Identifier ι]

/-- Whether the interceptor sees the answer to a call made now. -/
def isWatched (world : World σ ι) : Route → Bool
  | .page => world.page.isIntercepted
  | .provider => false

/-- What an action comes down to in the present world. -/
def plan (P : Provider σ κ ι (Handler ι)) (world : World σ ι) (caller : Caller ι) :
    Action ι → Plan σ ι
  | .installInterceptor =>
    let before := world.page.isIntercepted
    let world := world.turnPage world.page.installInterceptor
    .finish (.intercepted before world.outstandingIds) world
  | .installMonitor (.error e) => .finish (.refused e) world
  | .installMonitor (.ok settings) =>
    let world := world.turnPage (world.page.installConfigured settings)
    .finish (.monitored (world.page.probeNames?.getD [])) world
  | .installProbes probes =>
    let world := world.turnPage (world.page.installMonitor probes)
    .finish (.monitored (world.page.probeNames?.getD [])) world
  | .schedule route kind delay _ handler =>
    .ask (.schedule kind handler delay) (isWatched world route)
  | .clear route kind target =>
    match world.resolve caller target with
    | none => .finish .unresolved world
    | some id => .ask (.clear kind id) (isWatched world route)
  | .drain drain => .ask (.drain drain) false
  | .now => .finish (.instant (P.now world.provider)) world
  | .pending => .finish (.waiting (P.pending world.provider)) world
  | .setGlobal name value =>
    .finish .done { world with page.globals := world.page.globals.set name value }
  | .getGlobal name => .finish (.value (world.page.globals.get? name)) world
  | .removeGlobal name =>
    .finish (.value (world.page.globals.get? name))
      { world with page.globals := world.page.globals.remove name }
  | .setFlag name raised =>
    .finish .done { world with page.flags := world.page.flags.insert name raised }
  | .completed =>
    .finish (.completion world.page.completed (world.page.asked.map (·.1)))
      (world.journaled world.page.askedEvents)
  | .probeNames => .finish (.probes world.page.probeNames?) world
  | .outstanding => .finish world.tracked world
  | .contains target =>
    match world.resolve caller target with
    | none => .finish .unresolved world
    | some id => .finish (.member (world.page.outstanding.map (·.contains id))) world
  | .describe =>
    .finish (.views (P.describe world.provider) (world.page.monitor.map Page.describeMonitor)) world
  | .throw => .throw

/-- An action is done: the answer goes past the interceptor, into the log
and to the caller. -/
def answered (world : World σ ι) (w : Waiting κ ι) (result : Except TimerError (Answer ι)) :
    World σ ι :=
  let world := if w.watched then world.turnPage (world.page.note w.request result) else world
  (world.bindName w.action result).record (.did w.caller w.action (.answered result))

/-- Take over a move of the provider for the request of a waiting action. -/
def settle (P : Provider σ κ ι (Handler ι)) (world : World σ ι) (w : Waiting κ ι)
    (stack : List (Waiting κ ι × κ)) (move : Move σ κ ι (Handler ι)) : Machine σ κ ι :=
  let world := { world with provider := move.state }.journaled move.events
  match move.outcome with
  | .answer result => ⟨answered world w result, .run w.caller w.rest, stack⟩
  | .invoke firing suspended =>
    ⟨world.record (.started firing (P.now world.provider)),
      .run (.callback firing.id) (firing.callback.actions firing.count), (w, suspended) :: stack⟩
  | .rethrow => ⟨world, .unwind, stack⟩

/-- One step. -/
def step (P : Provider σ κ ι (Handler ι)) (m : Machine σ κ ι) : Machine σ κ ι :=
  match m.control, m.stack with
  | .halt _, _ => m
  | .run caller (action :: rest), stack =>
    match plan P m.world caller action with
    | .finish result world => ⟨world.record (.did caller action result), .run caller rest, stack⟩
    | .ask request watched =>
      settle P m.world ⟨caller, action, request, watched, rest⟩ stack
        (P.ask request m.world.provider)
    | .throw => ⟨m.world, .unwind, stack⟩
  | .run _ [], [] => ⟨m.world, .halt .returned, []⟩
  | .run _ [], (w, suspended) :: stack =>
    settle P m.world w stack (P.resume suspended .returned m.world.provider)
  | .unwind, [] => ⟨m.world, .halt .thrown, []⟩
  | .unwind, (w, suspended) :: stack =>
    settle P m.world w stack (P.resume suspended .thrown m.world.provider)

/-- How a program has ended, once it has. -/
def ended? (m : Machine σ κ ι) : Option Ended :=
  match m.control with
  | .halt ended => some ended
  | .run .. => none
  | .unwind => none

/-- Step until the program has ended, at most `fuel` times. -/
def run (P : Provider σ κ ι (Handler ι)) : (fuel : Nat) → Machine σ κ ι → Machine σ κ ι
  | 0, m => m
  | fuel + 1, m =>
    match m.ended? with
    | some _ => m
    | none => run P fuel (m.step P)

/-- The machine that is about to run a program of the harness. -/
def load (world : World σ ι) (program : List (Action ι)) : Machine σ κ ι :=
  ⟨world, .run .harness program, []⟩

end Machine

end PageTimers
