/-
# Tasks and the virtual clock agree

A harness schedules and cancels timers and lets time pass, once with tasks and
once on a virtual clock.  There each step is followed by a drain that runs what
is due, and to let time pass is to advance.  If the callbacks leave timers
alone and do not throw, no one can tell the two sessions apart by the timers:
each step hands out the same identifier or answers the same to a clear, runs
the same callbacks at the same times, and leaves as many timers.

The clocks of the two sessions are in step between any two steps (`InStep`),
since a schedule and a clear keep them so, and a drain on the one side is what
the tasks do on the other (`InStep.settle`).

The virtual clock counts milliseconds in 64 bits, and for tasks time has no
end.  So there is one difference, which no program escapes that sleeps for long
enough: past its last instant the clock refuses to go (`RefusedAt`), and at that
instant it runs the timers that would be due after it.  The sessions agree
before it (`InStep.Fares`).
-/
import PageTimers.Program.TaskSession
import PageTimers.Proofs.Tasks.Lockstep

namespace PageTimers

/-! ## Steps that both sessions can take -/

/-- A step of a harness.  What a callback does as a task and what it does on
the virtual clock is told apart. -/
inductive TimerStep
  | schedule (kind : TimerKind) (ms : Nat) (callback : TaskCallback) (handler : Handler TimerId)
  | clear (kind : TimerKind) (id : TimerId)
  /-- Let time pass. -/
  | sleep (ms : Nat)

namespace TimerStep

/-- The step of a session with tasks. -/
def onTasks : TimerStep → TaskStep
  | schedule kind ms callback _ => .schedule kind (.ofMillis ms) callback
  | clear kind id => .clear kind id
  | sleep ms => .sleep ms

/-- The action of a session on the virtual clock. -/
def onClock : TimerStep → Action TimerId
  | schedule kind ms _ handler => .schedule .provider kind (.ofMillis ms) none handler
  | clear kind id => .clear .provider kind (.id id)
  | sleep ms => .drain (.advance (.ofMillis ms))

/-- What is done on the virtual clock for a step: the action, and what is due
is run. -/
def actions (step : TimerStep) : List (Action TimerId) := [step.onClock, .drain .runDue]

/-- No duration is longer than the longest period, and the callback neither
throws nor touches timers. -/
def IsPlain : TimerStep → Prop
  | schedule _ ms callback handler =>
    (Duration.ofMillis ms).IsShort ∧ callback.throwsOn = none ∧
      handler.obeys Action.isPassive = true
  | clear _ _ => True
  | sleep ms => (Duration.ofMillis ms).IsShort

instance : DecidablePred IsPlain
  | schedule .. => inferInstanceAs (Decidable (_ ∧ _ ∧ _))
  | clear .. => inferInstanceAs (Decidable True)
  | sleep _ => inferInstanceAs (Decidable (Duration.IsShort _))

/-- How much time a step lets pass. -/
def span : TimerStep → Nat
  | schedule .. => 0
  | clear .. => 0
  | sleep ms => ms

/-- The name of the timer that a step schedules. -/
def name? : TimerStep → Option String
  | schedule _ _ callback _ => some callback.name
  | clear .. => none
  | sleep .. => none

/-- The names of the timers, in the order of their identifiers. -/
def names (program : List TimerStep) : List String := program.filterMap name?

/-- How much time a program lets pass. -/
def slept (program : List TimerStep) : Nat := (program.map span).sum

/-- The program with tasks. -/
def taskTurns (program : List TimerStep) : List TaskTurn :=
  TaskWorld.takeAll (program.map onTasks) .fresh

/-- The program on a virtual clock with this step limit. -/
def clockTurns (limit fuel : Nat) (globals : Globals) (program : List TimerStep) :
    List (Turn TimerId) :=
  Turn.takeAll (VirtualClock.provider limit) fuel (program.flatMap actions) (.start .fresh globals)

theorem names_cons (step : TimerStep) (program : List TimerStep) :
    names (step :: program) = step.name?.toList ++ names program := by
  rw [names, List.filterMap_cons]
  cases step.name? <;> rfl

theorem slept_cons (step : TimerStep) (program : List TimerStep) :
    slept (step :: program) = step.span + slept program := List.sum_cons

end TimerStep

/-! ## What is compared -/

/-- The run of a callback: when, of which timer, and the how manieth. -/
def TaskRun.fired (run : TaskRun) : Nat × Option String × Nat := (run.now, some run.name, run.number)

/-- The start of a callback on the virtual clock, likewise. -/
def firedAs (names : List String) (start : Firing TimerId (Handler TimerId) × Nat) :
    Nat × Option String × Nat :=
  (start.2, start.1.id.bind fun id => names[id.value - 1]?, start.1.count + 1)

/-- What is answered on the virtual clock where `result` is answered with tasks.
To let time pass has no answer there, and on the clock tells how many callbacks
ran. -/
def TimerStep.answer (ran : Nat) (result : Result TimerId) : TimerStep → Result TimerId
  | schedule .. => result
  | clear .. => result
  | sleep _ => .answered (.ok (.ran ran))

/-- What the harness sees of one step, with tasks in `task`, and on the virtual
clock in `acted` and, of the drain after it, in `drained`. -/
structure AgreeOn (names : List String) (step : TimerStep) (task : TaskTurn)
    (acted drained : Turn TimerId) : Prop where
  /-- The same identifier is handed out, or the same is answered to a clear. -/
  answer : acted.result = some (step.answer task.runs.length task.result)
  /-- The drain has run all that is due. -/
  complete : drained.result = some (.answered (.ok (.ran drained.starts.length)))
  /-- The same callbacks run at the same times. -/
  fired : (task.runs.map TaskRun.fired).Perm ((acted.starts ++ drained.starts).map (firedAs names))
  /-- As many timers are left. -/
  active : task.state.map (·.1) = some drained.pending.length
  now : task.now = drained.now

section Turns

variable {names : List String} {tasks : List TaskTurn} {turns : List (Turn TimerId)} {n : Nat}
  {step : TimerStep}

/-- What the harness sees of the step of this number is the same in both
sessions.  On the clock each step takes two turns. -/
def AgreeAt (names : List String) (tasks : List TaskTurn) (turns : List (Turn TimerId)) (n : Nat)
    (step : TimerStep) : Prop :=
  ∃ task acted drained, tasks[n]? = some task ∧ turns[2 * n]? = some acted ∧
    turns[2 * n + 1]? = some drained ∧ AgreeOn names step task acted drained

/-- To let time pass in the step of this number is refused on the clock, which
shows `now` and cannot be moved on so far. -/
def RefusedAt (turns : List (Turn TimerId)) (n now ms : Nat) : Prop :=
  ∃ acted, turns[2 * n]? = some acted ∧
    acted.result = some (.answered (.error (.clockOverflow now ms)))

theorem AgreeAt.cons (h : AgreeAt names tasks turns n step) (task : TaskTurn)
    (acted drained : Turn TimerId) :
    AgreeAt names (task :: tasks) (acted :: drained :: turns) (n + 1) step := h

theorem RefusedAt.cons {now ms : Nat} (h : RefusedAt turns n now ms)
    (acted drained : Turn TimerId) :
    RefusedAt (acted :: drained :: turns) (n + 1) now ms := h

end Turns

/-! ## Callbacks -/

/-- The run of the callback of a task that wakes. -/
def Task.run (task : Task TaskCallback) : TaskRun :=
  ⟨task.wakesAt, task.callback.name, task.runs + 1⟩

/-- What is known of it by the timer that waits. -/
def QueuedTimer.firedAs {α : Type} (names : List String) (timer : QueuedTimer α) :
    Nat × Option String × Nat :=
  (timer.dueAt, names[timer.id.value - 1]?, timer.runs + 1)

namespace TaskCallback

/-- The callback does not throw, and has the name that belongs to its timer. -/
def Fits (names : List String) (id : TimerId) (callback : TaskCallback) : Prop :=
  callback.throwsOn = none ∧ names[id.value - 1]? = some callback.name

variable {names : List String} {id : TimerId} {callback : TaskCallback}

theorem Fits.returns (h : callback.Fits names id) (now count : Nat) (world : TaskPage) :
    (callback.call now count world).1 = .returned := by
  rw [call, h.1]
  rfl

/-- The tasks that have woken, one after the other, have run their callbacks. -/
theorem runs_foldl (woken : List (Task TaskCallback)) (world : TaskPage) :
    (woken.foldl (fun world t => (t.callback.call t.wakesAt t.runs world).2) world).runs =
      (woken.map Task.run).reverse ++ world.runs := by
  induction woken generalizing world with
  | nil => rfl
  | cons t woken ih =>
      rw [List.foldl_cons, ih, List.map_cons, List.reverse_cons, List.append_assoc]
      rfl

/-- They are the timers that were taken on the virtual clock. -/
theorem fired_of_slots {woken : List (Task TaskCallback)}
    {timers : List (QueuedTimer (Handler TimerId))}
    (hslots : woken.map Task.slot = timers.map (·.slot))
    (hfits : ∀ t ∈ woken, t.callback.Fits names t.id) :
    woken.map (fun t => t.run.fired) = timers.map fun t => firedAs names (t.firing, t.dueAt) := by
  calc woken.map (fun t => t.run.fired)
      = (woken.map Task.slot).map (·.firedAs names) := by
        rw [List.map_map]
        refine List.map_congr_left fun t ht => ?_
        exact congrArg (fun name => (t.wakesAt, name, t.runs + 1)) (hfits t ht).2.symm
    _ = (timers.map (·.slot)).map (·.firedAs names) := by rw [hslots]
    _ = timers.map fun t => firedAs names (t.firing, t.dueAt) := by
        rw [List.map_map]
        rfl

end TaskCallback

/-! ## Sessions in step -/

theorem TaskWorld.take_of_apply {step : TaskStep} {world after : TaskWorld} {result : Result TimerId}
    (h : world.apply step = (after, result)) (hkept : after.dropped = false) :
    (world.take step).1 = { after with runs := [], journal := [] } ∧
      (world.take step).2.result = result ∧ (world.take step).2.now = after.clock.now ∧
      (world.take step).2.runs = after.runs.mergeSort TaskRun.le ∧
      (world.take step).2.state.map (·.1) = some after.clock.active := by
  simp [take, h, hkept]

theorem TaskWorld.length_runs_take {step : TaskStep} {world after : TaskWorld}
    {result : Result TimerId} (h : world.apply step = (after, result))
    (hkept : after.dropped = false) :
    (world.take step).2.runs.length = after.runs.length := by
  rw [(take_of_apply h hkept).2.2.2.1, List.length_mergeSort]

/-- Between two steps the sessions hold the same timers. -/
structure InStep (names : List String) (tasks : TaskWorld) (world : ClockWorld) : Prop where
  mirrors : Mirrors tasks.clock world.provider
  poised : world.provider.Poised
  obeys : world.Obeys Action.isPassive
  fits : ∀ t ∈ tasks.clock.tasks, t.callback.Fits names t.id
  runs : tasks.runs = []
  kept : tasks.dropped = false

namespace InStep

variable {names : List String} {tasks : TaskWorld} {world : ClockWorld} {limit span : Nat}
  {drain : Drain} {goal : VirtualClock.Goal}

theorem fresh (names : List String) (globals : Globals) :
    InStep names .fresh (.start .fresh globals) where
  mirrors := .fresh
  poised := .fresh
  obeys _ ht := absurd ht List.not_mem_nil
  fits _ ht := absurd ht List.not_mem_nil
  runs := rfl
  kept := rfl

/-- What a drain does on the virtual clock, the tasks do in the same time. -/
theorem settle (h : InStep names tasks world)
    (hgoal : VirtualClock.Goal.of drain world.provider.now = .ok goal)
    (hdeadline : goal.deadline = some (world.provider.now + span))
    (hreach : ∀ clock : VirtualClock (Handler TimerId), world.provider.now ≤ clock.now →
      (clock.reach goal).now = max clock.now (world.provider.now + span))
    (htime : world.provider.now + span < Duration.lastInstant)
    (hlimit : (tasks.sleep span).runs.length ≤ limit) :
    ∃ (after : ClockWorld) (turn : Turn TimerId),
      Turn.Comes (VirtualClock.provider limit) (.drain drain) world after turn ∧
      turn.result = some (.answered (.ok (.ran turn.starts.length))) ∧
      (tasks.sleep span).runs.map TaskRun.fired = (turn.starts.map (firedAs names)).reverse ∧
      InStep names { tasks.sleep span with runs := [], journal := [] } after ∧
      after.provider.now = world.provider.now + span ∧
      after.provider.lastId = world.provider.lastId ∧
      after.provider.next? (some after.provider.now) = none := by
  have hinTime := VirtualClock.Goal.of_inTime hgoal
  obtain ⟨timers, clock', htakes, hcount⟩ :=
    h.poised.exists_takes hinTime hdeadline htime (Nat.le_add_right _ _)
  have hnow : world.provider.now ≤ clock'.now := htakes.le_now
  obtain ⟨woken, hslots, hfits, hmirrors, hkept, hworld⟩ :=
    Mirrors.sleep (C := TaskCallback.Fits names) (fun _ _ hC => hC.returns) htakes h.mirrors h.poised
      hinTime hdeadline htime hcount (hreach clock' hnow) h.fits ⟨tasks.page, tasks.runs⟩
      tasks.journal
  have hruns : (tasks.sleep span).runs = (woken.map Task.run).reverse := by
    have hall := congrArg TaskPage.runs hworld
    rw [TaskCallback.runs_foldl] at hall
    rw [TaskWorld.sleep, hall, h.runs, List.append_nil]
  have hlength : timers.length ≤ VirtualClock.clampLimit limit := by
    have hwoken : woken.length = timers.length := by simpa using congrArg List.length hslots
    rw [hruns, List.length_reverse, List.length_map, hwoken] at hlimit
    exact Nat.le_trans hlimit (Nat.le_max_left _ _)
  obtain ⟨after, turn, hcomes, hresult, hstarts, hprovider, hobeys⟩ :=
    Turn.comes_of_takes h.obeys h.poised hgoal hdeadline htakes hlength
  have hafter : after.provider.now = world.provider.now + span := by
    rw [hprovider, hreach clock' hnow]
    exact Nat.max_eq_right (htakes.now_le hdeadline (Nat.le_add_right _ _))
  refine ⟨after, turn, hcomes, ?_, ?_, ⟨?_, ?_, hobeys, hkept, rfl, h.kept⟩, hafter, ?_, ?_⟩
  · rw [hresult, hstarts, List.length_map]
  · rw [hruns, hstarts, List.map_reverse, List.map_map, List.map_map]
    exact congrArg List.reverse (TaskCallback.fired_of_slots hslots hfits)
  · rw [hprovider]
    exact hmirrors
  · rw [hprovider]
    exact (h.poised.takes hinTime hdeadline htakes).reach hinTime hdeadline htakes.quiet_after
  · rw [hprovider, VirtualClock.reach_lastId, htakes.lastId_eq]
  · rw [hafter, ← hdeadline, hprovider, VirtualClock.next?, VirtualClock.reach_queue]
    exact htakes.quiet_after

/-- Of a step that is done on both sides, what the harness sees. -/
theorem agreeOn {slept : TaskWorld} {step : TimerStep} {result : Result TimerId}
    {between after : ClockWorld} {acted drained : Turn TimerId}
    (hafter : InStep names { slept with runs := [], journal := [] } after)
    (happly : tasks.apply step.onTasks = (slept, result))
    (hanswer : acted.result = some (step.answer slept.runs.length result))
    (hdrained : Turn.Comes (VirtualClock.provider limit) (.drain .runDue) between after drained)
    (hcomplete : drained.result = some (.answered (.ok (.ran drained.starts.length))))
    (hfired : slept.runs.map TaskRun.fired =
      ((acted.starts ++ drained.starts).map (firedAs names)).reverse) :
    AgreeOn names step (tasks.take step.onTasks).2 acted drained ∧
      InStep names (tasks.take step.onTasks).1 after := by
  obtain ⟨htasks, htaskResult, htaskNow, htaskRuns, htaskState⟩ :=
    TaskWorld.take_of_apply happly hafter.kept
  rw [htasks]
  refine ⟨⟨?_, hcomplete, ?_, ?_, ?_⟩, hafter⟩
  · rw [hanswer, htaskResult, htaskRuns, List.length_mergeSort]
  · rw [htaskRuns]
    exact ((List.mergeSort_perm _ _).map _).trans ((List.Perm.of_eq hfired).trans (List.reverse_perm _))
  · rw [htaskState, hdrained.leads.1]
    have hpending : ((VirtualClock.provider limit).pending after.provider).length =
        after.provider.queue.length := by
      rw [VirtualClock.provider, List.length_map, VirtualClock.pending, List.length_mergeSort]
    exact congrArg some (hafter.mirrors.length_eq.trans hpending.symm)
  · rw [htaskNow, hdrained.leads.1]
    exact hafter.mirrors.now

/-- To schedule a timer on both sides leaves the sessions in step. -/
theorem schedule (h : InStep names tasks world) {kind : TimerKind} {ms : Nat}
    {callback : TaskCallback} {handler : Handler TimerId}
    (hplain : (TimerStep.schedule kind ms callback handler).IsPlain)
    (hname : names[world.provider.lastId]? = some callback.name) :
    InStep names
      ({ tasks with clock := (tasks.clock.schedule kind callback (.ofMillis ms)).2 }.turnPage
        (tasks.page.noteScheduled kind (tasks.clock.schedule kind callback (.ofMillis ms)).1))
      (World.act limit .harness world.forget
        (TimerStep.schedule kind ms callback handler).onClock) := by
  obtain ⟨hms, hthrow, hpassive⟩ := hplain
  obtain ⟨-, hmirrors⟩ := h.mirrors.schedule kind callback handler hms
  refine ⟨hmirrors, h.poised.schedule kind handler (.ofMillis ms), ?_, ?_, h.runs, h.kept⟩
  · exact List.forall_mem_cons.mpr ⟨hpassive, h.obeys⟩
  · show ∀ t ∈ (tasks.clock.schedule kind callback (.ofMillis ms)).2.tasks, _
    rw [TaskClock.schedule_tasks hms]
    rw [← h.mirrors.lastId] at hname
    exact List.forall_mem_cons.mpr ⟨⟨hthrow, hname⟩, h.fits⟩

/-- So does to clear one. -/
theorem clear (h : InStep names tasks world) (kind : TimerKind) (id : TimerId) :
    InStep names
      (({ tasks with clock := (tasks.clock.cancel id).2 }.journaled
        [TaskClock.cancelEvent kind id (tasks.clock.cancel id).1]).turnPage
        (tasks.page.noteCleared kind id (tasks.clock.cancel id).1))
      (World.act limit .harness world.forget (TimerStep.clear kind id).onClock) := by
  obtain ⟨-, hmirrors⟩ := h.mirrors.cancel id
  refine ⟨hmirrors, h.poised.cancel id, ?_, ?_, h.runs, h.kept⟩
  · exact fun t ht => h.obeys t ((VirtualClock.mem_cancel_queue id world.provider).mp ht).1
  · exact fun t ht => h.fits t (List.mem_filter.mp ht).1

/-- The two sessions take a step: what the harness sees of it is the same, and
they are in step after it. -/
def TakesStep (names : List String) (limit : Nat) (step : TimerStep) (tasks : TaskWorld)
    (world : ClockWorld) : Prop :=
  ∃ (between after : ClockWorld) (acted drained : Turn TimerId),
    Turn.Comes (VirtualClock.provider limit) step.onClock world between acted ∧
    Turn.Comes (VirtualClock.provider limit) (.drain .runDue) between after drained ∧
    AgreeOn names step (tasks.take step.onTasks).2 acted drained ∧
    InStep names (tasks.take step.onTasks).1 after ∧
    after.provider.now = world.provider.now + step.span ∧
    after.provider.lastId = world.provider.lastId + step.name?.toList.length

section Take

variable {step : TimerStep}

/-- A step that is done at once on both sides, and what is due after it. -/
theorem takesStep_at_once {begun : TaskWorld} {result : Result TimerId}
    (hdrain : step.onClock.isDrain = false) (hthrow : step.onClock.isThrow = false)
    (h : InStep names begun (World.act limit .harness world.forget step.onClock))
    (happly : tasks.apply step.onTasks = (begun.sleep 0, result)) (hspan : step.span = 0)
    (hanswer : ∀ ran, (World.act limit .harness world.forget step.onClock).log.findSome?
      Entry.harnessResult? = some (step.answer ran result))
    (hissued : (World.act limit .harness world.forget step.onClock).provider.lastId =
      world.provider.lastId + step.name?.toList.length)
    (htime : world.provider.now + step.span < Duration.lastInstant)
    (hlimit : (tasks.take step.onTasks).2.runs.length ≤ limit) :
    TakesStep names limit step tasks world := by
  have hacted : Turn.Comes (VirtualClock.provider limit) step.onClock world _ _ :=
    Turn.comes_act hdrain hthrow
  have hstarts := Turn.starts_seen (VirtualClock.provider limit)
    (World.act limit .harness world.forget step.onClock)
  rw [World.starts_act hdrain] at hstarts
  have hbetween : (World.act limit .harness world.forget step.onClock).provider.now =
      world.provider.now := World.act_now hdrain
  generalize World.act limit .harness world.forget step.onClock = between at *
  have hkept : (begun.sleep 0).dropped = false := h.kept
  rw [TaskWorld.length_runs_take happly hkept] at hlimit
  have hgoal : VirtualClock.Goal.of .runDue between.provider.now =
      .ok (.runDue between.provider.now) := rfl
  have hreach : ∀ clock : VirtualClock (Handler TimerId), between.provider.now ≤ clock.now →
      (clock.reach (.runDue between.provider.now)).now = max clock.now (between.provider.now + 0) :=
    fun clock hle => (Nat.max_eq_left hle).symm
  rw [hspan, ← hbetween] at htime
  obtain ⟨after, drained, hdrained, hcomplete, hfired, hafter, hnow, hlastId, -⟩ :=
    h.settle hgoal rfl hreach htime hlimit
  obtain ⟨hagree, hstep⟩ := agreeOn hafter happly (hanswer _) hdrained hcomplete
    (by rw [hfired, hstarts]; rfl)
  refine ⟨between, after, _, drained, hacted, hdrained, hagree, hstep, ?_, hlastId.trans hissued⟩
  rw [hnow, hbetween, hspan]

/-- To let time pass: the advance does it all, and nothing is due after it. -/
theorem takesStep_sleep (h : InStep names tasks world) {ms : Nat}
    (htime : world.provider.now + ms < Duration.lastInstant)
    (hlimit : (tasks.take (TimerStep.sleep ms).onTasks).2.runs.length ≤ limit) :
    TakesStep names limit (.sleep ms) tasks world := by
  have happly : tasks.apply (TimerStep.sleep ms).onTasks = (tasks.sleep ms, .done) := rfl
  rw [TaskWorld.length_runs_take happly h.kept] at hlimit
  have hword : world.provider.now + ms < word64 := Nat.lt_of_lt_of_le htime (Nat.sub_le _ _)
  obtain ⟨between, acted, hacted, hresult, hfired, hbetween, hnow, hlastId, hquiet⟩ :=
    h.settle (VirtualClock.Goal.of_millis hword) rfl (fun _ _ => rfl) htime hlimit
  have hgoal : VirtualClock.Goal.of .runDue between.provider.now =
      .ok (.runDue between.provider.now) := rfl
  obtain ⟨after, drained, hdrained, hcomplete, hstarts, hprovider, hobeys⟩ :=
    Turn.comes_of_takes hbetween.obeys hbetween.poised hgoal rfl (.quiet hquiet)
      (Nat.zero_le (VirtualClock.clampLimit limit))
  have hsame : after.provider = between.provider := hprovider
  have hafter : InStep names { tasks.sleep ms with runs := [], journal := [] } after := by
    refine ⟨?_, ?_, hobeys, hbetween.fits, rfl, h.kept⟩
    · rw [hsame]
      exact hbetween.mirrors
    · rw [hsame]
      exact hbetween.poised
  have hran : (tasks.sleep ms).runs.length = acted.starts.length := by
    simpa using congrArg List.length hfired
  have hanswer : acted.result =
      some ((TimerStep.sleep ms).answer (tasks.sleep ms).runs.length .done) := by
    rw [hresult, hran]
    rfl
  obtain ⟨hagree, hstep⟩ := agreeOn hafter happly hanswer hdrained
    (by rw [hcomplete, hstarts]; rfl)
    (by rw [hfired, hstarts, List.map_nil, List.append_nil])
  refine ⟨between, after, acted, drained, hacted, hdrained, hagree, hstep, ?_, ?_⟩
  · rw [hsame, hnow]
    rfl
  · rw [hsame, hlastId]
    rfl

/-- A step that both sessions take keeps them in step. -/
theorem takesStep (h : InStep names tasks world) (hplain : step.IsPlain)
    (hname : ∀ name, step.name? = some name → names[world.provider.lastId]? = some name)
    (htime : world.provider.now + step.span < Duration.lastInstant)
    (hlimit : (tasks.take step.onTasks).2.runs.length ≤ limit) :
    TakesStep names limit step tasks world := by
  cases step with
  | schedule kind ms callback handler =>
      have hid : (tasks.clock.schedule kind callback (.ofMillis ms)).1 =
          (world.provider.schedule kind handler (.ofMillis ms)).1 :=
        congrArg (fun id => TimerId.mk (id + 1)) h.mirrors.lastId
      exact takesStep_at_once rfl rfl (h.schedule hplain (hname _ rfl)) rfl rfl
        (fun _ => congrArg (fun id => some (Result.answered (.ok (.scheduled id)))) hid.symm) rfl
        htime hlimit
  | clear kind id =>
      have hfound : (tasks.clock.cancel id).1 = (world.provider.cancel id).1 :=
        (h.mirrors.cancel id).1
      exact takesStep_at_once rfl rfl (h.clear kind id) rfl rfl
        (fun _ => congrArg (fun found => some (Result.answered (.ok (.cleared found)))) hfound.symm)
        rfl htime hlimit
  | sleep ms => exact h.takesStep_sleep htime hlimit

end Take

/-- The clock cannot be moved on past its last instant. -/
theorem comes_refused (limit : Nat) {ms : Nat} (hms : (Duration.ofMillis ms).IsShort)
    (hpast : word64 ≤ world.provider.now + ms) :
    ∃ (after : ClockWorld) (acted : Turn TimerId),
      Turn.Comes (VirtualClock.provider limit) (TimerStep.sleep ms).onClock world after acted ∧
      acted.result = some (.answered (.error (.clockOverflow world.provider.now ms))) := by
  have hgoal : VirtualClock.Goal.of (.advance (.ofMillis ms)) world.forget.provider.now =
      .error (.clockOverflow world.provider.now ms) := by
    rw [VirtualClock.Goal.of, Duration.millis_ofMillis hms.lt_word64]
    exact if_neg (Nat.not_lt_of_le hpast)
  exact ⟨_, _, Turn.comes_of_leads (Machine.leads_refused hgoal), rfl⟩

theorem refusedAt_first (limit : Nat) (world : ClockWorld) {first : TimerStep}
    (hplain : first.IsPlain) (rest : List (Action TimerId)) :
    ∃ enough, ∀ fuel, enough ≤ fuel → ∀ ms, first = .sleep ms →
      word64 ≤ world.provider.now + ms →
      RefusedAt (Turn.takeAll (VirtualClock.provider limit) fuel (first.actions ++ rest) world) 0
        world.provider.now ms := by
  cases first with
  | schedule => exact ⟨0, fun _ _ _ hstep => by cases hstep⟩
  | clear => exact ⟨0, fun _ _ _ hstep => by cases hstep⟩
  | sleep ms =>
      by_cases hpast : word64 ≤ world.provider.now + ms
      · obtain ⟨after, acted, hcomes, hresult⟩ := comes_refused limit hplain hpast
        obtain ⟨enough, htake⟩ := hcomes.eventually
        refine ⟨enough, fun fuel hle ms' hstep _ => ?_⟩
        cases hstep
        refine ⟨acted, ?_, hresult⟩
        rw [TimerStep.actions, List.cons_append, Turn.takeAll_cons, htake fuel hle]
        rfl
      · refine ⟨0, fun _ _ ms' hstep hpast' => ?_⟩
        cases hstep
        exact absurd hpast' hpast

/-- How the sessions fare at a step of a program that they begin when the clock
shows `now`. -/
structure Fares (names : List String) (now : Nat) (program : List TimerStep) (tasks : List TaskTurn)
    (turns : List (Turn TimerId)) (n : Nat) (step : TimerStep) : Prop where
  agrees : now + TimerStep.slept (program.take (n + 1)) < Duration.lastInstant →
    AgreeAt names tasks turns n step
  refuses : ∀ ms, step = .sleep ms → now + TimerStep.slept (program.take n) < Duration.lastInstant →
    word64 ≤ now + TimerStep.slept (program.take (n + 1)) →
    RefusedAt turns n (now + TimerStep.slept (program.take n)) ms

/-- After the first step they fare as with the rest of the program. -/
theorem Fares.cons {now n : Nat} {first step : TimerStep} {program : List TimerStep}
    {taskTurns : List TaskTurn} {turns : List (Turn TimerId)}
    (h : Fares names (now + first.span) program taskTurns turns n step) (task : TaskTurn)
    (acted drained : Turn TimerId) :
    Fares names now (first :: program) (task :: taskTurns) (acted :: drained :: turns) (n + 1)
      step := by
  have hslept : ∀ count, now + TimerStep.slept ((first :: program).take (count + 1)) =
      now + first.span + TimerStep.slept (program.take count) := by
    intro count
    rw [List.take_succ_cons, TimerStep.slept_cons, Nat.add_assoc]
  constructor
  · intro hreach
    rw [hslept] at hreach
    exact (h.agrees hreach).cons task acted drained
  · intro ms hstep hreach hpast
    rw [hslept] at hreach hpast ⊢
    exact (h.refuses ms hstep hreach hpast).cons acted drained

/-- Step by step the sessions agree, as long as the clock can show the time. -/
theorem takeAll {program : List TimerStep} (issued : List String) (h : InStep names tasks world)
    (hnames : names = issued ++ TimerStep.names program)
    (hissued : world.provider.lastId = issued.length) (hplain : ∀ step ∈ program, step.IsPlain)
    (hlimit : ∀ turn ∈ TaskWorld.takeAll (program.map TimerStep.onTasks) tasks,
      turn.runs.length ≤ limit) :
    ∃ enough, ∀ fuel, enough ≤ fuel → ∀ n step, program[n]? = some step →
      Fares names world.provider.now program
        (TaskWorld.takeAll (program.map TimerStep.onTasks) tasks)
        (Turn.takeAll (VirtualClock.provider limit) fuel (program.flatMap TimerStep.actions) world)
        n step := by
  induction program generalizing tasks world issued with
  | nil => exact ⟨0, fun _ _ n step hstep => by cases hstep⟩
  | cons first program ih =>
      have hplain₁ := hplain first List.mem_cons_self
      have hone : TimerStep.slept ((first :: program).take 1) = first.span := Nat.add_zero _
      by_cases htime : world.provider.now + first.span < Duration.lastInstant
      · have hname : ∀ name, first.name? = some name → names[world.provider.lastId]? = some name := by
          intro name hsome
          rw [hnames, hissued, TimerStep.names_cons, hsome, Option.toList_some,
            List.getElem?_append_right (Nat.le_refl _), Nat.sub_self]
          rfl
        obtain ⟨between, after, acted, drained, hacted, hdrained, hagree, hafter, hnow, hlastId⟩ :=
          h.takesStep hplain₁ hname htime (hlimit _ List.mem_cons_self)
        obtain ⟨enough, hrest⟩ := ih (issued ++ first.name?.toList) hafter
          (by rw [hnames, TimerStep.names_cons, List.append_assoc])
          (by rw [hlastId, hissued, List.length_append])
          (fun step hstep => hplain step (List.mem_cons_of_mem _ hstep))
          (fun turn hturn => hlimit turn (List.mem_cons_of_mem _ hturn))
        obtain ⟨fuel₁, htake₁⟩ := hacted.eventually
        obtain ⟨fuel₂, htake₂⟩ := hdrained.eventually
        refine ⟨max enough (max fuel₁ fuel₂), fun fuel hfuel n step hstep => ?_⟩
        rw [List.flatMap_cons, TimerStep.actions, List.cons_append, List.cons_append,
          List.nil_append, Turn.takeAll_cons, htake₁ fuel (by omega), Turn.takeAll_cons,
          htake₂ fuel (by omega)]
        cases n with
        | zero =>
            cases hstep
            refine ⟨fun _ => ⟨_, acted, drained, rfl, rfl, rfl, hagree⟩, fun ms _ _ hpast => ?_⟩
            rw [hone] at hpast
            exact absurd htime (Nat.not_lt_of_le (Nat.le_trans (Nat.sub_le _ _) hpast))
        | succ n =>
            have hfares := hrest fuel (by omega) n step hstep
            rw [hnow] at hfares
            exact hfares.cons _ acted drained
      · obtain ⟨enough, hrefused⟩ := refusedAt_first limit world hplain₁
          (program.flatMap TimerStep.actions)
        have hlate : ∀ count, Duration.lastInstant ≤
            world.provider.now + TimerStep.slept ((first :: program).take (count + 1)) := by
          intro count
          rw [List.take_succ_cons, TimerStep.slept_cons]
          omega
        refine ⟨enough, fun fuel hfuel n step hstep => ⟨fun hreach => ?_, ?_⟩⟩
        · exact absurd hreach (Nat.not_lt_of_le (hlate n))
        · intro ms hsleep hreach hpast
          cases n with
          | zero =>
              cases hstep
              rw [hone, hsleep] at hpast
              exact hrefused fuel hfuel ms hsleep hpast
          | succ n => exact absurd hreach (Nat.not_lt_of_le (hlate n))

end InStep

namespace TimerStep

/-- **Tasks and the virtual clock agree.**  Take any program that schedules and
clears timers and lets time pass, whose callbacks neither throw nor touch
timers, and any step limit that is no less than the callbacks that a step runs
with tasks.  Given time, the session on the virtual clock comes to its end, and
each step hands out the same identifier or answers the same to a clear as with
tasks, runs as many callbacks of the same timers, each at the same time and for
as many times before, and leaves as many timers.  Timers are told apart by the
names that they are given.

This holds of every step that ends before the last instant of the virtual
clock.  The step that would go past it the clock refuses. -/
theorem providers_agree (program : List TimerStep) (globals : Globals) (limit : Nat)
    (hplain : ∀ step ∈ program, step.IsPlain)
    (hlimit : ∀ turn ∈ taskTurns program, turn.runs.length ≤ limit) :
    ∃ enough, ∀ fuel, enough ≤ fuel → ∀ n step, program[n]? = some step →
      (slept (program.take (n + 1)) < Duration.lastInstant →
        AgreeAt (names program) (taskTurns program) (clockTurns limit fuel globals program) n
          step) ∧
      (∀ ms, step = .sleep ms → slept (program.take n) < Duration.lastInstant →
        word64 ≤ slept (program.take (n + 1)) →
        RefusedAt (clockTurns limit fuel globals program) n (slept (program.take n)) ms) := by
  obtain ⟨enough, hfares⟩ :=
    (InStep.fresh (names program) globals).takeAll [] rfl rfl hplain hlimit
  refine ⟨enough, fun fuel hfuel n step hstep => ?_⟩
  have hstart : (World.start VirtualClock.fresh globals : ClockWorld).provider.now = 0 := rfl
  obtain ⟨hagrees, hrefuses⟩ := hfares fuel hfuel n step hstep
  rw [hstart, Nat.zero_add] at hagrees
  simp only [hstart, Nat.zero_add] at hrefuses
  exact ⟨hagrees, hrefuses⟩

/-- A timer that repeats as fast as it can, cancelled in the millisecond in
which it fires, and two that fire once, one of them at once. -/
def flurry : List TimerStep :=
  [.schedule .repeating 0 ⟨"poll", none, none⟩ (.mk false [] [.setGlobal "polled" (.bool true)]),
    .schedule .once 0 ⟨"soon", none, none⟩ .idle,
    .sleep 3,
    .clear .repeating ⟨1⟩,
    .schedule .once 5 ⟨"late", none, none⟩ .idle,
    .sleep 5,
    .clear .once ⟨3⟩]

theorem flurry_agrees :
    (∀ step ∈ flurry, step.IsPlain) ∧
    (∀ turn ∈ taskTurns flurry, turn.runs.length ≤ 3) ∧
    flurry[2]? = some (.sleep 3) ∧ slept (flurry.take 3) < Duration.lastInstant ∧
    ∃ enough, ∀ fuel, enough ≤ fuel →
      AgreeAt (names flurry) (taskTurns flurry) (clockTurns 3 fuel .empty flurry) 2 (.sleep 3) := by
  have hplain : ∀ step ∈ flurry, step.IsPlain := by decide
  have hlimit : ∀ turn ∈ taskTurns flurry, turn.runs.length ≤ 3 := by
    simp only [taskTurns, flurry, onTasks, List.map_cons, List.map_nil, TaskWorld.takeAll,
      TaskWorld.take, List.forall_mem_cons, List.length_mergeSort]
    decide +kernel
  have hstep : flurry[2]? = some (.sleep 3) := rfl
  have hreach : slept (flurry.take 3) < Duration.lastInstant := by decide
  obtain ⟨enough, hagree⟩ := providers_agree flurry .empty 3 hplain hlimit
  exact ⟨hplain, hlimit, hstep, hreach, enough,
    fun fuel hfuel => (hagree fuel hfuel 2 (.sleep 3) hstep).1 hreach⟩

end TimerStep

end PageTimers
