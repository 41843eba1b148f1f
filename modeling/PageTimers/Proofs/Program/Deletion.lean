/-
# Programs without some of the installations

An action that installs an instrument can be taken out of a program wherever it
stands: among the actions of the harness, in a callback, or in a callback that
another one schedules.

    a.without there    the action, where the callbacks that it brings along
                       install none of the instruments that are `there`

A program in the middle of a run is not only what the harness does next.  It is
spread over the machine: actions wait on the stack, and callbacks wait in the
queue of the clock.  `ClockSession.without` takes the installations out of all of
it, and leaves what has been done as it is.
-/
import PageTimers.Proofs.Clock.History
import PageTimers.Proofs.Clock.Opacity

namespace PageTimers

/-- What is installed on a page, once. -/
inductive Instrument
  | interceptor
  | monitor
deriving DecidableEq

/-- Whether the page has the instrument. -/
def Page.has {ι : Type} (page : Page ι) : Instrument → Bool
  | .interceptor => page.isIntercepted
  | .monitor => page.monitor.isSome

/-! ## Code -/

section Code

variable {ι : Type}

/-- The instrument that an action installs.  Settings that could not be read
install nothing. -/
def Action.instrument? : Action ι → Option Instrument
  | .installInterceptor => some .interceptor
  | .installMonitor (.ok _) => some .monitor
  | .installProbes _ => some .monitor
  | _ => none

/-- Whether an action installs one of the instruments that are there. -/
def Action.installs (there : Instrument → Bool) (action : Action ι) : Bool :=
  action.instrument?.any there

mutual

/-- The action, where its callback installs nothing that is there. -/
def Action.without (there : Instrument → Bool) : Action ι → Action ι
  | .schedule route kind delay name handler =>
    .schedule route kind delay name (handler.without there)
  | a => a

def Handler.without (there : Instrument → Bool) : Handler ι → Handler ι
  | .mk quiet ticks body => .mk quiet (ticksWithout there ticks) (actionsWithout there body)

/-- The actions, without those that install what is there. -/
def actionsWithout (there : Instrument → Bool) : List (Action ι) → List (Action ι)
  | [] => []
  | action :: rest =>
    if action.installs there then actionsWithout there rest
    else action.without there :: actionsWithout there rest

def ticksWithout (there : Instrument → Bool) : List (List (Action ι)) → List (List (Action ι))
  | [] => []
  | actions :: rest => actionsWithout there actions :: ticksWithout there rest

end

variable {there more : Instrument → Bool} {action : Action ι} {rest : List (Action ι)}

theorem actionsWithout_cons_of_installs (h : action.installs there = true) :
    actionsWithout there (action :: rest) = actionsWithout there rest := by
  rw [actionsWithout, if_pos h]

theorem actionsWithout_cons_of_not (h : action.installs there = false) :
    actionsWithout there (action :: rest) = action.without there :: actionsWithout there rest := by
  rw [actionsWithout, if_neg (by simp [h])]

@[simp] theorem Action.instrument?_without (action : Action ι) :
    (action.without there).instrument? = action.instrument? := by
  cases action <;> simp [Action.without, Action.instrument?]

@[simp] theorem Action.installs_without (action : Action ι) :
    (action.without there).installs more = action.installs more := by
  rw [Action.installs, Action.instrument?_without, Action.installs]

theorem not_installs_of_mem_actionsWithout {actions : List (Action ι)}
    (h : action ∈ actionsWithout there actions) : action.installs there = false := by
  induction actions with
  | nil => simp [actionsWithout] at h
  | cons first rest ih =>
      cases hfirst : first.installs there with
      | true =>
          rw [actionsWithout_cons_of_installs hfirst] at h
          exact ih h
      | false =>
          rw [actionsWithout_cons_of_not hfirst] at h
          rcases List.mem_cons.mp h with rfl | h
          · rw [Action.installs_without]
            exact hfirst
          · exact ih h

theorem ticksWithout_eq (ticks : List (List (Action ι))) :
    ticksWithout there ticks = ticks.map (actionsWithout there) := by
  induction ticks with
  | nil => simp [ticksWithout]
  | cons actions rest ih => simp [ticksWithout, ih]

theorem Handler.actions_without (handler : Handler ι) (count : Nat) :
    (handler.without there).actions count = actionsWithout there (handler.actions count) := by
  obtain ⟨quiet, ticks, body⟩ := handler
  rw [Handler.without, Handler.actions, Handler.actions, ticksWithout_eq, List.getElem?_map]
  cases ticks[count]? <;> rfl

/-- Where nothing is there, nothing is taken out. -/
theorem Action.not_installs_of_bare (hbare : ∀ i, there i = false) (action : Action ι) :
    action.installs there = false := by
  rw [Action.installs]
  cases action.instrument? with
  | none => rfl
  | some i => exact hbare i

mutual

theorem Action.without_of_bare (hbare : ∀ i, there i = false) :
    ∀ action : Action ι, action.without there = action
  | .schedule route kind delay name handler => by
      rw [Action.without, handler.without_of_bare hbare]
  | .installInterceptor | .installMonitor _ | .installProbes _ | .clear _ _ _ | .drain _ | .now
  | .pending | .setGlobal _ _ | .getGlobal _ | .removeGlobal _ | .setFlag _ _ | .completed
  | .probeNames | .outstanding | .contains _ | .describe | .throw => by rw [Action.without]; simp

theorem Handler.without_of_bare (hbare : ∀ i, there i = false) :
    ∀ handler : Handler ι, handler.without there = handler
  | .mk quiet ticks body => by
      rw [Handler.without, ticksWithout_of_bare hbare ticks, actionsWithout_of_bare hbare body]

theorem actionsWithout_of_bare (hbare : ∀ i, there i = false) :
    ∀ actions : List (Action ι), actionsWithout there actions = actions
  | [] => by rw [actionsWithout]
  | action :: rest => by
      rw [actionsWithout_cons_of_not (action.not_installs_of_bare hbare),
        action.without_of_bare hbare, actionsWithout_of_bare hbare rest]

theorem ticksWithout_of_bare (hbare : ∀ i, there i = false) :
    ∀ ticks : List (List (Action ι)), ticksWithout there ticks = ticks
  | [] => by rw [ticksWithout]
  | actions :: rest => by
      rw [ticksWithout, actionsWithout_of_bare hbare actions, ticksWithout_of_bare hbare rest]

end

theorem Action.installs_of_le (hmore : ∀ i, there i = true → more i = true) {action : Action ι}
    (h : action.installs there = true) : action.installs more = true := by
  rw [Action.installs, Option.any_eq_true] at h ⊢
  obtain ⟨i, hi, hthere⟩ := h
  exact ⟨i, hi, hmore i hthere⟩

mutual

/-- What was taken out before is taken out with the rest. -/
theorem Action.without_without (hmore : ∀ i, there i = true → more i = true) :
    ∀ action : Action ι, (action.without there).without more = action.without more
  | .schedule route kind delay name handler => by
      rw [Action.without, Action.without, Action.without, handler.without_without hmore]
  | .installInterceptor | .installMonitor _ | .installProbes _ | .clear _ _ _ | .drain _ | .now
  | .pending | .setGlobal _ _ | .getGlobal _ | .removeGlobal _ | .setFlag _ _ | .completed
  | .probeNames | .outstanding | .contains _ | .describe | .throw => by simp [Action.without]

theorem Handler.without_without (hmore : ∀ i, there i = true → more i = true) :
    ∀ handler : Handler ι, (handler.without there).without more = handler.without more
  | .mk quiet ticks body => by
      rw [Handler.without, Handler.without, Handler.without, ticksWithout_ticksWithout hmore ticks,
        actionsWithout_actionsWithout hmore body]

theorem actionsWithout_actionsWithout (hmore : ∀ i, there i = true → more i = true) :
    ∀ actions : List (Action ι),
      actionsWithout more (actionsWithout there actions) = actionsWithout more actions
  | [] => by rw [actionsWithout]
  | action :: rest => by
      have ih := actionsWithout_actionsWithout hmore rest
      cases hthere : action.installs there with
      | true =>
          rw [actionsWithout_cons_of_installs hthere,
            actionsWithout_cons_of_installs (Action.installs_of_le hmore hthere), ih]
      | false =>
          have hsame : (action.without there).installs more = action.installs more :=
            action.installs_without
          rw [actionsWithout_cons_of_not hthere]
          cases hinstalls : action.installs more with
          | true =>
              rw [actionsWithout_cons_of_installs hinstalls,
                actionsWithout_cons_of_installs (hsame.trans hinstalls), ih]
          | false =>
              rw [actionsWithout_cons_of_not hinstalls,
                actionsWithout_cons_of_not (hsame.trans hinstalls), ih,
                action.without_without hmore]

theorem ticksWithout_ticksWithout (hmore : ∀ i, there i = true → more i = true) :
    ∀ ticks : List (List (Action ι)),
      ticksWithout more (ticksWithout there ticks) = ticksWithout more ticks
  | [] => by rw [ticksWithout]
  | actions :: rest => by
      rw [ticksWithout, ticksWithout, ticksWithout, actionsWithout_actionsWithout hmore actions,
        ticksWithout_ticksWithout hmore rest]

end

end Code

/-! ## Programs that run -/

section Run

variable (there : Instrument → Bool)

def Control.without {ι : Type} : Control ι → Control ι
  | .run caller actions => .run caller (actionsWithout there actions)
  | .unwind => .unwind
  | .halt ended => .halt ended

def Waiting.without {κ ι : Type} (w : Waiting κ ι) : Waiting κ ι :=
  { w with
    action := w.action.without there
    request := w.request.map (Handler.without there)
    rest := actionsWithout there w.rest }

/-- The clock, with the installations taken out of the callbacks that wait. -/
def VirtualClock.without (clock : VirtualClock (Handler TimerId)) :
    VirtualClock (Handler TimerId) :=
  clock.map (Handler.without there)

/-- A waiting action and its suspended request, without the installations. -/
def ClockMachine.frameWithout :
    Waiting (VirtualClock.UnderWay (Handler TimerId)) TimerId ×
        VirtualClock.UnderWay (Handler TimerId) →
      Waiting (VirtualClock.UnderWay (Handler TimerId)) TimerId ×
        VirtualClock.UnderWay (Handler TimerId) :=
  Prod.map (Waiting.without there) (.map (Handler.without there))

/-- The machine, with the installations taken out of all that it is yet to do. -/
def ClockMachine.without (m : ClockMachine) : ClockMachine :=
  ⟨{ m.world with provider := m.world.provider.without there }, m.control.without there,
    m.stack.map (frameWithout there)⟩

/-- The session, with the installations taken out of all that is yet to be done. -/
def ClockSession.without (s : ClockSession) : ClockSession :=
  ⟨ClockMachine.without there s.machine, actionsWithout there s.coming⟩

end Run

section Again

variable {there more : Instrument → Bool}

theorem Handler.map_without_without (hmore : ∀ i, there i = true → more i = true) :
    Handler.without (ι := TimerId) more ∘ Handler.without there = Handler.without more :=
  funext fun handler => handler.without_without hmore

theorem VirtualClock.without_without (hmore : ∀ i, there i = true → more i = true)
    (clock : VirtualClock (Handler TimerId)) :
    (clock.without there).without more = clock.without more := by
  rw [VirtualClock.without, VirtualClock.without, map_map, Handler.map_without_without hmore,
    VirtualClock.without]

theorem Control.without_without {ι : Type} (hmore : ∀ i, there i = true → more i = true)
    (control : Control ι) : (control.without there).without more = control.without more := by
  cases control with
  | run caller actions => exact congrArg (run caller) (actionsWithout_actionsWithout hmore actions)
  | unwind | halt _ => rfl

theorem Waiting.without_without {κ ι : Type} (hmore : ∀ i, there i = true → more i = true)
    (w : Waiting κ ι) : (w.without there).without more = w.without more := by
  obtain ⟨caller, action, request, watched, rest⟩ := w
  have hrequest : (request.map (Handler.without there)).map (Handler.without more) =
      request.map (Handler.without more) := by
    cases request with
    | schedule kind handler delay =>
        exact congrArg (Request.schedule kind · delay) (handler.without_without hmore)
    | clear _ _ | drain _ => rfl
  simp only [Waiting.without, action.without_without hmore, hrequest,
    actionsWithout_actionsWithout hmore rest]

theorem ClockMachine.frameWithout_frameWithout (hmore : ∀ i, there i = true → more i = true)
    (stack : List (Waiting (VirtualClock.UnderWay (Handler TimerId)) TimerId ×
      VirtualClock.UnderWay (Handler TimerId))) :
    (stack.map (frameWithout there)).map (frameWithout more) = stack.map (frameWithout more) := by
  rw [List.map_map]
  refine List.map_congr_left fun frame _ => Prod.ext (frame.1.without_without hmore) ?_
  obtain ⟨w, goal, left, ran, timer⟩ := frame
  have hcallback := timer.callback.without_without hmore
  simp only [Function.comp_apply, frameWithout, Prod.map_apply, VirtualClock.UnderWay.map,
    QueuedTimer.map, hcallback]

end Again

end PageTimers
