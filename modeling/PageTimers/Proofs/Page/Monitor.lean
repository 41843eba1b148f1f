/-
# What makes a page complete

A page is complete when one of the probes in force says so.  Two moments decide
this, and they may lie far apart:

    which probes       the moment of the first action that installs a monitor,
                       whoever does it (`Session.monitored?`)
    what they answer   the moment at which the page is asked

Only at the first does it matter whether timers are tracked: a probe for them
that was left out then is not made up for, and one that was put in then is not
lost.  After it no action changes the probes (`Machine.Course.monitor`), and what
the probes look at is the page as scripts and callbacks have left it.
-/
import PageTimers.Proofs.Page.Tracking

namespace PageTimers

/-! ## The probes -/

namespace Page

variable {ι : Type} {page : Page ι}

theorem any_askInOrder (probes : List Probe) :
    (page.askInOrder probes).any (·.2) = probes.any page.answer := by
  induction probes with
  | nil => rfl
  | cons probe probes ih =>
      rw [askInOrder, List.any_cons]
      cases hanswer : page.answer probe with
      | true => rfl
      | false => exact ih

/-- Those that say no are asked, as far as the first that says yes. -/
theorem askInOrder_eq (probes : List Probe) :
    page.askInOrder probes =
      (probes.takeWhile fun probe => !page.answer probe).map (·, false) ++
        (probes.find? page.answer).toList.map (·, true) := by
  induction probes with
  | nil => rfl
  | cons probe probes ih =>
      rw [askInOrder, List.takeWhile_cons, List.find?_cons]
      cases hanswer : page.answer probe with
      | true => rfl
      | false => simpa using ih

/-- The page is complete if one of the probes in force says so. -/
theorem completed_iff : page.completed = true ↔
    ∃ probes, page.monitor = some probes ∧ ∃ probe ∈ probes, page.answer probe = true := by
  rw [completed, asked, any_askInOrder, List.any_eq_true]
  cases page.monitor with
  | none => simp
  | some probes => simp

theorem answer_reporter_iff {reporter field : String} :
    page.answer (.reporter reporter field) = true ↔ ∃ fields value,
      page.globals.get? reporter = some (.object fields) ∧ Fields.get? field fields = some value ∧
        ¬ value.IsFalsy := by
  have hlookup : page.globals.lookup? [reporter, field] =
      (page.globals.get? reporter).bind (Json.field? field) := by
    rw [Globals.lookup?]
    refine congrArg _ (funext fun document => ?_)
    rw [Json.descend?]
    cases document.field? field <;> rfl
  rw [answer, hlookup]
  cases hvalue : (page.globals.get? reporter).bind (Json.field? field) with
  | none =>
      refine iff_of_false Bool.false_ne_true ?_
      rintro ⟨fields, value, hget, hfield, -⟩
      rw [hget, Option.bind_some, Json.field?, hfield] at hvalue
      cases hvalue
  | some value =>
      obtain ⟨document, hget, hfield⟩ := Option.bind_eq_some_iff.mp hvalue
      cases document with
      | object fields =>
          refine Json.isTruthy_iff.trans ?_
          constructor
          · exact fun htruthy => ⟨fields, value, hget, hfield, htruthy⟩
          · rintro ⟨fields', value', hget', hfield', htruthy⟩
            rw [hget, Option.some.injEq, Json.object.injEq] at hget'
            rw [← hget', show Fields.get? field fields = some value from hfield] at hfield'
            cases hfield'
            exact htruthy
      | _ => cases hfield

theorem answer_outstanding_iff_isEmpty :
    page.answer .outstanding = true ↔ ∃ set, page.outstanding = some set ∧ set.isEmpty = true := by
  rw [answer]
  cases page.outstanding with
  | none => simp
  | some set => simp

theorem answer_outstanding_iff {page : Page TimerId} :
    page.answer .outstanding = true ↔ page.outstanding.map (·.sorted) = some [] := by
  rw [answer]
  cases page.outstanding with
  | none => simp
  | some set =>
      rw [Option.map_some, Option.some.injEq, ← List.length_eq_zero_iff, Outstanding.sorted,
        List.length_mergeSort, List.length_eq_zero_iff]
      exact Outstanding.isEmpty_iff

/-- What settings ask for, as the page stood when they were followed. -/
theorem any_configuredProbes {before : Page ι} {settings : CompletionSettings} :
    (before.configuredProbes settings).any page.answer = true ↔
      page.answer (.reporter settings.reporterGlobal settings.finishedField) = true ∨
        (settings.includeOutstanding = true ∧ before.isIntercepted = true) ∧
          page.answer .outstanding = true := by
  rw [configuredProbes, List.any_cons, Bool.or_eq_true, ← Bool.and_eq_true]
  cases settings.includeOutstanding && before.isIntercepted <;> simp

/-- The page is judged by these probes: they are asked in order, as far as the
first that says yes, and the page is complete if there is one. -/
structure JudgedBy (probes : List Probe) (page : Page ι) : Prop where
  monitor : page.monitor = some probes
  completed : page.completed = probes.any page.answer
  asked : page.asked =
    (probes.takeWhile fun probe => !page.answer probe).map (·, false) ++
      (probes.find? page.answer).toList.map (·, true)

theorem judgedBy_of_monitor {probes : List Probe} (h : page.monitor = some probes) :
    page.JudgedBy probes where
  monitor := h
  completed := by rw [Page.completed, Page.asked, h, Option.getD_some, any_askInOrder]
  asked := by rw [Page.asked, h, Option.getD_some, askInOrder_eq]

/-! ## What puts them in force -/

/-- The probes that an action puts in force, if none are yet. -/
def probesBy? (page : Page ι) : Action ι → Option (List Probe)
  | .installMonitor (.ok settings) => some (page.configuredProbes settings)
  | .installProbes probes => some probes
  | _ => none

theorem monitor_installMonitor (probes : List Probe) :
    (page.installMonitor probes).1.monitor = page.monitor.or (some probes) := by
  unfold installMonitor
  cases hmonitor : page.monitor with
  | none => rfl
  | some _ => exact hmonitor

@[simp] theorem monitor_note {α : Type} [DecidableEq ι] (request : Request ι α)
    (result : Except TimerError (Answer ι)) :
    (page.note request result).1.monitor = page.monitor := by
  unfold note
  split
  · cases hset : page.outstanding <;> simp [noteScheduled, hset]
  · cases hset : page.outstanding <;> simp [noteCleared, hset]
  · rfl

end Page

namespace Machine

variable {σ κ ι : Type}

/-- The action that is about to be done. -/
def next? (m : Machine σ κ ι) : Option (Action ι) :=
  match m.control with
  | .run _ (action :: _) => some action
  | .run _ [] => none
  | .unwind => none
  | .halt _ => none

theorem control_of_next? {m : Machine σ κ ι} {action : Action ι} (h : m.next? = some action) :
    ∃ caller rest, m.control = .run caller (action :: rest) := by
  obtain ⟨world, control, stack⟩ := m
  cases control with
  | halt _ | unwind => cases h
  | run caller actions =>
      cases actions with
      | nil => cases h
      | cons first rest =>
          cases h
          exact ⟨caller, rest, rfl⟩

/-- The probes that the next step puts in force, if none are yet. -/
def installs? (m : Machine σ κ ι) : Option (List Probe) :=
  m.next?.bind m.world.page.probesBy?

variable [DecidableEq ι] [Identifier ι] {P : Provider σ κ ι (Handler ι)}

theorem plan_finish_monitor {world world' : World σ ι} {caller : Caller ι} {action : Action ι}
    {result : Result ι} (h : plan P world caller action = .finish result world') :
    world'.page.monitor = world.page.monitor.or (world.page.probesBy? action) := by
  cases action with
  | installMonitor settings =>
      cases settings with
      | error e =>
          cases h
          exact Option.or_none.symm
      | ok settings =>
          cases h
          exact Page.monitor_installMonitor _
  | installProbes probes =>
      cases h
      exact Page.monitor_installMonitor probes
  | installInterceptor =>
      cases h
      rw [World.turnPage_page, Page.installInterceptor]
      cases world.page.outstanding <;> exact Option.or_none.symm
  | clear _ _ _ | contains _ =>
      simp only [plan] at h
      split at h <;> cases h
      all_goals exact Option.or_none.symm
  | schedule _ _ _ _ _ | drain _ | throw => cases h
  | _ =>
      cases h
      exact Option.or_none.symm

theorem probesBy?_of_ask {world : World σ ι} {caller : Caller ι} {action : Action ι}
    {request : Request ι (Handler ι)} {watched : Bool}
    (h : plan P world caller action = .ask request watched) :
    world.page.probesBy? action = none := by
  rcases plan_ask h with
    ⟨_, _, _, _, _, rfl, -, -⟩ | ⟨_, _, _, _, rfl, -, -, -⟩ | ⟨_, rfl, -, -⟩ <;>
    rfl

/-- A step puts probes in force only where none are. -/
theorem monitor_step (m : Machine σ κ ι) :
    (m.step P).world.page.monitor = m.world.page.monitor.or m.installs? := by
  obtain ⟨world, control, stack⟩ := m
  cases control with
  | halt ended => exact Option.or_none.symm
  | unwind =>
      rw [show installs? ⟨world, .unwind, stack⟩ = none from rfl, Option.or_none]
      cases stack with
      | nil => rfl
      | cons frame stack => exact settle_keeps fun _ => Page.monitor_note _
  | run caller actions =>
      cases actions with
      | nil =>
          rw [show installs? ⟨world, .run caller [], stack⟩ = none from rfl, Option.or_none]
          cases stack with
          | nil => rfl
          | cons frame stack => exact settle_keeps fun _ => Page.monitor_note _
      | cons action rest =>
          rw [show installs? ⟨world, .run caller (action :: rest), stack⟩ =
            world.page.probesBy? action from rfl]
          simp only [step]
          cases hplan : plan P world caller action with
          | finish result world' =>
              rw [World.record_page]
              exact plan_finish_monitor hplan
          | ask request watched =>
              rw [probesBy?_of_ask hplan, Option.or_none]
              exact settle_keeps fun _ => Page.monitor_note _
          | throw =>
              rw [plan_throw hplan]
              exact Option.or_none.symm

end Machine

/-! ## Whole runs -/

namespace Session

variable {σ κ ι : Type}

/-- The probes that the next step puts in force, if none are yet. -/
def installs? (s : Session σ κ ι) : Option (List Probe) := s.machine.installs?

variable [DecidableEq ι] [Identifier ι]

/-- The probes that the first installation of a monitor in `n` steps fixes. -/
def monitored? (P : Provider σ κ ι (Handler ι)) (s : Session σ κ ι) (n : Nat) :
    Option (List Probe) :=
  (List.range n).findSome? fun k => (s.after P k).installs?

variable {P : Provider σ κ ι (Handler ι)}

theorem monitor_step (s : Session σ κ ι) :
    (s.step P).machine.world.page.monitor = s.machine.world.page.monitor.or s.installs? := by
  have hended : s.machine.ended?.isSome → s.installs? = none := by
    obtain ⟨⟨world, control, stack⟩, coming⟩ := s
    cases control with
    | halt _ => exact fun _ => rfl
    | run _ _ | unwind => exact fun h => by cases h
  unfold step
  split
  · exact s.machine.monitor_step
  · next h _ => rw [hended (by rw [h]; rfl), Option.or_none]
  · next h _ => rw [hended (by rw [h]; rfl), Option.or_none, Machine.load]

theorem monitor_after (s : Session σ κ ι) (n : Nat) :
    (s.after P n).machine.world.page.monitor =
      s.machine.world.page.monitor.or (s.monitored? P n) := by
  induction n with
  | zero => exact Option.or_none.symm
  | succ n ih =>
      rw [after, monitor_step, ih, Option.or_assoc, monitored?, monitored?, List.range_succ,
        List.findSome?_append, List.findSome?_singleton]

theorem monitored?_of_first {s : Session σ κ ι} {n k : Nat} (hk : k < n)
    (hfirst : ∀ j < k, (s.after P j).installs? = none) {probes : List Probe}
    (hprobes : (s.after P k).installs? = some probes) : s.monitored? P n = some probes := by
  have hsettled : s.monitored? P (k + 1) = some probes := by
    have hbefore : s.monitored? P k = none :=
      List.findSome?_eq_none_iff.mpr fun j hj => hfirst j (List.mem_range.mp hj)
    rw [monitored?] at hbefore
    rw [monitored?, List.range_succ, List.findSome?_append, List.findSome?_singleton, hbefore,
      Option.none_or, hprobes]
  obtain ⟨d, rfl⟩ := Nat.exists_eq_add_of_le (Nat.succ_le_of_lt hk)
  exact List.IsPrefix.findSome?_eq_some ⟨_, List.range_add.symm⟩ hsettled

/-- **What makes a page complete.**  Take any provider, and any program that
begins on a bare page, and stop it after any number of steps, inside callbacks
too.  Until an action installs a monitor the page is not complete.  From the
first such action on it is judged by the probes that this action puts in force,
whatever is installed later.  If it follows settings, then the page is complete
just if the field of the reporter holds a value now that is not falsy, or no
timer is outstanding now, this one only if the settings ask for it and the
interceptor was there when they were followed.  And to ask whether the page is
complete leaves everything but the records as it is. -/
theorem completed_by_first_monitor (P : Provider σ κ ι (Handler ι)) (provider : σ)
    (globals : Globals) (actions : List (Action ι)) (n : Nat) :
    let s : Session σ κ ι := start (.start provider globals) actions
    let page := (s.after P n).machine.world.page
    ((∀ k < n, (s.after P k).installs? = none) →
      page.monitor = none ∧ page.completed = false) ∧
    (∀ k < n, (∀ j < k, (s.after P j).installs? = none) →
      ∀ probes, (s.after P k).installs? = some probes → page.JudgedBy probes ∧
        ∀ settings, (s.after P k).machine.next? = some (.installMonitor (.ok settings)) →
          (page.completed = true ↔
            (∃ fields value, page.globals.get? settings.reporterGlobal = some (.object fields) ∧
              Fields.get? settings.finishedField fields = some value ∧ ¬ value.IsFalsy) ∨
            (settings.includeOutstanding = true ∧
              (s.after P k).machine.world.page.isIntercepted = true) ∧
              ∃ set, page.outstanding = some set ∧ set.isEmpty = true)) ∧
    ∀ caller rest, (s.after P n).machine.control = .run caller (.completed :: rest) →
      let m := (s.after P n).machine
      s.after P (n + 1) = ⟨⟨{ m.world with
          log := .did caller .completed (.completion page.completed (page.asked.map (·.1))) ::
            m.world.log
          journal := page.askedEvents.reverse ++ m.world.journal },
        .run caller rest, m.stack⟩, (s.after P n).coming⟩ := by
  intro s page
  have hmonitor : page.monitor = s.monitored? P n := s.monitor_after n
  refine ⟨fun hnone => ?_, fun k hk hfirst probes hprobes => ?_, fun caller rest hcontrol => ?_⟩
  · have hpage : page.monitor = none := by
      rw [hmonitor, monitored?, List.findSome?_eq_none_iff]
      exact fun k hk => hnone k (List.mem_range.mp hk)
    refine ⟨hpage, ?_⟩
    rw [Page.completed, Page.asked, hpage]
    rfl
  · have hjudged : page.JudgedBy probes :=
      Page.judgedBy_of_monitor (hmonitor.trans (monitored?_of_first hk hfirst hprobes))
    refine ⟨hjudged, fun settings hnext => ?_⟩
    have hsettings : probes = (s.after P k).machine.world.page.configuredProbes settings := by
      rw [installs?, Machine.installs?, hnext] at hprobes
      exact (Option.some.inj hprobes).symm
    rw [hjudged.completed, hsettings, Page.any_configuredProbes, Page.answer_reporter_iff,
      Page.answer_outstanding_iff_isEmpty]
  · show Session.step P (s.after P n) = _
    unfold Session.step Machine.step
    rw [Machine.ended?, hcontrol]
    rfl

end Session

end PageTimers
