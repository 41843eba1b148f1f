/-
# A clear of a task is final, and says whether it was needed

The task of a timer runs by itself, and three things can put an end to it: a clear,
the end of its owner, and its own callback, which throws, or is that of a one-shot
timer.  They may come in any order, and a clear may come when it is all over.  What
there is to know of a timer is in what has happened since it was handed out
(`Unstopped`), and from that it can be told whether it can still fire:

    CanFire    handed out, and since then neither cleared nor dropped; not yet
               started, if it is a one-shot timer; and no start of it was the one
               on which its callback throws

`Accounts` says that the table of tasks is this account of the history, timer by
timer: a timer that can fire has a live task, a dead task is one whose callback
threw, and there is no other.  Each step keeps it, and so does each turn of a
sleep.  So whatever a clear answers and whatever starts is read off the history.
-/
import PageTimers.Program.TaskSession
import PageTimers.Proofs.Tasks.Waking

namespace PageTimers

/-! ## What happens to timers -/

/-- What is done with timers by whoever owns them. -/
inductive TaskOp
  | schedule (kind : TimerKind) (delay : Duration) (callback : TaskCallback)
  | clear (kind : TimerKind) (id : TimerId)
  /-- Let time pass. -/
  | sleep (ms : Nat)
  /-- Let go of all timers. -/
  | drop

/-- What happens to timers, as their owner sees it. -/
inductive TaskHappening
  | handedOut (id : TimerId) (kind : TimerKind) (callback : TaskCallback)
  | cleared (id : TimerId) (answer : Bool)
  /-- The callback of a timer is started. -/
  | started (id : TimerId)
  | dropped

namespace TaskHappening

/-- The identifier that is handed out. -/
def handed? : TaskHappening → Option TimerId
  | handedOut id _ _ => some id
  | cleared .. => none
  | started _ => none
  | dropped => none

/-- The timer whose callback is started. -/
def started? : TaskHappening → Option TimerId
  | handedOut .. => none
  | cleared .. => none
  | started id => some id
  | dropped => none

end TaskHappening

/-- The timer whose callback is started. -/
def Event.woken? : Event TimerId → Option TimerId
  | .timeoutWoke id => some id
  | .intervalTicked id => some id
  | _ => none

/-- Timers, and the page that their callbacks act on. -/
structure TaskSite where
  clock : TaskClock TaskCallback
  page : TaskPage

namespace TaskSite

def apply (op : TaskOp) (site : TaskSite) : TaskSite :=
  match op with
  | .schedule kind delay callback =>
    { site with clock := (site.clock.schedule kind callback delay).2 }
  | .clear _ id => { site with clock := (site.clock.cancel id).2 }
  | .sleep ms =>
    let woken := site.clock.sleep TaskCallback.call ms site.page []
    ⟨woken.clock, woken.world⟩
  | .drop => { site with clock := site.clock.stopAll }

/-- What happens to timers when an owner does something. -/
def happenings (op : TaskOp) (site : TaskSite) : List TaskHappening :=
  match op with
  | .schedule kind delay callback =>
    [.handedOut (site.clock.schedule kind callback delay).1 kind callback]
  | .clear _ id => [.cleared id (site.clock.cancel id).1]
  | .sleep ms =>
    ((site.clock.sleep TaskCallback.call ms site.page []).journal.reverse.filterMap
      Event.woken?).map .started
  | .drop => [.dropped]

def after (site : TaskSite) : List TaskOp → TaskSite
  | [] => site
  | op :: rest => (site.apply op).after rest

/-- All that happens to timers, in order. -/
def history (site : TaskSite) : List TaskOp → List TaskHappening
  | [] => []
  | op :: rest => site.happenings op ++ (site.apply op).history rest

end TaskSite

theorem TaskCallback.call_eq_thrown_iff (callback : TaskCallback) (now count : Nat)
    (page : TaskPage) :
    (callback.call now count page).1 = .thrown ↔ callback.throwsOn = some (count + 1) := by
  rw [call]
  split <;> simp [*]

@[simp]
theorem TaskClock.woken?_wakeEvent (task : Task TaskCallback) :
    (wakeEvent task).woken? = some task.id := by
  unfold wakeEvent
  split <;> rfl

/-- While time passes, the callbacks of the tasks that wake are started. -/
theorem TaskSite.happenings_sleep (ms : Nat) (site : TaskSite) :
    site.happenings (.sleep ms) =
      (TaskClock.wakingsIn TaskCallback.call ms site.clock site.page).map fun t =>
        .started t.id := by
  have hjournal : (site.clock.sleep TaskCallback.call ms site.page []).journal =
      ((TaskClock.wakingsIn TaskCallback.call ms site.clock site.page).map
        TaskClock.wakeEvent).reverse ++ [] :=
    TaskClock.turns_journal _ _ _ _
  simp [happenings, hjournal, List.filterMap_map, Function.comp_def]

/-! ## Which timers can fire -/

/-- How often the callback of a timer was started. -/
def startsOf (id : TimerId) (history : List TaskHappening) : Nat :=
  (history.filterMap TaskHappening.started?).count id

/-- The timer was handed out, and nothing of what happened since then stopped it. -/
structure Unstopped (id : TimerId) (kind : TimerKind) (callback : TaskCallback)
    (history since : List TaskHappening) : Prop where
  handedOut : ∃ before, history = before ++ .handedOut id kind callback :: since
  uncleared : ∀ answer, .cleared id answer ∉ since
  undropped : .dropped ∉ since

/-- The timer was handed out and can still fire: it was neither cleared nor
dropped, it has not fired if it fires once, and its callback has not thrown. -/
def CanFire (id : TimerId) (history : List TaskHappening) : Prop :=
  ∃ kind callback since, Unstopped id kind callback history since ∧
    (kind = .once → startsOf id since = 0) ∧
    ∀ n, callback.throwsOn = some (n + 1) → startsOf id since ≤ n

theorem startsOf_append (id : TimerId) (history later : List TaskHappening) :
    startsOf id (history ++ later) = startsOf id history + startsOf id later := by
  rw [startsOf, List.filterMap_append, List.count_append]
  rfl

theorem startsOf_started (id : TimerId) : startsOf id [.started id] = 1 :=
  List.count_singleton_self

theorem startsOf_of_started?_ne {id : TimerId} {happening : TaskHappening}
    (h : happening.started? ≠ some id) : startsOf id [happening] = 0 := by
  refine List.count_eq_zero.mpr fun hmem => h ?_
  obtain ⟨_, hsingle, hstarted⟩ := List.mem_filterMap.mp hmem
  rwa [List.mem_singleton.mp hsingle] at hstarted

theorem startsOf_eq_zero {id : TimerId} {history : List TaskHappening} :
    startsOf id history = 0 ↔ .started id ∉ history := by
  rw [startsOf, List.count_eq_zero, List.mem_filterMap, not_iff_not]
  constructor
  · rintro ⟨happening, hmem, hstarted⟩
    cases happening with
    | started other => cases hstarted; exact hmem
    | handedOut => cases hstarted
    | cleared => cases hstarted
    | dropped => cases hstarted
  · exact fun hmem => ⟨_, hmem, rfl⟩

/-- A key that occurs once is found in one place only. -/
theorem eq_of_split {α β : Type} {key : α → Option β} {k : β} {x y : α} {a b c d : List α}
    (hkeys : ((a ++ x :: b).filterMap key).Nodup) (hx : key x = some k) (hy : key y = some k)
    (h : a ++ x :: b = c ++ y :: d) : x = y ∧ b = d := by
  have htwice : ∀ {e f g : List α} {z w : α}, key z = some k → key w = some k →
      ¬ ((e ++ z :: (f ++ w :: g)).filterMap key).Nodup := by
    intro e f g z w hz hw hnodup
    simp [List.nodup_append, hz, hw] at hnodup
  rcases List.append_eq_append_iff.mp h with ⟨e, rfl, he⟩ | ⟨e, rfl, he⟩
  · cases e with
    | nil => exact List.cons.inj he
    | cons z e =>
        obtain ⟨rfl, rfl⟩ := List.cons.inj he
        exact absurd hkeys (htwice hx hy)
  · cases e with
    | nil => exact (List.cons.inj he).imp Eq.symm Eq.symm
    | cons z e =>
        obtain ⟨rfl, rfl⟩ := List.cons.inj he
        rw [List.append_assoc, List.cons_append] at hkeys
        exact absurd hkeys (htwice hy hx)

/-- A timer is handed out once. -/
theorem handedOut_inj {id : TimerId} {kind kind' : TimerKind} {callback callback' : TaskCallback}
    {history : List TaskHappening} (hids : (history.filterMap TaskHappening.handed?).Nodup)
    (h : .handedOut id kind callback ∈ history) (h' : .handedOut id kind' callback' ∈ history) :
    kind = kind' ∧ callback = callback' := by
  obtain ⟨before, after, rfl⟩ := List.append_of_mem h
  obtain ⟨before', after', hsplit⟩ := List.append_of_mem h'
  cases (eq_of_split hids rfl rfl hsplit).1
  exact ⟨rfl, rfl⟩

namespace Unstopped

variable {id : TimerId} {kind kind' : TimerKind} {callback callback' : TaskCallback}
  {history since since' : List TaskHappening} {happening : TaskHappening}

theorem mem (h : Unstopped id kind callback history since) :
    .handedOut id kind callback ∈ history := by
  obtain ⟨before, rfl⟩ := h.handedOut
  exact List.mem_append_right _ List.mem_cons_self

theorem snoc (h : Unstopped id kind callback history since)
    (hclear : ∀ answer, happening ≠ .cleared id answer) (hdrop : happening ≠ .dropped) :
    Unstopped id kind callback (history ++ [happening]) (since ++ [happening]) where
  handedOut := by
    obtain ⟨before, rfl⟩ := h.handedOut
    exact ⟨before, by simp⟩
  uncleared answer hmem := by
    rcases List.mem_append.mp hmem with hmem | hmem
    · exact h.uncleared answer hmem
    · exact hclear answer (List.mem_singleton.mp hmem).symm
  undropped hmem := by
    rcases List.mem_append.mp hmem with hmem | hmem
    · exact h.undropped hmem
    · exact hdrop (List.mem_singleton.mp hmem).symm

theorem of_snoc (h : Unstopped id kind callback (history ++ [happening]) since) :
    (happening = .handedOut id kind callback ∧ since = []) ∨
      ∃ earlier, since = earlier ++ [happening] ∧ Unstopped id kind callback history earlier := by
  obtain ⟨before, hsplit⟩ := h.handedOut
  rcases snoc_eq_append_cons hsplit with ⟨hsince, hhanded, -⟩ | ⟨earlier, rfl, hhistory⟩
  · exact Or.inl ⟨hhanded.symm, hsince⟩
  · refine Or.inr ⟨earlier, rfl, ⟨before, hhistory⟩, fun answer hmem => ?_, fun hmem => ?_⟩
    · exact h.uncleared answer (List.mem_append_left _ hmem)
    · exact h.undropped (List.mem_append_left _ hmem)

/-- What came since is what comes after the one place where it was handed out. -/
theorem eq_of_split (hids : (history.filterMap TaskHappening.handed?).Nodup)
    (h : Unstopped id kind callback history since) {before after : List TaskHappening}
    (hsplit : history = before ++ .handedOut id kind' callback' :: after) :
    kind = kind' ∧ callback = callback' ∧ since = after := by
  obtain ⟨first, rfl⟩ := h.handedOut
  obtain ⟨hsame, hsince⟩ := PageTimers.eq_of_split hids rfl rfl hsplit
  cases hsame
  exact ⟨rfl, rfl, hsince⟩

theorem unique (hids : (history.filterMap TaskHappening.handed?).Nodup)
    (h : Unstopped id kind callback history since)
    (h' : Unstopped id kind' callback' history since') :
    kind = kind' ∧ callback = callback' ∧ since = since' := by
  obtain ⟨before, hsplit⟩ := h'.handedOut
  exact h.eq_of_split hids hsplit

end Unstopped

/-- A timer that can fire after others were started could fire before. -/
theorem CanFire.of_starts {id : TimerId} {history : List TaskHappening} (started : List TimerId)
    (h : CanFire id (history ++ started.map .started)) : CanFire id history := by
  induction started generalizing history with
  | nil => rwa [List.map_nil, List.append_nil] at h
  | cons other rest ih =>
      rw [List.map_cons, List.append_cons] at h
      obtain ⟨kind, callback, since, hunstopped, honce, hthrow⟩ := ih h
      rcases hunstopped.of_snoc with ⟨hhanded, -⟩ | ⟨earlier, rfl, hearlier⟩
      · cases hhanded
      · rw [startsOf_append] at honce hthrow
        exact ⟨kind, callback, earlier, hearlier,
          fun hkind => Nat.eq_zero_of_add_eq_zero_right (honce hkind),
          fun n hn => Nat.le_of_add_right_le (hthrow n hn)⟩

/-! ## The account of a history -/

/-- The task stands for a timer that was not stopped: it is alive unless its
callback has thrown, and a live task counts the starts. -/
structure StandsFor (task : Task TaskCallback) (kind : TimerKind)
    (history since : List TaskHappening) : Prop where
  unstopped : Unstopped task.id kind task.callback history since
  period : task.period = none ↔ kind = .once
  unfired : kind = .once → startsOf task.id since = 0
  alive : task.alive = true ↔
    ∀ n, task.callback.throwsOn = some (n + 1) → startsOf task.id since ≤ n
  runs : task.alive = true → task.runs = startsOf task.id since

/-- What may happen after a history: only timers that can fire are started, and a
clear answers whether the timer can. -/
def TaskHappening.MayFollow (history : List TaskHappening) : TaskHappening → Prop
  | handedOut .. => True
  | cleared id answer => answer = true ↔ CanFire id history
  | started id => CanFire id history
  | dropped => True

/-- The table of tasks is the account of the history. -/
structure Accounts (history : List TaskHappening) (clock : TaskClock TaskCallback) : Prop where
  timely : clock.Timely
  handed : history.filterMap TaskHappening.handed? =
    (List.range clock.lastId).map fun n => ⟨n + 1⟩
  ids : (clock.tasks.map Task.id).Nodup
  stands : ∀ t ∈ clock.tasks, ∃ kind since, StandsFor t kind history since
  present : ∀ {id kind callback since}, Unstopped id kind callback history since →
    (kind = .once → startsOf id since = 0) → ∃ t ∈ clock.tasks, t.id = id
  follows : ∀ {before after happening}, history = before ++ happening :: after →
    happening.MayFollow before

namespace StandsFor

variable {task : Task TaskCallback} {kind : TimerKind} {history since : List TaskHappening}
  {happening : TaskHappening}

/-- What happens to another timer is nothing to the task. -/
theorem snoc (h : StandsFor task kind history since)
    (hclear : ∀ answer, happening ≠ .cleared task.id answer) (hdrop : happening ≠ .dropped)
    (hstart : happening.started? ≠ some task.id) :
    StandsFor task kind (history ++ [happening]) (since ++ [happening]) := by
  have hstarts : startsOf task.id (since ++ [happening]) = startsOf task.id since := by
    rw [startsOf_append, startsOf_of_started?_ne hstart]
    rfl
  refine ⟨h.unstopped.snoc hclear hdrop, h.period, ?_, ?_, ?_⟩
  · rw [hstarts]
    exact h.unfired
  · rw [hstarts]
    exact h.alive
  · rw [hstarts]
    exact h.runs

theorem canFire (h : StandsFor task kind history since) (halive : task.alive = true) :
    CanFire task.id history :=
  ⟨kind, task.callback, since, h.unstopped, h.unfired, h.alive.mp halive⟩

/-- What is left of a task accounts for one start more. -/
theorem turn {after : Task TaskCallback} (h : StandsFor task kind history since)
    (halive : task.alive = true) {ended : Ended} {ticket : Nat}
    (hended : ended = .thrown ↔ task.callback.throwsOn = some (task.runs + 1))
    (hafter : task.afterwards ended ticket = some after) :
    StandsFor after kind (history ++ [.started task.id]) (since ++ [.started task.id]) := by
  obtain ⟨period, hperiod, rfl⟩ := Option.map_eq_some_iff.mp hafter
  have hstarts : startsOf task.id (since ++ [.started task.id]) = startsOf task.id since + 1 := by
    rw [startsOf_append, startsOf_started]
  have hruns := h.runs halive
  have hunstopped : Unstopped task.id kind task.callback (history ++ [.started task.id])
      (since ++ [.started task.id]) := h.unstopped.snoc (fun _ => by simp) (by simp)
  have hrepeats : kind ≠ .once := fun honce => by
    rw [h.period.mpr honce] at hperiod
    cases hperiod
  cases ended with
  | thrown =>
      have hthrows := hended.mp rfl
      refine ⟨hunstopped, h.period, fun honce => absurd honce hrepeats, ?_,
        fun hdead => by cases hdead⟩
      refine iff_of_false (fun hdead => by cases hdead) fun hall => ?_
      have hle := hall task.runs hthrows
      have hle : startsOf task.id (since ++ [.started task.id]) ≤ task.runs := hle
      omega
  | returned =>
      refine ⟨hunstopped, h.period, fun honce => absurd honce hrepeats, ?_, fun _ => ?_⟩
      · refine iff_of_true halive fun n hn => ?_
        have hle := h.alive.mp halive n hn
        have hne : n ≠ task.runs := by
          rintro rfl
          cases hended.mpr hn
        show startsOf task.id (since ++ [.started task.id]) ≤ n
        omega
      · show task.runs + 1 = startsOf task.id (since ++ [.started task.id])
        omega

end StandsFor

namespace Accounts

variable {history : List TaskHappening} {clock : TaskClock TaskCallback}

theorem nodup (h : Accounts history clock) : (history.filterMap TaskHappening.handed?).Nodup := by
  rw [h.handed]
  refine List.nodup_range.map fun m n hmn => ?_
  cases hmn
  rfl

theorem nodup_of_prefix (h : Accounts history clock) {before after : List TaskHappening}
    (hsplit : history = before ++ after) : (before.filterMap TaskHappening.handed?).Nodup := by
  have hids := h.nodup
  rw [hsplit, List.filterMap_append] at hids
  exact hids.of_append_left

/-- A timer can fire if it has a live task. -/
theorem canFire_iff (h : Accounts history clock) {id : TimerId} :
    CanFire id history ↔ ∃ t ∈ clock.tasks, t.id = id ∧ t.alive = true := by
  constructor
  · rintro ⟨kind, callback, since, hunstopped, honce, hthrow⟩
    obtain ⟨t, ht, rfl⟩ := h.present hunstopped honce
    obtain ⟨kind', since', hstands⟩ := h.stands t ht
    obtain ⟨rfl, rfl, rfl⟩ := hstands.unstopped.unique h.nodup hunstopped
    exact ⟨t, ht, rfl, hstands.alive.mpr hthrow⟩
  · rintro ⟨t, ht, rfl, halive⟩
    obtain ⟨kind, since, hstands⟩ := h.stands t ht
    exact hstands.canFire halive

theorem fresh : Accounts [] .fresh := by
  refine ⟨.fresh, rfl, List.nodup_nil, fun _ h => absurd h List.not_mem_nil, fun h => ?_,
    fun h => ?_⟩
  · exact absurd h.mem List.not_mem_nil
  · simp at h

theorem follows_snoc (h : Accounts history clock) (happening : TaskHappening)
    (hmay : happening.MayFollow history) {before after : List TaskHappening} {next : TaskHappening}
    (hsplit : history ++ [happening] = before ++ next :: after) : next.MayFollow before := by
  rcases snoc_eq_append_cons hsplit with ⟨-, rfl, rfl⟩ | ⟨rest, -, hearlier⟩
  · exact hmay
  · exact h.follows hearlier

/-- The next identifier has not been handed out. -/
theorem next_not_mem (h : Accounts history clock) :
    ⟨clock.lastId + 1⟩ ∉ history.filterMap TaskHappening.handed? := by
  rw [h.handed]
  intro hmem
  obtain ⟨n, hn, hid⟩ := List.mem_map.mp hmem
  have hlt : n < clock.lastId := List.mem_range.mp hn
  cases hid
  omega

theorem handed_of_task (h : Accounts history clock) {t : Task TaskCallback}
    (ht : t ∈ clock.tasks) : t.id ∈ history.filterMap TaskHappening.handed? := by
  obtain ⟨kind, since, hstands⟩ := h.stands t ht
  exact List.mem_filterMap.mpr ⟨_, hstands.unstopped.mem, rfl⟩

/-! ### Steps -/

theorem schedule (h : Accounts history clock) (kind : TimerKind) (callback : TaskCallback)
    (delay : Duration) :
    Accounts (history ++ [.handedOut (clock.schedule kind callback delay).1 kind callback])
      (clock.schedule kind callback delay).2 where
  timely := h.timely.schedule kind callback delay
  handed := by
    rw [List.filterMap_append, h.handed]
    show _ = (List.range (clock.lastId + 1)).map _
    rw [List.range_succ, List.map_append]
    rfl
  ids := by
    refine List.nodup_cons.mpr ⟨fun hmem => ?_, h.ids⟩
    obtain ⟨t, ht, hid⟩ := List.mem_map.mp hmem
    have hid : t.id = ⟨clock.lastId + 1⟩ := hid
    exact h.next_not_mem (hid ▸ h.handed_of_task ht)
  stands := by
    refine List.forall_mem_cons.mpr ⟨⟨kind, [], ⟨⟨history, rfl⟩, ?_, ?_⟩, ?_, fun _ => rfl, ?_,
      fun _ => rfl⟩, fun t ht => ?_⟩
    · exact fun _ => List.not_mem_nil
    · exact List.not_mem_nil
    · cases kind <;> simp
    · exact iff_of_true rfl fun n _ => Nat.zero_le n
    · obtain ⟨kind', since, hstands⟩ := h.stands t ht
      exact ⟨kind', _, hstands.snoc (fun _ => by simp) (by simp) (by simp [TaskHappening.started?])⟩
  present := by
    intro id kind' callback' since hunstopped honce
    rcases hunstopped.of_snoc with ⟨hhanded, -⟩ | ⟨earlier, rfl, hearlier⟩
    · cases hhanded
      exact ⟨_, List.mem_cons_self, rfl⟩
    · rw [startsOf_append] at honce
      obtain ⟨t, ht, hid⟩ := h.present hearlier honce
      exact ⟨t, List.mem_cons_of_mem _ ht, hid⟩
  follows := h.follows_snoc (.handedOut _ kind callback) trivial

theorem clear (h : Accounts history clock) (id : TimerId) :
    Accounts (history ++ [.cleared id (clock.cancel id).1]) (clock.cancel id).2 where
  timely := h.timely.of_sublist List.filter_sublist
  handed := by
    rw [List.filterMap_append, h.handed]
    exact List.append_nil _
  ids := h.ids.sublist (List.filter_sublist.map _)
  stands := by
    intro t ht
    obtain ⟨ht, hother⟩ := List.mem_filter.mp ht
    have hother : t.id ≠ id := bne_iff_ne.mp hother
    obtain ⟨kind, since, hstands⟩ := h.stands t ht
    refine ⟨kind, _, hstands.snoc (fun answer hclear => ?_) (by simp)
      (by simp [TaskHappening.started?])⟩
    cases hclear
    exact hother rfl
  present := by
    intro id' kind callback since hunstopped honce
    rcases hunstopped.of_snoc with ⟨hhanded, -⟩ | ⟨earlier, rfl, hearlier⟩
    · cases hhanded
    · have hother : id' ≠ id := by
        rintro rfl
        exact hunstopped.uncleared _ (List.mem_append_right _ List.mem_cons_self)
      rw [startsOf_append] at honce
      obtain ⟨t, ht, hid⟩ := h.present hearlier honce
      exact ⟨t, List.mem_filter.mpr ⟨ht, bne_iff_ne.mpr (hid ▸ hother)⟩, hid⟩
  follows := by
    refine h.follows_snoc (.cleared id _) (h.canFire_iff.trans ?_).symm
    simp [TaskClock.cancel]

theorem drop (h : Accounts history clock) : Accounts (history ++ [.dropped]) clock.stopAll where
  timely := h.timely.of_sublist (List.nil_sublist _)
  handed := by
    rw [List.filterMap_append, h.handed]
    exact List.append_nil _
  ids := List.nodup_nil
  stands _ ht := absurd ht List.not_mem_nil
  present := by
    intro id kind callback since hunstopped _
    rcases hunstopped.of_snoc with ⟨hhanded, -⟩ | ⟨earlier, rfl, -⟩
    · cases hhanded
    · exact absurd (List.mem_append_right _ List.mem_cons_self) hunstopped.undropped
  follows := h.follows_snoc .dropped trivial

/-- A task wakes whose timer can fire, and what is left of it accounts for one
start more. -/
theorem turn (h : Accounts history clock) {limit : Nat} {task : Task TaskCallback}
    (hnext : clock.next? limit = some task) {ended : Ended}
    (hended : ended = .thrown ↔ task.callback.throwsOn = some (task.runs + 1)) :
    Accounts (history ++ [.started task.id]) ((clock.wake task).settle task ended) := by
  obtain ⟨hmem, halive, -, -⟩ := TaskClock.next?_spec hnext
  obtain ⟨hbefore, hafter⟩ := TaskClock.settle_perm hmem h.timely.tickets ended
  obtain ⟨kind, since, hstands⟩ := h.stands task hmem
  have hids := (hbefore.map Task.id).nodup_iff.mp h.ids
  rw [List.map_cons, List.nodup_cons] at hids
  have hother : ∀ t ∈ clock.tasks.filter (·.ticket != task.ticket), t.id ≠ task.id :=
    fun t ht hid => hids.1 (hid ▸ List.mem_map_of_mem ht)
  refine ⟨h.timely.turn hnext ended, ?_, ?_, fun t ht => ?_, ?_,
    h.follows_snoc (.started task.id) (hstands.canFire halive)⟩
  · rw [List.filterMap_append, h.handed, TaskClock.settle_lastId]
    exact List.append_nil _
  · rw [(hafter.map Task.id).nodup_iff]
    cases hleft : task.afterwards ended (clock.lastTicket + 1) with
    | none => exact hids.2
    | some after =>
        refine List.nodup_cons.mpr ⟨?_, hids.2⟩
        rw [Task.afterwards_id hleft]
        exact hids.1
  · rcases List.mem_append.mp (hafter.subset ht) with hleft | hrest
    · exact ⟨kind, _, hstands.turn halive hended (Option.mem_toList.mp hleft)⟩
    · obtain ⟨kind', since', hstands'⟩ := h.stands t (List.mem_filter.mp hrest).1
      refine ⟨kind', _, hstands'.snoc (fun _ => by simp) (by simp) ?_⟩
      exact fun hsame => hother t hrest (Option.some.inj hsame).symm
  · intro id kind' callback since' hunstopped honce
    rcases hunstopped.of_snoc with ⟨hhanded, -⟩ | ⟨earlier, rfl, hearlier⟩
    · cases hhanded
    rw [startsOf_append] at honce
    by_cases hid : id = task.id
    · -- it has just been started, so it is a repeating timer and its task stays
      subst hid
      obtain ⟨rfl, -, -⟩ := hstands.unstopped.unique h.nodup hearlier
      have hrepeats : task.period ≠ none := fun hperiod => by
        have hnone := honce (hstands.period.mp hperiod)
        rw [startsOf_started] at hnone
        cases hnone
      obtain ⟨period, hperiod⟩ := Option.ne_none_iff_exists'.mp hrepeats
      have hleft := Task.afterwards_of_repeating hperiod ended (clock.lastTicket + 1)
      refine ⟨_, hafter.symm.subset (List.mem_append_left _ (Option.mem_toList.mpr hleft)), ?_⟩
      exact Task.afterwards_id hleft
    · obtain ⟨t, ht, rfl⟩ := h.present hearlier fun hkind => by
        have hnone := honce hkind
        omega
      rcases List.mem_cons.mp (hbefore.subset ht) with rfl | hrest
      · exact absurd rfl hid
      · exact ⟨t, hafter.symm.subset (List.mem_append_right _ hrest), rfl⟩

theorem turns (left : Nat) {history : List TaskHappening} {clock : TaskClock TaskCallback}
    (h : Accounts history clock) (limit : Nat) (page : TaskPage)
    (journal : List (Event TimerId)) :
    Accounts
      (history ++
        (TaskClock.wakings TaskCallback.call limit left clock page).map fun t => .started t.id)
      (TaskClock.turns TaskCallback.call limit left clock page journal).clock := by
  induction left generalizing history clock page journal with
  | zero =>
      rw [TaskClock.wakings, List.map_nil, List.append_nil]
      exact h
  | succ left ih =>
      rw [TaskClock.wakings, TaskClock.turns]
      cases hnext : clock.next? limit with
      | none =>
          rw [List.map_nil, List.append_nil]
          exact h
      | some task =>
          have hturn := h.turn hnext
            (task.callback.call_eq_thrown_iff (clock.wake task).now task.runs page)
          show Accounts (_ ++ _ :: _) _
          rw [List.append_cons]
          exact ih hturn _ _

/-! ### Whole runs -/

theorem apply {site : TaskSite} (h : Accounts history site.clock) (op : TaskOp) :
    Accounts (history ++ site.happenings op) (site.apply op).clock := by
  cases op with
  | schedule kind delay callback => exact h.schedule kind callback delay
  | clear kind id => exact h.clear id
  | drop => exact h.drop
  | sleep ms =>
      rw [TaskSite.happenings_sleep]
      have hturns := h.turns (site.clock.turnsBound (site.clock.now + ms)) (site.clock.now + ms)
        site.page []
      exact ⟨h.timely.sleep ms site.page [], hturns.handed, hturns.ids, hturns.stands,
        hturns.present, hturns.follows⟩

theorem after {history : List TaskHappening} {site : TaskSite} (h : Accounts history site.clock)
    (ops : List TaskOp) : Accounts (history ++ site.history ops) (site.after ops).clock := by
  induction ops generalizing history site with
  | nil =>
      rw [TaskSite.history, List.append_nil]
      exact h
  | cons op rest ih =>
      rw [TaskSite.history, ← List.append_assoc]
      exact ih (h.apply op)

/-! ### What is read off the account -/

/-- What was stopped has stopped for good. -/
theorem not_started (h : Accounts history clock) {before after : List TaskHappening}
    {stop : TaskHappening} {id : TimerId} {kind : TimerKind} {callback : TaskCallback}
    (hsplit : history = before ++ stop :: after)
    (hstop : (∃ answer, stop = .cleared id answer) ∨ stop = .dropped)
    (hhanded : .handedOut id kind callback ∈ before) : .started id ∉ after := by
  intro hstarted
  obtain ⟨between, later, rfl⟩ := List.append_of_mem hstarted
  obtain ⟨first, second, rfl⟩ := List.append_of_mem hhanded
  have hagain : history = (first ++ .handedOut id kind callback :: (second ++ stop :: between)) ++
      .started id :: later := by
    rw [hsplit]
    simp
  obtain ⟨kind', callback', since, hunstopped, -, -⟩ := h.follows hagain
  obtain ⟨-, -, rfl⟩ := hunstopped.eq_of_split (h.nodup_of_prefix hagain) rfl
  rcases hstop with ⟨answer, rfl⟩ | rfl
  · exact hunstopped.uncleared answer (List.mem_append_right _ List.mem_cons_self)
  · exact hunstopped.undropped (List.mem_append_right _ List.mem_cons_self)

/-- A timer that fires once is started once at most: it can fire before its first
start, so it was handed out by then, and after that start it cannot. -/
theorem startsOf_once_le (h : Accounts history clock) {id : TimerId} {callback : TaskCallback}
    (hhanded : .handedOut id .once callback ∈ history) : startsOf id history ≤ 1 := by
  by_cases hstarted : .started id ∈ history
  swap
  · rw [startsOf_eq_zero.mpr hstarted]
    exact Nat.zero_le 1
  obtain ⟨before, after, hsplit, hfirst⟩ := List.eq_append_cons_of_mem hstarted
  have hlast : .started id ∉ after := by
    intro hagain
    obtain ⟨between, later, rfl⟩ := List.append_of_mem hagain
    obtain ⟨kind, other, since, hunstopped, -, -⟩ := h.follows hsplit
    obtain ⟨start, rfl⟩ := hunstopped.handedOut
    have hsecond : history = (start ++ .handedOut id kind other ::
        (since ++ .started id :: between)) ++ .started id :: later := by
      rw [hsplit]
      simp
    obtain ⟨kind', _, _, hunstopped', honce, -⟩ := h.follows hsecond
    obtain ⟨rfl, -, rfl⟩ := hunstopped'.eq_of_split (h.nodup_of_prefix hsecond) rfl
    have hmem : .handedOut id kind' other ∈ history := by
      rw [hsplit]
      exact List.mem_append_left _ hunstopped.mem
    have hkind := (handedOut_inj h.nodup hmem hhanded).1
    exact startsOf_eq_zero.mp (honce hkind) (List.mem_append_right _ List.mem_cons_self)
  rw [hsplit, List.append_cons, startsOf_append, startsOf_append, startsOf_started,
    startsOf_eq_zero.mpr hfirst, startsOf_eq_zero.mpr hlast]

theorem canFire_iff_wakes {site : TaskSite} (h : Accounts history site.clock) {id : TimerId} :
    CanFire id history ↔ ∃ ms, .started id ∈ site.happenings (.sleep ms) := by
  constructor
  · intro hfire
    obtain ⟨t, ht, rfl, halive⟩ := h.canFire_iff.mp hfire
    have hnow := h.timely.now_le t ht halive
    have hdue : t.wakesAt ≤ site.clock.now + (t.wakesAt - site.clock.now) := by omega
    obtain ⟨w, hw, hid⟩ := h.timely.mem_wakings _ (h.timely.turnsLeft_le _) ht halive hdue site.page
    refine ⟨t.wakesAt - site.clock.now, ?_⟩
    rw [TaskSite.happenings_sleep]
    exact List.mem_map.mpr ⟨w, hw, congrArg _ hid⟩
  · rintro ⟨ms, hstarted⟩
    have hslept := h.apply (.sleep ms)
    rw [TaskSite.happenings_sleep] at hstarted hslept
    obtain ⟨w, hw, hid⟩ := List.mem_map.mp hstarted
    obtain ⟨earlier, later, hwakings⟩ := List.append_of_mem hw
    cases hid
    rw [hwakings, List.map_append, List.map_cons, ← List.append_assoc] at hslept
    have hfire : CanFire w.id (history ++ earlier.map fun t => .started t.id) := hslept.follows rfl
    refine CanFire.of_starts (earlier.map Task.id) ?_
    rw [List.map_map]
    exact hfire

end Accounts

namespace TaskSite

theorem runs_length_turns (limit left : Nat) (clock : TaskClock TaskCallback) (page : TaskPage)
    (journal : List (Event TimerId)) :
    (TaskClock.turns TaskCallback.call limit left clock page journal).world.runs.length =
      page.runs.length +
        (TaskClock.wakings TaskCallback.call limit left clock page).length := by
  induction left generalizing clock page journal with
  | zero => rfl
  | succ left ih =>
      rw [TaskClock.turns, TaskClock.wakings]
      cases clock.next? limit with
      | none => rfl
      | some task =>
          have hrun : (TaskCallback.call task.callback (clock.wake task).now task.runs
              page).2.runs.length = page.runs.length + 1 := rfl
          have hrest := ih ((clock.wake task).settle task
            (TaskCallback.call task.callback (clock.wake task).now task.runs page).1)
            (TaskCallback.call task.callback (clock.wake task).now task.runs page).2
            (TaskClock.wakeEvent task :: journal)
          rw [hrun] at hrest
          exact hrest.trans (Nat.add_right_comm _ _ _)

/-- The callbacks that are started are those that run. -/
theorem runs_length_apply (op : TaskOp) (site : TaskSite) :
    (site.apply op).page.runs.length =
      site.page.runs.length +
        ((site.happenings op).filterMap TaskHappening.started?).length := by
  cases op with
  | schedule => rfl
  | clear => rfl
  | drop => rfl
  | sleep ms =>
      have hstarted : ∀ tasks : List (Task TaskCallback),
          ((tasks.map fun t => TaskHappening.started t.id).filterMap
            TaskHappening.started?).length = tasks.length := by
        intro tasks
        simp [List.filterMap_map, Function.comp_def, TaskHappening.started?]
      rw [happenings_sleep, hstarted]
      exact runs_length_turns _ _ _ _ _

theorem runs_length_after (site : TaskSite) (ops : List TaskOp) :
    (site.after ops).page.runs.length =
      site.page.runs.length + ((site.history ops).filterMap TaskHappening.started?).length := by
  induction ops generalizing site with
  | nil => rfl
  | cons op rest ih =>
      rw [after, history, ih, runs_length_apply, List.filterMap_append, List.length_append,
        Nat.add_assoc]

/-- However timers are handed out, cleared, waited for and dropped:

- a clear answers whether the timer could still fire;
- after it was cleared, or after all timers were dropped, it is not started;
- a timer that fires once is started once at most;
- the timers that can fire are those that do, if they are waited for;
- there is one run of a callback for each start, and no other. -/
theorem clear_truthful_and_final (page : TaskPage) (ops : List TaskOp) :
    let start : TaskSite := ⟨.fresh, page⟩
    let history := start.history ops
    (∀ before after id answer, history = before ++ .cleared id answer :: after →
      (answer = true ↔ CanFire id before)) ∧
    (∀ before after id answer kind callback, history = before ++ .cleared id answer :: after →
      .handedOut id kind callback ∈ before → .started id ∉ after) ∧
    (∀ before after id kind callback, history = before ++ .dropped :: after →
      .handedOut id kind callback ∈ before → .started id ∉ after) ∧
    (∀ id callback, .handedOut id .once callback ∈ history → startsOf id history ≤ 1) ∧
    (∀ id, CanFire id history ↔
      ∃ ms, .started id ∈ (start.after ops).happenings (.sleep ms)) ∧
    (start.after ops).page.runs.length =
      page.runs.length + (history.filterMap TaskHappening.started?).length := by
  intro start history
  have hfresh : Accounts [] start.clock := .fresh
  have haccounts : Accounts history (start.after ops).clock := hfresh.after ops
  refine ⟨fun before after id answer hsplit => haccounts.follows hsplit,
    fun before after id answer kind callback hsplit hhanded => ?_,
    fun before after id kind callback hsplit hhanded => ?_,
    fun id callback hhanded => haccounts.startsOf_once_le hhanded,
    fun id => haccounts.canFire_iff_wakes, runs_length_after start ops⟩
  · exact haccounts.not_started hsplit (Or.inl ⟨answer, rfl⟩) hhanded
  · exact haccounts.not_started hsplit (Or.inr rfl) hhanded

end TaskSite

end PageTimers
