/-
# The set of outstanding timers is exact

The interceptor keeps a set and forgets the calls that made it.  Here the
calls are kept instead: `Session.calls` lists the timer calls that came back
through the interceptor in the course of a run, each with its answer, in the
order in which they came back.  The set is a function of that list,

    outstanding        the last call about it that came back well
                       scheduled it

and of nothing else: not of the provider, which may hand out an identifier
twice, refuse what it likes and run callbacks while it schedules; not of
which timers fire; and not of the calls that failed.
-/
import Mathlib.Data.List.Dedup
import Mathlib.Data.Set.Card
import PageTimers.Proofs.Page.Calls

namespace PageTimers

/-! ## Calls -/

namespace Call

variable {ι : Type}

/-- The timer that a call scheduled, if it was one that schedules and came
back well. -/
def scheduled? : Call ι → Option ι
  | ⟨.schedule _ _ _, .ok (.scheduled id)⟩ => some id
  | _ => none

/-- The timer that a call cleared, whatever the answer. -/
def cleared? : Call ι → Option ι
  | ⟨.clear _ id, .ok (.cleared _)⟩ => some id
  | _ => none

/-- The last call about the timer that came back well scheduled it. -/
def LastScheduled (id : ι) (calls : List (Call ι)) : Prop :=
  ∃ before call after, calls = before ++ call :: after ∧ call.scheduled? = some id ∧
    ∀ later ∈ after, later.scheduled? ≠ some id ∧ later.cleared? ≠ some id

/-- No call of them clears a timer that none before it scheduled. -/
def ClearsScheduled (calls : List (Call ι)) : Prop :=
  ∀ k < calls.length, ∀ id ∈ calls[k]?.bind cleared?, id ∈ (calls.take k).filterMap scheduled?

instance [DecidableEq ι] (calls : List (Call ι)) : Decidable (ClearsScheduled calls) :=
  inferInstanceAs (Decidable (∀ k < calls.length, _))

variable {calls : List (Call ι)} {call : Call ι} {id : ι}

theorem not_lastScheduled_nil : ¬ LastScheduled id ([] : List (Call ι)) := by
  rintro ⟨before, call, after, h, -⟩
  exact List.append_ne_nil_of_right_ne_nil _ (List.cons_ne_nil _ _) h.symm

theorem cleared?_of_scheduled? (h : call.scheduled? = some id) : call.cleared? = none := by
  unfold scheduled? at h
  split at h
  · rfl
  · cases h

/-- One call more decides, if it is about the timer. -/
theorem lastScheduled_append :
    LastScheduled id (calls ++ [call]) ↔
      call.scheduled? = some id ∨ LastScheduled id calls ∧ call.cleared? ≠ some id := by
  constructor
  · rintro ⟨before, found, after, h, hfound, hafter⟩
    rcases snoc_eq_append_cons h with ⟨-, rfl, -⟩ | ⟨after, rfl, rfl⟩
    · exact Or.inl hfound
    · refine Or.inr ⟨⟨before, found, after, rfl, hfound, fun later hlater => ?_⟩, ?_⟩
      · exact hafter later (by simp [hlater])
      · exact (hafter call (by simp)).2
  · intro h
    by_cases hcall : call.scheduled? = some id
    · exact ⟨calls, call, [], rfl, hcall, fun _ hlater => absurd hlater List.not_mem_nil⟩
    · obtain ⟨⟨before, found, after, rfl, hfound, hafter⟩, hclear⟩ := h.resolve_left hcall
      refine ⟨before, found, after ++ [call], by simp, hfound, fun later hlater => ?_⟩
      rcases List.mem_append.mp hlater with hlater | hlater
      · exact hafter later hlater
      · rw [List.mem_singleton.mp hlater]
        exact ⟨hcall, hclear⟩

/-! ### Where no identifier is handed out twice -/

namespace ClearsScheduled

theorem scheduled_before {before after : List (Call ι)}
    (hclear : ClearsScheduled (before ++ call :: after)) (hid : call.cleared? = some id) :
    id ∈ before.filterMap scheduled? := by
  have h := hclear before.length (by simp) id (by simp [hid])
  rwa [List.take_left'] at h
  rfl

theorem scheduled_of_cleared (hclear : ClearsScheduled calls)
    (h : id ∈ calls.filterMap cleared?) : id ∈ calls.filterMap scheduled? := by
  obtain ⟨call, hcall, hid⟩ := List.mem_filterMap.mp h
  obtain ⟨before, after, rfl⟩ := List.mem_iff_append.mp hcall
  rw [List.filterMap_append]
  exact List.mem_append_left _ (hclear.scheduled_before hid)

end ClearsScheduled

/-- Then a timer is scheduled once and cleared after that or never, so the
order of the calls does not matter. -/
theorem lastScheduled_iff_of_nodup (hnodup : (calls.filterMap scheduled?).Nodup)
    (hclear : ClearsScheduled calls) :
    LastScheduled id calls ↔
      id ∈ calls.filterMap scheduled? ∧ id ∉ calls.filterMap cleared? := by
  -- a timer scheduled by one call is scheduled by no other
  have honce : ∀ before call after, calls = before ++ call :: after →
      call.scheduled? = some id →
        id ∉ before.filterMap scheduled? ∧ id ∉ after.filterMap scheduled? := by
    rintro before call after rfl hcall
    rw [List.filterMap_append, List.filterMap_cons_some hcall] at hnodup
    obtain ⟨-, hrest, hdisjoint⟩ := List.nodup_append.mp hnodup
    exact ⟨fun hid => hdisjoint id hid id List.mem_cons_self rfl, (List.nodup_cons.mp hrest).1⟩
  constructor
  · rintro ⟨before, call, after, rfl, hcall, hafter⟩
    refine ⟨List.mem_filterMap.mpr ⟨call, by simp, hcall⟩, fun hid => ?_⟩
    obtain ⟨hbefore, -⟩ := honce before call after rfl hcall
    rw [List.filterMap_append, List.filterMap_cons_none (cleared?_of_scheduled? hcall)] at hid
    rcases List.mem_append.mp hid with hid | hid
    · obtain ⟨other, hother, hcleared⟩ := List.mem_filterMap.mp hid
      obtain ⟨first, rest, rfl⟩ := List.mem_iff_append.mp hother
      rw [List.append_assoc, List.cons_append] at hclear
      have hfirst := hclear.scheduled_before hcleared
      rw [List.filterMap_append] at hbefore
      exact hbefore (List.mem_append_left _ hfirst)
    · obtain ⟨other, hother, hid⟩ := List.mem_filterMap.mp hid
      exact (hafter other hother).2 hid
  · rintro ⟨hscheduled, hnever⟩
    obtain ⟨call, hmem, hcall⟩ := List.mem_filterMap.mp hscheduled
    obtain ⟨before, after, rfl⟩ := List.mem_iff_append.mp hmem
    refine ⟨before, call, after, rfl, hcall, fun later hlater => ⟨fun hid => ?_, fun hid => ?_⟩⟩
    · exact (honce before call after rfl hcall).2 (List.mem_filterMap.mpr ⟨later, hlater, hid⟩)
    · exact hnever (List.mem_filterMap.mpr ⟨later, by simp [hlater], hid⟩)

end Call

/-! ## The set -/

/-- The order of the identifiers is one. -/
class OrderedIdentifier (ι : Type) [Identifier ι] : Prop where
  le_trans : ∀ a b c : ι, Identifier.le a b = true → Identifier.le b c = true →
    Identifier.le a c = true
  le_total : ∀ a b : ι, (Identifier.le a b || Identifier.le b a) = true

instance : OrderedIdentifier TimerId where
  le_trans a b c hab hbc := by
    simp only [Identifier.le, decide_eq_true_eq] at *
    exact Nat.le_trans hab hbc
  le_total a b := by
    simp only [Identifier.le, Bool.or_eq_true, decide_eq_true_eq]
    exact Nat.le_total _ _

namespace Outstanding

variable {ι : Type} [DecidableEq ι] [Identifier ι]

/-- All views of the set are views of these identifiers. -/
structure Shows (set : Outstanding ι) (A : ι → Prop) : Prop where
  contains : ∀ id, set.contains id = true ↔ A id
  snapshot : ∀ id, id ∈ set.ids ↔ A id
  snapshot_nodup : set.ids.Nodup
  sorted : ∀ id, id ∈ set.sorted ↔ A id
  sorted_ascending : set.sorted.Pairwise fun a b => Identifier.le a b = true ∧ a ≠ b
  size : set.size = {id | A id}.ncard
  isEmpty : set.isEmpty = true ↔ ∀ id, ¬ A id

theorem shows_of_mem_iff [OrderedIdentifier ι] {set : Outstanding ι} {A : ι → Prop}
    (h : ∀ id, id ∈ set.ids ↔ A id) : set.Shows A where
  contains id := by rw [contains, decide_eq_true_eq, h]
  snapshot := h
  snapshot_nodup := set.nodup
  sorted id := by rw [sorted, List.mem_mergeSort, h]
  sorted_ascending := by
    have hle : set.sorted.Pairwise fun a b => Identifier.le a b = true :=
      List.pairwise_mergeSort OrderedIdentifier.le_trans OrderedIdentifier.le_total set.ids
    have hne : set.sorted.Nodup := (List.mergeSort_perm set.ids _).nodup_iff.mpr set.nodup
    exact hle.and hne
  size := by
    have hA : {id | A id} = (set.ids.toFinset : Set ι) := by
      ext id
      simp [h]
    rw [hA, Set.ncard_coe_finset, List.toFinset_card_of_nodup set.nodup]
    rfl
  isEmpty := by
    rw [isEmpty_iff, List.eq_nil_iff_forall_not_mem]
    exact forall_congr' fun id => not_congr (h id)

omit [Identifier ι] in
/-- Of the timers that were scheduled, those that were cleared are missing. -/
theorem size_add_cleared {set : Outstanding ι} {calls : List (Call ι)}
    (h : ∀ id, id ∈ set.ids ↔ Call.LastScheduled id calls)
    (hnodup : (calls.filterMap Call.scheduled?).Nodup) (hclear : Call.ClearsScheduled calls) :
    set.size + (calls.filterMap Call.cleared?).dedup.length =
      (calls.filterMap Call.scheduled?).length := by
  let cleared : ι → Bool := fun id => id ∈ calls.filterMap Call.cleared?
  have hgone : ((calls.filterMap Call.scheduled?).filter cleared).Perm
      (calls.filterMap Call.cleared?).dedup := by
    rw [List.perm_ext_iff_of_nodup (hnodup.filter _) (List.nodup_dedup _)]
    intro id
    rw [List.mem_filter, List.mem_dedup, decide_eq_true_eq]
    exact ⟨And.right, fun hid => ⟨hclear.scheduled_of_cleared hid, hid⟩⟩
  have hthere : ((calls.filterMap Call.scheduled?).filter fun id => !cleared id).Perm set.ids := by
    rw [List.perm_ext_iff_of_nodup (hnodup.filter _) set.nodup]
    intro id
    rw [List.mem_filter, h, Call.lastScheduled_iff_of_nodup hnodup hclear]
    simp [cleared]
  calc set.size + (calls.filterMap Call.cleared?).dedup.length
      = ((calls.filterMap Call.scheduled?).filter cleared).length +
          ((calls.filterMap Call.scheduled?).filter fun id => !cleared id).length := by
        rw [hgone.length_eq, hthere.length_eq, Nat.add_comm]
        rfl
    _ = (calls.filterMap Call.scheduled?).length := (List.length_eq_length_filter_add cleared).symm

end Outstanding

/-! ## The machine -/

namespace Page

variable {ι : Type} [DecidableEq ι] {page : Page ι} {id : ι}

/-- What the interceptor makes of a call that came back. -/
theorem tracks_note (hpage : page.isIntercepted = true) (call : Call ι) :
    (page.note call.request call.result).1.Tracks id ↔
      call.scheduled? = some id ∨ page.Tracks id ∧ call.cleared? ≠ some id := by
  obtain ⟨request, result⟩ := call
  cases request with
  | schedule kind callback delay =>
      match result with
      | .ok (.scheduled other) =>
        refine (tracks_noteScheduled hpage).trans ?_
        simp [Call.scheduled?, Call.cleared?, eq_comm]
      | .ok (.cleared _) | .ok (.ran _) | .error _ =>
        simp [note, Call.scheduled?, Call.cleared?]
  | clear kind other =>
      match result with
      | .ok (.cleared found) =>
        refine tracks_noteCleared.trans ?_
        simp [Call.scheduled?, Call.cleared?, eq_comm, and_comm]
      | .ok (.scheduled _) | .ok (.ran _) | .error _ =>
        simp [note, Call.scheduled?, Call.cleared?]
  | drain drain => simp [note, Call.scheduled?, Call.cleared?]

end Page

namespace Machine

variable {σ κ ι : Type} [DecidableEq ι] [Identifier ι] {P : Provider σ κ ι (Handler ι)}

/-- All that a step can be to the interceptor.  The set appears, empty; or
nothing is heard of timers and it stays; or a call comes back and the set
follows it. -/
inductive Hears : Option (Call ι) → Page ι → Page ι → Prop
  | installs {page page' : Page ι} : page.outstanding = none → page'.outstanding = some .empty →
      Hears none page page'
  | nothing {page page' : Page ι} : page'.outstanding = page.outstanding → Hears none page page'
  | call (page : Page ι) (call : Call ι) :
      Hears (some call) page (page.note call.request call.result).1

omit [Identifier ι] in
theorem Tells.hears {call : Option (Call ι)} {page page' : Page ι} {events : List (Event ι)}
    (h : Tells call page events page') : Hears call page page' := by
  cases h with
  | installs hnone hempty => exact .installs hnone hempty
  | nothing hsame => exact .nothing hsame
  | call page call => exact .call page call

omit [Identifier ι] in
/-- A move that is taken over brings a call back, or leaves the page alone. -/
theorem settle_call? (world : World σ ι) (w : Waiting κ ι) (stack : List (Waiting κ ι × κ))
    (move : Move σ κ ι (Handler ι)) :
    (w.call? move = none ∧ (settle P world w stack move).world.page = world.page) ∨
      ∃ call, w.call? move = some call ∧ w.watched = true ∧
        (settle P world w stack move).world.page =
          (world.page.note call.request call.result).1 := by
  unfold Waiting.call?
  cases hmove : move.outcome with
  | answer result =>
      rw [settle_page_of_answer hmove]
      cases hw : w.watched with
      | false => exact Or.inl ⟨rfl, rfl⟩
      | true => exact Or.inr ⟨_, rfl, rfl, rfl⟩
  | invoke firing suspended => exact Or.inl ⟨rfl, by simp [settle, hmove]⟩
  | rethrow => exact Or.inl ⟨rfl, by simp [settle, hmove]⟩

omit [Identifier ι] in
/-- A call that failed leaves the set alone, and so does no call. -/
theorem Hears.outstanding_of_failed {call : Option (Call ι)} {page page' : Page ι}
    {set : Outstanding ι} (h : Hears call page page') (hset : page.outstanding = some set)
    (hfailed : ∀ c, call = some c → ∃ e, c.result = .error e) : page'.outstanding = some set := by
  cases h with
  | installs hnone =>
      rw [hset] at hnone
      cases hnone
  | nothing hsame => rw [hsame, hset]
  | call page call =>
      obtain ⟨e, he⟩ := hfailed call rfl
      rw [he]
      cases call.request <;> exact hset

/-- No call waits for the interceptor where there is none. -/
def Unwatched (m : Machine σ κ ι) : Prop :=
  m.world.page.outstanding = none → ∀ frame ∈ m.stack, frame.1.watched = false

omit [Identifier ι] in
theorem unwatched_settle {world : World σ ι} {w : Waiting κ ι} {stack : List (Waiting κ ι × κ)}
    (hw : world.page.outstanding = none → w.watched = false)
    (hstack : world.page.outstanding = none → ∀ frame ∈ stack, frame.1.watched = false)
    (move : Move σ κ ι (Handler ι)) : (settle P world w stack move).Unwatched := by
  intro hnone frame hframe
  have hbefore : world.page.outstanding = none := by
    rcases settle_call? (P := P) world w stack move with
      ⟨-, hpage⟩ | ⟨call, -, -, hpage⟩
    · rw [hpage] at hnone
      exact hnone
    · have hsame : (world.page.note call.request call.result).1.isIntercepted =
          world.page.isIntercepted := Page.isIntercepted_note _ _
      rw [Page.isIntercepted, Page.isIntercepted, ← hpage, hnone] at hsame
      exact Option.isNone_iff_eq_none.mp (by simpa using hsame.symm)
  rcases mem_settle_stack hframe with hframe | ⟨he, -⟩
  · exact hstack hbefore frame hframe
  · rw [he]
    exact hw hbefore

omit [DecidableEq ι] [Identifier ι] in
theorem isWatched_of_outstanding_eq_none {world : World σ ι} (h : world.page.outstanding = none)
    (route : Route) : isWatched world route = false := by
  cases route with
  | page => simp [isWatched, Page.isIntercepted, h]
  | provider => rfl

theorem unwatched_of_plan {world : World σ ι} {caller : Caller ι} {action : Action ι}
    {request : Request ι (Handler ι)} {watched : Bool}
    (hplan : plan P world caller action = .ask request watched)
    (h : world.page.outstanding = none) : watched = false := by
  rcases plan_ask hplan with ⟨route, _, _, _, _, -, -, rfl⟩ | ⟨route, _, _, _, -, -, -, rfl⟩ |
    ⟨_, -, -, rfl⟩
  · exact isWatched_of_outstanding_eq_none h route
  · exact isWatched_of_outstanding_eq_none h route
  · rfl

theorem Unwatched.course {m m' : Machine σ κ ι} {c : Option (Contact ι (Handler ι))}
    (hm : m.Unwatched) (h : Course P m c m') : m'.Unwatched := by
  cases h with
  | stays => exact hm
  | halts => exact fun _ _ hframe => absurd hframe List.not_mem_nil
  | throws => exact hm
  | @did world world' caller action result rest stack hplan =>
      intro hnone frame hframe
      rcases plan_finish_outstanding hplan with h | ⟨-, hsome⟩
      · exact hm (h ▸ hnone) frame hframe
      · have hnone : world'.page.outstanding = none := hnone
        rw [hsome] at hnone
        cases hnone
  | @asked world caller action request watched rest stack hplan =>
      exact unwatched_settle (unwatched_of_plan hplan) hm _
  | ended world control frame stack ended =>
      exact unwatched_settle (fun hnone => hm hnone frame List.mem_cons_self)
        (fun hnone other hother => hm hnone other (List.mem_cons_of_mem _ hother)) _

/-- So nothing comes back through an interceptor that is not there. -/
theorem call?_of_unwatched {m : Machine σ κ ι} (hm : m.Unwatched)
    (hnone : m.world.page.outstanding = none) : m.call? P = none := by
  obtain ⟨world, control, stack⟩ := m
  cases control with
  | halt ended => rfl
  | unwind =>
      cases stack with
      | nil => rfl
      | cons frame stack => exact Waiting.call?_of_unwatched (hm hnone frame List.mem_cons_self) _
  | run caller actions =>
      cases actions with
      | nil =>
          cases stack with
          | nil => rfl
          | cons frame stack =>
              exact Waiting.call?_of_unwatched (hm hnone frame List.mem_cons_self) _
      | cons action rest =>
          simp only [call?]
          cases hplan : plan P world caller action with
          | throw | finish _ _ => rfl
          | ask request watched =>
              exact Waiting.call?_of_unwatched (unwatched_of_plan hplan hnone) _

/-- A move that starts a callback brings no call back. -/
theorem call?_of_started {m : Machine σ κ ι}
    (h : ((m.contact? P).bind fun c => P.started? c m.site).isSome) : m.call? P = none := by
  have hmove : ∀ (w : Waiting κ ι) (move : Move σ κ ι (Handler ι)),
      (P.startedBy? move).isSome → w.call? move = none := by
    intro w move hstart
    unfold Provider.startedBy? at hstart
    unfold Waiting.call?
    cases hmove : move.outcome with
    | answer result =>
        rw [hmove] at hstart
        cases hstart
    | invoke firing suspended => rfl
    | rethrow => rfl
  obtain ⟨world, control, stack⟩ := m
  cases control with
  | halt ended => rfl
  | unwind =>
      cases stack with
      | nil => rfl
      | cons frame stack => exact hmove _ _ h
  | run caller actions =>
      cases actions with
      | nil =>
          cases stack with
          | nil => rfl
          | cons frame stack => exact hmove _ _ h
      | cons action rest =>
          simp only [call?, contact?] at h ⊢
          cases hplan : plan P world caller action with
          | throw | finish _ _ => rfl
          | ask request watched =>
              rw [hplan] at h
              exact hmove _ _ h

end Machine

/-! ## Whole runs -/

namespace Session

variable {σ κ ι : Type} [DecidableEq ι] [Identifier ι] {P : Provider σ κ ι (Handler ι)}

theorem hears_step (s : Session σ κ ι) :
    Machine.Hears (s.call? P) s.machine.world.page (s.step P).machine.world.page := by
  obtain ⟨told, -, htells⟩ := writes_step (P := P) s
  exact htells.hears

theorem unwatched_after (world : World σ ι) (actions : List (Action ι)) (n : Nat) :
    ((start world actions : Session σ κ ι).after P n).machine.Unwatched :=
  (after_invariant (I := Machine.Unwatched) (fun _ _ hframe => absurd hframe List.not_mem_nil)
    (fun m hm => hm.course m.course_step)
    (fun _ _ _ _ _ _ _ hframe => absurd hframe List.not_mem_nil) n).1

section Exact

variable (P) (state : σ) (globals : Globals) (actions : List (Action ι)) (n : Nat)

/-- Before the interceptor is there, no call comes back through it; from then
on the set holds what was scheduled last. -/
theorem outstanding_after :
    let s := (start (World.start state globals) actions : Session σ κ ι)
    (∀ id, (s.after P n).machine.world.page.Tracks id ↔ Call.LastScheduled id (s.calls P n)) ∧
      ((s.after P n).machine.world.page.outstanding = none → s.calls P n = []) := by
  intro s
  induction n with
  | zero =>
      refine ⟨fun id => iff_of_false ?_ Call.not_lastScheduled_nil, fun _ => rfl⟩
      rintro ⟨set, hset, -⟩
      cases hset
  | succ n ih =>
      obtain ⟨htracks, hnone⟩ := ih
      have hunwatched : (s.after P n).machine.world.page.outstanding = none →
          (s.after P n).call? P = none :=
        Machine.call?_of_unwatched (unwatched_after _ _ n)
      have hstep := hears_step (P := P) (s.after P n)
      rw [calls]
      show (∀ id, ((s.after P n).step P).machine.world.page.Tracks id ↔ _) ∧
        (((s.after P n).step P).machine.world.page.outstanding = none → _)
      -- which call comes back, and what becomes of the page, is all that matters
      generalize (s.after P n).call? P = call at hstep hunwatched ⊢
      generalize ((s.after P n).step P).machine.world.page = page' at hstep ⊢
      generalize (s.after P n).machine.world.page = page at hstep htracks hnone hunwatched
      cases hstep with
      | installs hbefore hafter =>
          rw [Option.toList_none, List.append_nil, hnone hbefore]
          refine ⟨fun id => iff_of_false ?_ Call.not_lastScheduled_nil, fun _ => rfl⟩
          rintro ⟨set, hset, hid⟩
          rw [hafter] at hset
          cases hset
          exact List.not_mem_nil hid
      | nothing hsame =>
          rw [Option.toList_none, List.append_nil, hsame]
          refine ⟨fun id => ?_, hnone⟩
          rw [← htracks, Page.Tracks, Page.Tracks, hsame]
      | call page call =>
          have hpage : page.isIntercepted = true := by
            cases hset : page.outstanding with
            | none => cases hunwatched hset
            | some set => simp [Page.isIntercepted, hset]
          refine ⟨fun id => ?_, fun hset => ?_⟩
          · rw [Page.tracks_note hpage, htracks, Option.toList_some, Call.lastScheduled_append]
          · have hsame : (page.note call.request call.result).1.isIntercepted =
                page.isIntercepted := Page.isIntercepted_note _ _
            rw [hpage, Page.isIntercepted, hset] at hsame
            cases hsame

/-- **The set of outstanding timers is exact.**  Over any provider and at any
moment of a run, the set, in all of its views, consists of the timers that the
last call about them scheduled, among the calls that came back well through
the interceptor.  In particular, where no identifier was handed out twice and
only scheduled ones were cleared, its size is the number of those scheduled
less the number of those cleared.  The next step leaves the set alone if it
brings back no call or one that failed, and also if it starts a callback. -/
theorem outstanding_exact [OrderedIdentifier ι] :
    let s := (start (World.start state globals) actions : Session σ κ ι)
    let page := (s.after P n).machine.world.page
    let next := (s.after P (n + 1)).machine.world.page
    ∀ set, page.outstanding = some set →
      set.Shows (fun id => Call.LastScheduled id (s.calls P n)) ∧
      (((s.calls P n).filterMap Call.scheduled?).Nodup → Call.ClearsScheduled (s.calls P n) →
        set.size + ((s.calls P n).filterMap Call.cleared?).dedup.length =
          ((s.calls P n).filterMap Call.scheduled?).length) ∧
      ((∀ call, (s.after P n).call? P = some call → ∃ e, call.result = .error e) →
        next.outstanding = some set) ∧
      ((((s.after P n).contact? P).bind fun c => P.started? c (s.after P n).site).isSome →
        next.outstanding = some set) := by
  intro s page next set hset
  have hmem : ∀ id, id ∈ set.ids ↔ Call.LastScheduled id (s.calls P n) := by
    intro id
    rw [← (outstanding_after P state globals actions n).1 id]
    constructor
    · exact fun hid => ⟨set, hset, hid⟩
    · rintro ⟨set', hset', hid⟩
      cases hset.symm.trans hset'
      exact hid
  have hkept : (∀ call, (s.after P n).call? P = some call → ∃ e, call.result = .error e) →
      next.outstanding = some set :=
    fun hfailed => (hears_step (P := P) (s.after P n)).outstanding_of_failed hset hfailed
  refine ⟨Outstanding.shows_of_mem_iff hmem, Outstanding.size_add_cleared hmem, hkept,
    fun hstart => ?_⟩
  refine hkept fun call hcall => ?_
  have hnone : (s.after P n).call? P = none := Machine.call?_of_started hstart
  rw [hnone] at hcall
  cases hcall

end Exact

/-- A provider that answers what it was told to, in order. -/
def dictated : Provider (List (Except TimerError (Answer TimerId))) PEmpty TimerId
    (Handler TimerId) where
  ask _ replies := ⟨[], replies.tail, .answer (replies.headD (.error .runtimeUnavailable))⟩
  resume suspended _ _ := nomatch suspended
  now _ := 0
  pending _ := []
  describe _ := "Dictated"

/-- Of two timers one is cleared, in vain; one schedule call and one clear fail. -/
def dictatedReplies : List (Except TimerError (Answer TimerId)) :=
  [.ok (.scheduled ⟨7⟩), .error .runtimeUnavailable, .ok (.scheduled ⟨3⟩),
    .ok (.cleared false), .error .runtimeUnavailable]

def dictatedActions : List (Action TimerId) :=
  [.installInterceptor, .schedule .page .once (.ofMillis 5) none .idle,
    .schedule .page .once (.ofMillis 5) none .idle,
    .schedule .page .repeating (.ofMillis 5) none .idle,
    .clear .page .repeating (.id ⟨3⟩), .clear .page .once (.id ⟨7⟩)]

theorem dictated_outstanding_exact :
    let s := start (World.start dictatedReplies .empty) dictatedActions
    ∃ set, (s.after dictated 17).machine.world.page.outstanding = some set ∧
      Call.LastScheduled ⟨7⟩ (s.calls dictated 17) ∧
      ¬ Call.LastScheduled ⟨3⟩ (s.calls dictated 17) ∧
      set.size + 1 = 2 ∧
      (s.after dictated 18).machine.world.page.outstanding = some set := by
  dsimp only
  have hpage : ((start (World.start dictatedReplies .empty) dictatedActions).after
      dictated 17).machine.world.page.outstanding.map (·.ids) = some [⟨7⟩] := by
    decide +kernel
  have hfailing : (((start (World.start dictatedReplies .empty) dictatedActions).after
      dictated 17).call? dictated).all (·.result.toOption.isNone) = true := by
    decide +kernel
  obtain ⟨set, hset, hids⟩ := Option.map_eq_some_iff.mp hpage
  obtain ⟨hshows, hsize, hfailed, -⟩ :=
    outstanding_exact dictated dictatedReplies .empty dictatedActions 17 set hset
  refine ⟨set, hset, (hshows.snapshot ⟨7⟩).mp (by simp [hids]), fun h => ?_, ?_, hfailed ?_⟩
  · have hmem := (hshows.snapshot ⟨3⟩).mpr h
    rw [hids] at hmem
    exact absurd hmem (by decide)
  · exact hsize (by decide +kernel) (by decide +kernel)
  · intro call hcall
    rw [hcall] at hfailing
    cases hresult : call.result with
    | error e => exact ⟨e, rfl⟩
    | ok answer => simp [hresult, Except.toOption] at hfailing

end Session

end PageTimers
