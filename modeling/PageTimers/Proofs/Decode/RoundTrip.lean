/-
# What was written is read back

Scenarios and settings are written as documents by one set of functions and
read by another.  For each record there is a list of what it gives to its
fields (`givens`), and that reading takes over each of them; the rest is
`Records`.  A step is an object with an `op`, which is taken out before its
fields are read (`step?_ofFields`).

A scenario carries documents of its own, the values of its globals, and these
go through the type of untyped values, because the `op` has to be known before
the fields can be.  They come back if they are canonical.  All that a scenario
can be read with is canonical, so to write what was read and read it again
changes nothing, whatever the first document left out or had too much.
-/
import PageTimers.Proofs.Decode.Records

namespace PageTimers

/-! ## Scenarios with documents -/

/-- The document that a step carries, if any, is canonical. -/
def Step.Canonical : Step → Prop
  | .scheduleOnce _ _ sets => ∀ a ∈ sets, a.value.Canonical
  | .setGlobal _ value => value.Canonical
  | _ => True

def Scenario.Canonical (scenario : Scenario) : Prop := ∀ step ∈ scenario.steps, step.Canonical

namespace Untyped

variable {α : Type} {read : Untyped → Except DecodeError α} {encode : α → Json}

/-! ## Values -/

theorem document?_ofJson {document : Json} (h : document.Canonical) :
    document? (.ofJson document) = .ok document := by
  rw [document?, toJson?_ofJson h]

theorem canonical_of_document? {value : Untyped} {document : Json}
    (h : document? value = .ok document) : document.Canonical := by
  rw [document?] at h
  split at h
  · next hdocument =>
    cases h
    exact canonical_of_toJson? hdocument
  · cases h

/-- A value that is never written as `null` may be absent. -/
theorem optional?_ofOption {given : Option α}
    (hread : ∀ a ∈ given, read (.ofJson (encode a)) = .ok a) (hnull : ∀ a, ofJson (encode a) ≠ .null) :
    optional? read (.ofJson (.ofOption encode given)) = .ok given := by
  cases given with
  | none => rfl
  | some a =>
      have hsome : optional? read (.ofJson (encode a)) = (read (.ofJson (encode a))).map some := by
        rw [optional?]
        exact hnull a
      rw [Json.ofOption, hsome, hread a rfl]
      rfl

theorem items?_map {items : List α} (hread : ∀ a ∈ items, read (.ofJson (encode a)) = .ok a) :
    items? read (.ofJson (.array (items.map encode))) = .ok items := by
  show (ofJsonItems (items.map encode)).mapM read = .ok items
  induction items with
  | nil => rfl
  | cons a rest ih =>
      obtain ⟨ha, hrest⟩ := List.forall_mem_cons.mp hread
      rw [List.map_cons, ofJsonItems, List.mapM_cons, ha, ih hrest]
      rfl

/-! ### What was read, was read from something -/

theorem exists_of_optional? {value : Untyped} {given : Option α}
    (h : optional? read value = .ok given) :
    ∀ a ∈ given, ∃ value, read value = .ok a := by
  intro a ha
  cases value with
  | null =>
      cases h
      cases ha
  | _ =>
      obtain ⟨a', ha', h⟩ := exists_ok_of_bind (f := fun a => .ok (some a)) h
      cases h
      cases ha
      exact ⟨_, ha'⟩

theorem exists_of_items? {value : Untyped} {items : List α} (h : items? read value = .ok items) :
    ∀ a ∈ items, ∃ value, read value = .ok a := by
  cases value with
  | list values =>
      replace h : values.mapM read = .ok items := h
      induction values generalizing items with
      | nil =>
          cases h
          exact List.forall_mem_nil _
      | cons value rest ih =>
          rw [List.mapM_cons] at h
          obtain ⟨a, ha, h⟩ := exists_ok_of_bind h
          obtain ⟨later, hlater, h⟩ := exists_ok_of_bind h
          cases h
          exact List.forall_mem_cons.mpr ⟨⟨value, ha⟩, ih hlater⟩
  | _ => cases h

end Untyped

/-! ## What records give to their fields -/

def Assignment.givens (a : Assignment) : List (Given Assignment) :=
  [⟨"name", .string a.name, fun b => { b with name := a.name }⟩,
    ⟨"value", a.value, fun b => { b with value := a.value }⟩]

namespace Step

def scheduleOnceGivens (label : String) (delay : UInt64) (sets : Option Assignment) :
    List (Given (String × UInt64 × Option Assignment)) :=
  [⟨"label", .string label, fun (_, delay, sets) => (label, delay, sets)⟩,
    ⟨"delay_ms", word delay, fun (label, _, sets) => (label, delay, sets)⟩,
    ⟨"sets", .ofOption Assignment.toJson sets, fun (label, delay, _) => (label, delay, sets)⟩]

def scheduleRepeatingGivens (label : String) (period : UInt64) : List (Given (String × UInt64)) :=
  [⟨"label", .string label, fun (_, period) => (label, period)⟩,
    ⟨"period_ms", word period, fun (label, _) => (label, period)⟩]

/-- The one field of a step that has no other. -/
def onlyGiven {α : Type} (field : String) (document : Json) (a : α) : List (Given α) :=
  [⟨field, document, fun _ => a⟩]

theorem complete_onlyGiven {α : Type} {field : String} {document : Json} {a : α}
    {read : Untyped → Except DecodeError α} (hread : read (.ofJson document) = .ok a) :
    Given.Complete [⟨field, true, fun v _ => read v⟩] (onlyGiven field document a) where
  fits := .cons ⟨rfl, fun _ => hread⟩ .nil
  distinct := List.pairwise_singleton _ _
  commute := List.pairwise_singleton _ _

def setGlobalGivens (name : String) (value : Json) : List (Given (String × Json)) :=
  [⟨"name", .string name, fun (_, value) => (name, value)⟩,
    ⟨"value", value, fun (name, _) => (name, value)⟩]

end Step

def Scenario.givens (s : Scenario) : List (Given Scenario) :=
  [⟨"name", .string s.name, fun r => { r with name := s.name }⟩,
    ⟨"description", .ofOption .string s.description,
      fun r => { r with description := s.description }⟩,
    ⟨"steps", .array (s.steps.map Step.toJson), fun r => { r with steps := s.steps }⟩]

def LoggingSettings.givens (s : LoggingSettings) : List (Given LoggingSettings) :=
  [⟨"level", .string s.level, fun r => { r with level := s.level }⟩,
    ⟨"format", .string s.format.name, fun r => { r with format := s.format }⟩,
    ⟨"log_dir", .ofOption .string s.logDir, fun r => { r with logDir := s.logDir }⟩,
    ⟨"rotation", .string s.rotation.name, fun r => { r with rotation := s.rotation }⟩]

def CompletionSettings.givens (s : CompletionSettings) : List (Given CompletionSettings) :=
  [⟨"reporter_global", .string s.reporterGlobal,
      fun r => { r with reporterGlobal := s.reporterGlobal }⟩,
    ⟨"finished_field", .string s.finishedField,
      fun r => { r with finishedField := s.finishedField }⟩,
    ⟨"include_outstanding_timers", .bool s.includeOutstanding,
      fun r => { r with includeOutstanding := s.includeOutstanding }⟩]

def ClockSettings.givens (s : ClockSettings) : List (Given ClockSettings) :=
  [⟨"step_limit", .number (.natural s.stepLimit), fun _ => s⟩]

def Settings.givens (s : Settings) : List (Given Settings) :=
  [⟨"logging", s.logging.toJson, fun r => { r with logging := s.logging }⟩,
    ⟨"completion", s.completion.toJson, fun r => { r with completion := s.completion }⟩,
    ⟨"virtual_clock", s.virtualClock.toJson, fun r => { r with virtualClock := s.virtualClock }⟩]

namespace Untyped

/-! ## Steps -/

theorem assignment?_toJson {a : Assignment} (h : a.value.Canonical) :
    assignment? (.ofJson a.toJson) = .ok a :=
  recordOfMap_ofList a.givens
    ⟨.cons ⟨rfl, fun _ => rfl⟩ (.cons (Given.fits_of_set (document?_ofJson h)) .nil),
      by simp [Given.names, Assignment.givens], by simp [Assignment.givens]⟩ _

/-! The `op` is taken out first. -/

theorem takeOp?_of_not_mem {found : Option String} {fields : Fields Json}
    (h : "op" ∉ fields.map (·.1)) : takeOp? found (ofJsonFields fields) =
      .ok (found, ofJsonFields fields) := by
  induction fields with
  | nil => rfl
  | cons field rest ih =>
      obtain ⟨name, value⟩ := field
      obtain ⟨hname, hrest⟩ := not_or.mp (mt List.mem_cons.mpr h)
      rw [ofJsonFields, takeOp?, ih hrest]
      · rfl
      · intro _ he
        cases he
        exact hname rfl

theorem takeOp?_split {op : String} {first last : Fields Json} (hop : op ∈ Step.opNames)
    (hfirst : "op" ∉ first.map (·.1)) (hlast : "op" ∉ last.map (·.1)) :
    takeOp? none (ofJsonFields (first ++ ("op", .string op) :: last)) =
      .ok (some op, ofJsonFields (first ++ last)) := by
  induction first with
  | nil =>
      have hread : op? (.string op) = .ok op := if_pos (List.contains_iff_mem.mpr hop)
      show (do takeOp? (some (← op? (.string op))) (ofJsonFields last)) = _
      rw [hread]
      exact takeOp?_of_not_mem hlast
  | cons field rest ih =>
      obtain ⟨name, value⟩ := field
      obtain ⟨hname, hrest⟩ := not_or.mp (mt List.mem_cons.mpr hfirst)
      rw [List.cons_append, ofJsonFields, takeOp?, ih hrest]
      · rfl
      · intro _ he
        cases he
        exact hname rfl

theorem step?_ofFields (op : String) (fields : Fields Json) (hop : op ∈ Step.opNames)
    (hnames : ("op" :: fields.map (·.1)).Nodup) :
    ∃ object : Fields Json, object.Perm fields ∧
      step? (.ofJson (.ofFields (("op", .string op) :: fields))) =
        stepOf? op (.map (ofJsonFields object)) := by
  have hperm : (Fields.ofList (("op", Json.string op) :: fields)).Perm
      (("op", .string op) :: fields) := Fields.ofList_perm hnames
  obtain ⟨first, last, hsplit⟩ := List.append_of_mem (hperm.symm.subset List.mem_cons_self)
  rw [hsplit] at hperm
  have hrest : (first ++ last).Perm fields := (List.perm_middle.symm.trans hperm).cons_inv
  have hnot : "op" ∉ (first ++ last).map (·.1) := fun hmem =>
    (List.nodup_cons.mp hnames).1 ((hrest.map _).subset hmem)
  rw [List.map_append, List.mem_append, not_or] at hnot
  refine ⟨first ++ last, hrest, bind_of_ok (a := (some op, ofJsonFields (first ++ last))) ?_ rfl⟩
  rw [hsplit, takeOp?_split hop hnot.1 hnot.2]

/-- A step with fields is read as the record of them. -/
theorem step?_ofGivens {σ : Type} {what : String} {fields : List (Field Untyped DecodeError σ)}
    {start : σ} {f : σ → Except DecodeError Step} {step : Step} (op : String)
    (givens : List (Given σ))
    (hread : ∀ value, stepOf? op value = strictRecord? what fields start value >>= f)
    (hop : op ∈ Step.opNames) (hop' : "op" ∉ Given.names givens) (h : Given.Complete fields givens)
    (hstep : f (Given.record givens start) = .ok step) :
    step? (.ofJson (.ofFields (("op", .string op) :: givens.map Given.entry))) = .ok step := by
  have hnames : (givens.map Given.entry).map (·.1) = Given.names givens := List.map_map
  obtain ⟨object, hobject, hobjectStep⟩ := step?_ofFields op (givens.map Given.entry) hop
    (List.nodup_cons.mpr ⟨hnames ▸ hop', hnames ▸ h.distinct⟩)
  rw [hobjectStep, hread]
  exact bind_of_ok (recordOfMap_of_perm givens h start hobject) hstep

theorem step?_toJson {step : Step} (h : step.Canonical) : step? (.ofJson step.toJson) = .ok step := by
  cases step with
  | installInterceptor =>
      obtain ⟨_, -, hstep⟩ := step?_ofFields "install_interceptor" [] (by decide) (by simp)
      exact hstep
  | installMonitor =>
      obtain ⟨_, -, hstep⟩ := step?_ofFields "install_completion_monitor" [] (by decide) (by simp)
      exact hstep
  | scheduleOnce label delay sets =>
      have hsets : optional? assignment? (.ofJson (.ofOption Assignment.toJson sets)) = .ok sets :=
        optional?_ofOption (fun a ha => assignment?_toJson (h a ha)) (fun _ => nofun)
      exact step?_ofGivens "schedule_once" (Step.scheduleOnceGivens label delay sets)
        (fun _ => rfl) (by decide) (by simp [Given.names, Step.scheduleOnceGivens])
        ⟨.cons ⟨rfl, fun _ => rfl⟩ (.cons ⟨rfl, fun _ => rfl⟩
            (.cons (Given.fits_of_set hsets) .nil)),
          by simp [Given.names, Step.scheduleOnceGivens], by simp [Step.scheduleOnceGivens]⟩ rfl
  | scheduleRepeating label period =>
      exact step?_ofGivens "schedule_repeating" (Step.scheduleRepeatingGivens label period)
        (fun _ => rfl) (by decide) (by simp [Given.names, Step.scheduleRepeatingGivens])
        ⟨.cons ⟨rfl, fun _ => rfl⟩ (.cons ⟨rfl, fun _ => rfl⟩ .nil),
          by simp [Given.names, Step.scheduleRepeatingGivens],
          by simp [Step.scheduleRepeatingGivens]⟩ rfl
  | cancelOnce label =>
      exact step?_ofGivens "cancel_once" (Step.onlyGiven "label" (.string label) label)
        (fun _ => rfl) (by decide) (by simp [Given.names, Step.onlyGiven])
        (Step.complete_onlyGiven rfl) rfl
  | cancelRepeating label =>
      exact step?_ofGivens "cancel_repeating" (Step.onlyGiven "label" (.string label) label)
        (fun _ => rfl) (by decide) (by simp [Given.names, Step.onlyGiven])
        (Step.complete_onlyGiven rfl) rfl
  | cancelId id =>
      exact step?_ofGivens "cancel_id" (Step.onlyGiven "id" (Step.word id) id)
        (fun _ => rfl) (by decide) (by simp [Given.names, Step.onlyGiven])
        (Step.complete_onlyGiven rfl) rfl
  | advance ms =>
      exact step?_ofGivens "advance" (Step.onlyGiven "ms" (Step.word ms) ms)
        (fun _ => rfl) (by decide) (by simp [Given.names, Step.onlyGiven])
        (Step.complete_onlyGiven rfl) rfl
  | setGlobal name value =>
      exact step?_ofGivens "set_global" (Step.setGlobalGivens name value)
        (fun _ => rfl) (by decide) (by simp [Given.names, Step.setGlobalGivens])
        ⟨.cons ⟨rfl, fun _ => rfl⟩ (.cons (Given.fits_of_set (document?_ofJson h)) .nil),
          by simp [Given.names, Step.setGlobalGivens], by simp [Step.setGlobalGivens]⟩ rfl

theorem scenario?_toJson {scenario : Scenario} (h : scenario.Canonical) :
    scenario? (.ofJson scenario.toJson) = .ok scenario := by
  have hdescription : optional? text? (.ofJson (.ofOption .string scenario.description)) =
      .ok scenario.description := optional?_ofOption (fun _ _ => rfl) (fun _ => nofun)
  have hsteps : items? step? (.ofJson (.array (scenario.steps.map Step.toJson))) =
      .ok scenario.steps := items?_map fun step hstep => step?_toJson (h step hstep)
  exact recordOfMap_ofList scenario.givens
    ⟨.cons ⟨rfl, fun _ => rfl⟩ (.cons (Given.fits_of_set hdescription)
        (.cons (Given.fits_of_set hsteps) .nil)),
      by simp [Given.names, Scenario.givens], by simp [Scenario.givens]⟩ _

/-! ## Settings -/

theorem format_name (f : LogFormat) : choice? LogFormat.options (.string f.name) = .ok f := by
  cases f <;> rfl

theorem rotation_name (r : Rotation) : choice? Rotation.options (.string r.name) = .ok r := by
  cases r <;> rfl

theorem path?_ofOption (path : Option String) :
    path? (.ofJson (.ofOption .string path)) = .ok path := by
  cases path <;> rfl

theorem loggingSettings_toJson (s : LoggingSettings) :
    LoggingSettings.decode documents (.ofJson s.toJson) = .ok s :=
  recordOfMap_ofList s.givens
    ⟨.cons ⟨rfl, fun _ => rfl⟩ (.cons (Given.fits_of_set (format_name s.format))
        (.cons (Given.fits_of_set (path?_ofOption s.logDir))
          (.cons (Given.fits_of_set (rotation_name s.rotation)) .nil))),
      by simp [Given.names, LoggingSettings.givens], by simp [LoggingSettings.givens]⟩ _

theorem completionSettings_toJson (s : CompletionSettings) :
    CompletionSettings.decode documents (.ofJson s.toJson) = .ok s :=
  recordOfMap_ofList s.givens
    ⟨.cons ⟨rfl, fun _ => rfl⟩ (.cons ⟨rfl, fun _ => rfl⟩ (.cons ⟨rfl, fun _ => rfl⟩ .nil)),
      by simp [Given.names, CompletionSettings.givens], by simp [CompletionSettings.givens]⟩ _

theorem clockSettings_toJson (s : ClockSettings) :
    ClockSettings.decode documents (.ofJson s.toJson) = .ok s :=
  recordOfMap_ofList s.givens ⟨.cons ⟨rfl, fun _ => rfl⟩ .nil,
    by simp [Given.names, ClockSettings.givens], by simp [ClockSettings.givens]⟩ _

theorem settings_toJson (s : Settings) : Settings.decode documents (.ofJson s.toJson) = .ok s :=
  recordOfMap_ofList s.givens
    ⟨.cons (Given.fits_of_set (loggingSettings_toJson s.logging))
        (.cons (Given.fits_of_set (completionSettings_toJson s.completion))
          (.cons (Given.fits_of_set (clockSettings_toJson s.virtualClock)) .nil)),
      by simp [Given.names, Settings.givens], by simp [Settings.givens]⟩ _

/-! ## What is read is canonical -/

theorem canonical_of_assignment? {value : Untyped} {a : Assignment}
    (h : assignment? value = .ok a) : a.value.Canonical := by
  refine record?_keeps (P := fun a => a.value.Canonical) ?_ .null h
  exact List.forall_mem_cons.mpr ⟨keeps_of_set fun _ _ _ _ hb => hb,
    List.forall_mem_singleton.mpr <| keeps_of_set fun _ _ _ hdocument _ =>
      canonical_of_document? hdocument⟩

theorem eq_of_bareStep? {step step' : Step} {name : String} {value : Untyped}
    (h : bareStep? step name value = .ok step') : step' = step := by
  cases value with
  | map entries =>
      cases h
      rfl
  | list items =>
      have h : record? .ofSequence s!"struct variant ScenarioStep::{name}" [] step (.list items) =
          .ok step' := h
      exact record?_keeps (P := (· = step)) (List.forall_mem_nil _) rfl h
  | _ => cases h

theorem canonical_of_stepOf? {op : String} {value : Untyped} {step : Step}
    (h : stepOf? op value = .ok step) : step.Canonical := by
  unfold stepOf? at h
  split at h
  · rw [eq_of_bareStep? h]
    trivial
  · rw [eq_of_bareStep? h]
    trivial
  · obtain ⟨⟨label, delay, sets⟩, hread, h⟩ := exists_ok_of_bind h
    cases h
    refine record?_keeps (P := fun (r : String × UInt64 × Option Assignment) =>
      ∀ a ∈ r.2.2, a.value.Canonical) ?_ (fun _ ha => absurd ha (Option.not_mem_none _)) hread
    refine List.forall_mem_cons.mpr ⟨keeps_of_set fun _ _ _ _ hr => hr, List.forall_mem_cons.mpr
      ⟨keeps_of_set fun _ _ _ _ hr => hr, List.forall_mem_singleton.mpr <|
        keeps_of_set fun v sets _ hsets _ a ha => ?_⟩⟩
    · obtain ⟨value, hvalue⟩ := exists_of_optional? hsets a ha
      exact canonical_of_assignment? hvalue
  · obtain ⟨⟨label, period⟩, -, h⟩ := exists_ok_of_bind h
    cases h
    trivial
  iterate 4
    obtain ⟨_, -, h⟩ := exists_ok_of_bind h
    cases h
    trivial
  · obtain ⟨⟨name, document⟩, hread, h⟩ := exists_ok_of_bind h
    cases h
    refine record?_keeps (P := fun (r : String × Json) => r.2.Canonical) ?_ .null hread
    exact List.forall_mem_cons.mpr ⟨keeps_of_set fun _ _ _ _ hr => hr,
      List.forall_mem_singleton.mpr <| keeps_of_set fun _ _ _ hdocument _ =>
        canonical_of_document? hdocument⟩
  · cases h

theorem canonical_of_step? {value : Untyped} {step : Step} (h : step? value = .ok step) :
    step.Canonical := by
  cases value with
  | map entries =>
      obtain ⟨⟨found, entries⟩, -, h⟩ := exists_ok_of_bind h
      cases found with
      | none => cases h
      | some op => exact canonical_of_stepOf? h
  | list items =>
      cases items with
      | nil => cases h
      | cons op items =>
          obtain ⟨op, -, h⟩ := exists_ok_of_bind h
          exact canonical_of_stepOf? h
  | _ => cases h

theorem canonical_of_scenario? {value : Untyped} {scenario : Scenario}
    (h : scenario? value = .ok scenario) : scenario.Canonical := by
  have hstart : Scenario.Canonical ⟨"", none, []⟩ := List.forall_mem_nil _
  refine record?_keeps (P := Scenario.Canonical) ?_ hstart h
  refine List.forall_mem_cons.mpr ⟨keeps_of_set fun _ _ _ _ hr => hr, List.forall_mem_cons.mpr
    ⟨keeps_of_set fun _ _ _ _ hr => hr, List.forall_mem_singleton.mpr <|
      keeps_of_set fun v steps _ hsteps _ step hstep => ?_⟩⟩
  · obtain ⟨item, hitem⟩ := exists_of_items? hsteps step hstep
    exact canonical_of_step? hitem

end Untyped

/-! ## The round trip -/

/-- **Scenarios and settings come back from their documents.**  A scenario whose
documents are canonical is read from what it is written as, and so are any
settings.  All that can be read as a scenario, whatever it left out and whatever
else it had, gives one whose documents are canonical; so to write what was read
and to read it again gives what the first reading gave, and the same holds of
settings. -/
theorem documents_round_trip :
    (∀ scenario : Scenario, scenario.Canonical →
      Untyped.scenario? (.ofJson scenario.toJson) = .ok scenario) ∧
    (∀ settings : Settings,
      Settings.decode Untyped.documents (.ofJson settings.toJson) = .ok settings) ∧
    (∀ (value : Untyped) (scenario : Scenario),
      Untyped.scenario? value = .ok scenario → scenario.Canonical) ∧
    (∀ value : Untyped,
      (Untyped.scenario? value >>= fun scenario => Untyped.scenario? (.ofJson scenario.toJson)) =
        Untyped.scenario? value) ∧
    (∀ value : Untyped,
      (Settings.decode Untyped.documents value >>= fun settings =>
        Settings.decode Untyped.documents (.ofJson settings.toJson)) =
        Settings.decode Untyped.documents value) := by
  refine ⟨fun _ h => Untyped.scenario?_toJson h, Untyped.settings_toJson,
    fun _ _ => Untyped.canonical_of_scenario?, fun value => ?_, fun value => ?_⟩
  · cases hread : Untyped.scenario? value with
    | error e => rfl
    | ok scenario => exact Untyped.scenario?_toJson (Untyped.canonical_of_scenario? hread)
  · cases Settings.decode Untyped.documents value with
    | error e => rfl
    | ok settings => exact Untyped.settings_toJson settings

/-- A document without a description and with a field too many.  Its one step has
the `op` last. -/
def unkempt : Json :=
  .object [("author", .null), ("name", .string "smoke"), ("steps", .array [.object
    [("label", .string "tick"), ("delay_ms", Step.word 5), ("sets", .object
      [("value", .array [.number (.negative (-1)), .number (.real ⟨0x3ff0000000000000⟩), .null]),
        ("name", .string "ready")]), ("op", .string "schedule_once")]])]

theorem unkempt_round_trip : ∃ scenario : Scenario,
    Untyped.scenario? (.ofJson unkempt) = .ok scenario ∧
    scenario.steps.map Step.gives? = [some "tick"] ∧
    Untyped.scenario? (.ofJson scenario.toJson) = .ok scenario := by
  obtain ⟨hback, -, hcanonical, -⟩ := documents_round_trip
  refine ⟨_, rfl, rfl, hback _ (hcanonical (.ofJson unkempt) _ rfl)⟩

end PageTimers
