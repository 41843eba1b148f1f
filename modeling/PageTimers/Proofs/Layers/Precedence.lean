/-
# Which layer counts

The settings have eight leaves in three groups.  Layers are merged as trees
and read as a whole, yet each leaf is decided by itself: it is what the highest
layer that sets it says, and the default if none does.  What a layer says of
other leaves, or of names that no group has, plays no part in this.

A leaf is not a group.  A choice may be written as one, with its name as the
only field, but two of them in different layers are merged, and then the name
that is read is the first of both, whichever layer it is from.

    merging   leaf.found? (upper over lower) = (leaf.found? upper).or (leaf.found? lower)
    reading   leaf.get settings              = what is found, as the leaf reads it

From the files to the layers it is `Sources`, and from layers to records
`Reading`.
-/
import PageTimers.Proofs.Layers.Reading
import PageTimers.Proofs.Layers.Sources

namespace PageTimers

open Setting

/-! ## The parts of the settings -/

namespace LoggingSettings

def levelPart : RecordPart LoggingSettings :=
  ⟨"level", String, text?, level, fun v s => { s with level := v }⟩

def formatPart : RecordPart LoggingSettings :=
  ⟨"format", LogFormat, choice? "LogFormat" LogFormat.options, format,
    fun v s => { s with format := v }⟩

def logDirPart : RecordPart LoggingSettings :=
  ⟨"log_dir", Option String, path?, logDir, fun v s => { s with logDir := v }⟩

def rotationPart : RecordPart LoggingSettings :=
  ⟨"rotation", Rotation, choice? "RotationPolicy" Rotation.options, rotation,
    fun v s => { s with rotation := v }⟩

def parts : List (RecordPart LoggingSettings) := [levelPart, formatPart, logDirPart, rotationPart]

theorem complete_parts : RecordPart.Complete (fields layers) parts where
  fields_eq := rfl
  distinct := by simp [parts, levelPart, formatPart, logDirPart, rotationPart]
  get_set := by simp [parts, levelPart, formatPart, logDirPart, rotationPart]
  apart := by simp [parts, levelPart, formatPart, logDirPart, rotationPart]

end LoggingSettings

namespace CompletionSettings

def reporterPart : RecordPart CompletionSettings :=
  ⟨"reporter_global", String, text?, reporterGlobal, fun v s => { s with reporterGlobal := v }⟩

def finishedPart : RecordPart CompletionSettings :=
  ⟨"finished_field", String, text?, finishedField, fun v s => { s with finishedField := v }⟩

def outstandingPart : RecordPart CompletionSettings :=
  ⟨"include_outstanding_timers", Bool, flag?, includeOutstanding,
    fun v s => { s with includeOutstanding := v }⟩

def parts : List (RecordPart CompletionSettings) := [reporterPart, finishedPart, outstandingPart]

theorem complete_parts : RecordPart.Complete (fields layers) parts where
  fields_eq := rfl
  distinct := by simp [parts, reporterPart, finishedPart, outstandingPart]
  get_set := by simp [parts, reporterPart, finishedPart, outstandingPart]
  apart := by simp [parts, reporterPart, finishedPart, outstandingPart]

end CompletionSettings

namespace ClockSettings

def limitPart : RecordPart ClockSettings :=
  ⟨"step_limit", UInt64, count?, stepLimit, fun v _ => { stepLimit := v }⟩

theorem complete_parts : RecordPart.Complete (fields layers) [limitPart] where
  fields_eq := rfl
  distinct := List.pairwise_singleton _ _
  get_set := by simp [limitPart]
  apart := List.pairwise_singleton _ _

end ClockSettings

namespace Settings

def loggingPart : RecordPart Settings :=
  ⟨"logging", LoggingSettings, LoggingSettings.decode layers, logging,
    fun v s => { s with logging := v }⟩

def completionPart : RecordPart Settings :=
  ⟨"completion", CompletionSettings, CompletionSettings.decode layers, completion,
    fun v s => { s with completion := v }⟩

def clockPart : RecordPart Settings :=
  ⟨"virtual_clock", ClockSettings, ClockSettings.decode layers, virtualClock,
    fun v s => { s with virtualClock := v }⟩

def parts : List (RecordPart Settings) := [loggingPart, completionPart, clockPart]

theorem complete_parts : RecordPart.Complete (fields layers) parts where
  fields_eq := rfl
  distinct := by simp [parts, loggingPart, completionPart, clockPart]
  get_set := by simp [parts, loggingPart, completionPart, clockPart]
  apart := by simp [parts, loggingPart, completionPart, clockPart]

end Settings

/-! ## The leaves -/

def Setting.isGroup : Setting → Bool
  | .group _ => true
  | _ => false

inductive Leaf
  | level
  | format
  | logDir
  | rotation
  | reporterGlobal
  | finishedField
  | includeOutstanding
  | stepLimit
deriving DecidableEq, Repr

namespace Leaf

def all : List Leaf :=
  [level, format, logDir, rotation, reporterGlobal, finishedField, includeOutstanding, stepLimit]

theorem mem_all (leaf : Leaf) : leaf ∈ all := by
  cases leaf <;> decide

/-- The name of its group. -/
def group : Leaf → String
  | level | format | logDir | rotation => "logging"
  | reporterGlobal | finishedField | includeOutstanding => "completion"
  | stepLimit => "virtual_clock"

/-- The record that the group is read as. -/
def Record : Leaf → Type
  | level | format | logDir | rotation => LoggingSettings
  | reporterGlobal | finishedField | includeOutstanding => CompletionSettings
  | stepLimit => ClockSettings

def record : (leaf : Leaf) → Settings → leaf.Record
  | level, s | format, s | logDir, s | rotation, s => s.logging
  | reporterGlobal, s | finishedField, s | includeOutstanding, s => s.completion
  | stepLimit, s => s.virtualClock

/-- The part of the record that it is. -/
def part : (leaf : Leaf) → RecordPart leaf.Record
  | level => LoggingSettings.levelPart
  | format => LoggingSettings.formatPart
  | logDir => LoggingSettings.logDirPart
  | rotation => LoggingSettings.rotationPart
  | reporterGlobal => CompletionSettings.reporterPart
  | finishedField => CompletionSettings.finishedPart
  | includeOutstanding => CompletionSettings.outstandingPart
  | stepLimit => ClockSettings.limitPart

def Value (leaf : Leaf) : Type := leaf.part.Value

def read (leaf : Leaf) : Setting → Except Misfit leaf.Value := leaf.part.read

def get (leaf : Leaf) (settings : Settings) : leaf.Value := leaf.part.get (leaf.record settings)

/-- What a layer sets it to. -/
def found? (leaf : Leaf) (layer : Layer) : Option Setting :=
  (Setting.group layer).descend? [leaf.group, leaf.part.name]

theorem found?_congr {leaf : Leaf} {layer layer' : Layer}
    (h : layer.get? leaf.group = layer'.get? leaf.group) :
    leaf.found? layer = leaf.found? layer' := by
  unfold found?
  rw [descend?, descend?, h]

theorem found?_of_none {leaf : Leaf} {layer : Layer} (h : layer.get? leaf.group = none) :
    leaf.found? layer = none := by
  unfold found?
  rw [descend?, h]
  rfl

theorem found?_of_group {leaf : Leaf} {layer : Layer} {entries : Fields Setting}
    (h : layer.get? leaf.group = some (.group entries)) :
    leaf.found? layer = entries.get? leaf.part.name := by
  unfold found?
  rw [descend?, h]
  exact Option.bind_fun_some _

/-- It can be read, and is no group. -/
def Fits (leaf : Leaf) (setting : Setting) : Prop :=
  (∃ value, leaf.read setting = .ok value) ∧ ∀ entries, setting ≠ .group entries

instance (leaf : Leaf) (setting : Setting) : Decidable (leaf.Fits setting) :=
  decidable_of_iff ((leaf.read setting).isOk = true ∧ setting.isGroup = false) <| by
    refine and_congr ?_ ?_
    · cases leaf.read setting with
      | ok value => exact iff_of_true rfl ⟨value, rfl⟩
      | error _ => exact iff_of_false nofun nofun
    · cases setting with
      | group entries => exact iff_of_false nofun fun h => h entries rfl
      | _ => exact iff_of_true rfl fun _ => nofun

end Leaf

/-- The groups that a layer sets are groups, and the leaves fit. -/
structure Layer.WellTyped (layer : Layer) : Prop where
  groups : ∀ (leaf : Leaf) setting, layer.get? leaf.group = some setting →
    ∃ entries, setting = .group entries
  leaves : ∀ (leaf : Leaf) setting, leaf.found? layer = some setting → leaf.Fits setting

instance (layer : Layer) : Decidable layer.WellTyped :=
  decidable_of_iff (∀ leaf ∈ Leaf.all,
      (∀ setting ∈ layer.get? leaf.group, setting.isGroup = true) ∧
        ∀ setting ∈ leaf.found? layer, leaf.Fits setting) <| by
    refine ⟨fun h => ⟨fun leaf setting hget => ?_, fun leaf => (h leaf leaf.mem_all).2⟩,
      fun h leaf _ => ⟨fun setting hget => ?_, h.leaves leaf⟩⟩
    · have hgroup := (h leaf leaf.mem_all).1 setting hget
      cases setting with
      | group entries => exact ⟨entries, rfl⟩
      | _ => cases hgroup
    · obtain ⟨entries, rfl⟩ := h.groups leaf setting hget
      rfl

/-! ## Merging -/

theorem Setting.laidOn?_of_not_group {upper : Setting} (h : ∀ entries, upper ≠ .group entries)
    (lower : Option Setting) : laidOn? (some upper) lower = some upper := by
  cases lower with
  | none => rfl
  | some lower =>
      cases upper with
      | group entries => exact absurd rfl (h entries)
      | _ => rfl

namespace Layer.WellTyped

theorem empty : WellTyped [] where
  groups _ _ h := nomatch h
  leaves _ _ h := nomatch h

variable {upper lower : Layer} (hupper : upper.WellTyped) (hlower : lower.WellTyped)

include hupper hlower

/-- A leaf is found where the upper layer sets it, or else in the lower. -/
theorem found?_fieldsLaidOn (leaf : Leaf) :
    leaf.found? (fieldsLaidOn upper lower) = (leaf.found? upper).or (leaf.found? lower) := by
  have hmerged := get?_fieldsLaidOn leaf.group upper lower
  cases hu : upper.get? leaf.group with
  | none =>
      rw [hu] at hmerged
      rw [Leaf.found?_of_none hu, Option.none_or, Leaf.found?_congr hmerged]
  | some above =>
      obtain ⟨above, rfl⟩ := hupper.groups leaf _ hu
      cases hl : lower.get? leaf.group with
      | none =>
          rw [hu, hl] at hmerged
          rw [Leaf.found?_of_none hl, Option.or_none, Leaf.found?_congr (hmerged.trans hu.symm)]
      | some below =>
          obtain ⟨below, rfl⟩ := hlower.groups leaf _ hl
          rw [hu, hl] at hmerged
          rw [Leaf.found?_of_group hmerged, Leaf.found?_of_group hu, Leaf.found?_of_group hl,
            get?_fieldsLaidOn]
          cases habove : Fields.get? leaf.part.name above with
          | none => rfl
          | some setting =>
              have hleaf := hupper.leaves leaf setting ((Leaf.found?_of_group hu).trans habove)
              exact laidOn?_of_not_group hleaf.2 _

theorem fieldsLaidOn : WellTyped (Setting.fieldsLaidOn upper lower) where
  groups leaf setting h := by
    rw [get?_fieldsLaidOn] at h
    cases hu : upper.get? leaf.group with
    | none =>
        rw [hu] at h
        exact hlower.groups leaf setting h
    | some above =>
        obtain ⟨above, rfl⟩ := hupper.groups leaf _ hu
        cases hl : lower.get? leaf.group with
        | none =>
            rw [hu, hl] at h
            exact ⟨above, (Option.some.inj h).symm⟩
        | some below =>
            obtain ⟨below, rfl⟩ := hlower.groups leaf _ hl
            rw [hu, hl] at h
            exact ⟨_, (Option.some.inj h).symm⟩
  leaves leaf setting h := by
    rw [hupper.found?_fieldsLaidOn hlower, Option.or_eq_some_iff] at h
    rcases h with h | ⟨-, h⟩
    · exact hupper.leaves leaf setting h
    · exact hlower.leaves leaf setting h

end Layer.WellTyped

/-- In a stack a leaf is found in the highest layer that sets it. -/
theorem Layer.found?_stack {layers : List Layer} (h : ∀ layer ∈ layers, layer.WellTyped) :
    (stack layers).WellTyped ∧
      ∀ leaf : Leaf, leaf.found? (stack layers) = layers.reverse.findSome? leaf.found? := by
  suffices hfold : ∀ lower : Layer, lower.WellTyped →
      WellTyped (layers.foldl (fun lower upper => fieldsLaidOn upper lower) lower) ∧
      ∀ leaf : Leaf, leaf.found? (layers.foldl (fun lower upper => fieldsLaidOn upper lower) lower) =
        (layers.reverse.findSome? leaf.found?).or (leaf.found? lower) by
    obtain ⟨hwell, hfound⟩ := hfold [] .empty
    refine ⟨hwell, fun leaf => (hfound leaf).trans ?_⟩
    exact Option.or_none
  induction layers with
  | nil => exact fun lower hlower => ⟨hlower, fun _ => rfl⟩
  | cons top rest ih =>
      intro lower hlower
      obtain ⟨htop, hrest⟩ := List.forall_mem_cons.mp h
      obtain ⟨hwell, hfound⟩ := ih hrest _ (htop.fieldsLaidOn hlower)
      refine ⟨hwell, fun leaf => (hfound leaf).trans ?_⟩
      rw [htop.found?_fieldsLaidOn hlower, List.reverse_cons, List.findSome?_append, Option.or_assoc]
      congr 1
      exact congrArg (Option.or · _) (List.findSome?_singleton ..).symm

/-! ## Reading -/

section Reading

variable {layer : Layer} (hsorted : layer.Sorted)

include hsorted

/-- A part of a record is taken from the group of the record. -/
theorem taken_of_group {σ : Type} {fields : List (Field Setting Misfit σ)}
    {parts : List (RecordPart σ)} (h : RecordPart.Complete fields parts) (part : RecordPart σ)
    (hpart : part ∈ parts) {name : String}
    {decode : Setting → Except Misfit σ} {before after : σ}
    (hdecode : ∀ entries, decode (.group entries) = putNamed fields before entries)
    (hgroup : ∀ setting, layer.get? name = some setting → ∃ entries, setting = .group entries)
    (htaken : Taken (layer.get? name) decode before after) :
    Taken ((Setting.group layer).descend? [name, part.name]) part.read (part.get before)
      (part.get after) := by
  rw [descend?]
  cases hget : layer.get? name with
  | none =>
      exact ⟨fun _ => congrArg part.get (htaken.unset hget), fun _ h => nomatch h⟩
  | some setting =>
      obtain ⟨entries, rfl⟩ := hgroup setting hget
      have hread := htaken.set _ hget
      rw [hdecode] at hread
      have hfound : descend? [part.name] (.group entries) = Fields.get? part.name entries :=
        Option.bind_fun_some _
      rw [Option.bind_some, hfound]
      exact taken_of_putNamed h part hpart (hsorted name _ hget entries rfl) hread

/-- A record can be read if its parts can. -/
theorem exists_of_group {σ : Type} {fields : List (Field Setting Misfit σ)}
    {parts : List (RecordPart σ)} (h : RecordPart.Complete fields parts) {name : String}
    {decode : Setting → Except Misfit σ} {before : σ}
    (hdecode : ∀ entries, decode (.group entries) = putNamed fields before entries)
    (hgroup : ∀ setting, layer.get? name = some setting → ∃ entries, setting = .group entries)
    (hparts : ∀ part ∈ parts, ∀ setting,
      (Setting.group layer).descend? [name, part.name] = some setting →
      ∃ value, part.read setting = .ok value)
    {setting : Setting} (hget : layer.get? name = some setting) :
    ∃ after, decode setting = .ok after := by
  obtain ⟨entries, rfl⟩ := hgroup setting hget
  rw [hdecode]
  refine exists_putNamed h (fun part hpart setting hmem => hparts part hpart setting ?_) before
  rw [descend?, hget, Option.bind_some]
  show (Fields.get? part.name entries).bind some = some setting
  rw [(hsorted name _ hget entries rfl).get?_of_mem hmem]
  rfl

variable (hnames : layer.Ascending)

include hnames

/-- What is read for a leaf is what the layer sets it to. -/
theorem Leaf.taken (hwell : layer.WellTyped) {settings : Settings}
    (h : layer.settings? = .ok settings) (leaf : Leaf) :
    Taken (leaf.found? layer) leaf.read (leaf.get {}) (leaf.get settings) := by
  have hlogging (part) (hpart : part ∈ LoggingSettings.parts) :=
    taken_of_group hsorted LoggingSettings.complete_parts part hpart (fun _ => rfl)
      (hwell.groups .level) (taken_of_putNamed Settings.complete_parts Settings.loggingPart
        (by simp [Settings.parts]) hnames h)
  have hcompletion (part) (hpart : part ∈ CompletionSettings.parts) :=
    taken_of_group hsorted CompletionSettings.complete_parts part hpart (fun _ => rfl)
      (hwell.groups .reporterGlobal) (taken_of_putNamed Settings.complete_parts
        Settings.completionPart (by simp [Settings.parts]) hnames h)
  have hclock (part) (hpart : part ∈ [ClockSettings.limitPart]) :=
    taken_of_group hsorted ClockSettings.complete_parts part hpart (fun _ => rfl)
      (hwell.groups .stepLimit) (taken_of_putNamed Settings.complete_parts Settings.clockPart
        (by simp [Settings.parts]) hnames h)
  cases leaf with
  | level => exact hlogging LoggingSettings.levelPart (by simp [LoggingSettings.parts])
  | format => exact hlogging LoggingSettings.formatPart (by simp [LoggingSettings.parts])
  | logDir => exact hlogging LoggingSettings.logDirPart (by simp [LoggingSettings.parts])
  | rotation => exact hlogging LoggingSettings.rotationPart (by simp [LoggingSettings.parts])
  | reporterGlobal =>
      exact hcompletion CompletionSettings.reporterPart (by simp [CompletionSettings.parts])
  | finishedField =>
      exact hcompletion CompletionSettings.finishedPart (by simp [CompletionSettings.parts])
  | includeOutstanding =>
      exact hcompletion CompletionSettings.outstandingPart (by simp [CompletionSettings.parts])
  | stepLimit => exact hclock ClockSettings.limitPart List.mem_cons_self

/-- A layer whose leaves fit can be read. -/
theorem Layer.WellTyped.exists_settings (hwell : layer.WellTyped) :
    ∃ settings, layer.settings? = .ok settings := by
  have hleaf (leaf : Leaf) : ∀ setting, leaf.found? layer = some setting →
      ∃ value, leaf.part.read setting = .ok value := fun setting h => (hwell.leaves leaf setting h).1
  refine exists_putNamed Settings.complete_parts ?_ {}
  refine List.forall_mem_cons.mpr ⟨fun setting hmem => ?_, List.forall_mem_cons.mpr
    ⟨fun setting hmem => ?_, List.forall_mem_singleton.mpr fun setting hmem => ?_⟩⟩
  · refine exists_of_group hsorted LoggingSettings.complete_parts (fun _ => rfl)
      (hwell.groups .level) ?_ (hnames.get?_of_mem hmem)
    exact List.forall_mem_cons.mpr ⟨hleaf .level, List.forall_mem_cons.mpr ⟨hleaf .format,
      List.forall_mem_cons.mpr ⟨hleaf .logDir, List.forall_mem_singleton.mpr (hleaf .rotation)⟩⟩⟩
  · refine exists_of_group hsorted CompletionSettings.complete_parts (fun _ => rfl)
      (hwell.groups .reporterGlobal) ?_ (hnames.get?_of_mem hmem)
    exact List.forall_mem_cons.mpr ⟨hleaf .reporterGlobal, List.forall_mem_cons.mpr
      ⟨hleaf .finishedField, List.forall_mem_singleton.mpr (hleaf .includeOutstanding)⟩⟩
  · refine exists_of_group hsorted ClockSettings.complete_parts (fun _ => rfl)
      (hwell.groups .stepLimit) ?_ (hnames.get?_of_mem hmem)
    exact List.forall_mem_singleton.mpr (hleaf .stepLimit)

end Reading

/-- Layers that differ in an unknown name only are read alike. -/
theorem Layer.settings?_congr {layer layer' : Layer} (hnames : layer.Ascending)
    (hnames' : layer'.Ascending) {name : String}
    (hunknown : (Settings.fields layers).find? (·.name == name) = none)
    (h : ∀ other, other ≠ name → layer.get? other = layer'.get? other) :
    layer.settings? = layer'.settings? := by
  have herase : Fields.erase name layer = Fields.erase name layer' := by
    refine (hnames.erase name).ext (hnames'.erase name) fun other => ?_
    rw [Fields.get?_erase, Fields.get?_erase]
    by_cases hother : name = other
    · rw [if_pos hother, if_pos hother]
    · rw [if_neg hother, if_neg hother, h other (Ne.symm hother)]
  show putNamed (Settings.fields layers) {} layer = putNamed (Settings.fields layers) {} layer'
  rw [← putNamed_erase hunknown layer, herase, putNamed_erase hunknown layer']

/-! ## Loading -/

namespace Surroundings

variable {s : Surroundings}

theorem fileLayers_of_supplies {paths : List String} {found : List Layer}
    (h : List.Forall₂ s.Supplies paths found) : s.fileLayers paths = .ok found := by
  have hread : paths.filter (fun path => (s.fileLayer? path).isNone) = [] ∧
      paths.filterMap s.fileLayer? = found := by
    induction h with
    | nil => exact ⟨rfl, rfl⟩
    | cons hlayer _ ih =>
        have hlayer := fileLayer?_eq_some_iff.mpr hlayer
        rw [List.filterMap_cons_some hlayer, ih.2, List.filter_cons_of_neg (by simp [hlayer])]
        exact ⟨ih.1, rfl⟩
  rw [fileLayers, hread.1, hread.2]

theorem layer?_of_supplies (file : Option String) {found : List Layer}
    (h : List.Forall₂ s.Supplies (filesFor file) found) :
    s.layer? file = .ok (Layer.stack (found ++ [s.environment.layer])) :=
  bind_of_ok (fileLayers_of_supplies h) rfl

/-- The settings are checked before they are handed out. -/
theorem load_of_settings {file : Option String} {merged : Layer} {settings : Settings}
    (hlayer : s.layer? file = .ok merged) (h : merged.settings? = .ok settings) :
    (s.load file = .ok settings ↔ settings.validate = .ok ()) ∧
      ∀ e, settings.validate = .error e → s.load file = .error (.invalid e) := by
  have hload : s.load file = _ := bind_of_ok hlayer rfl
  rw [hload, h]
  dsimp only
  cases settings.validate with
  | ok _ => exact ⟨iff_of_true rfl rfl, fun _ he => nomatch he⟩
  | error _ =>
      refine ⟨iff_of_false nofun nofun, fun e he => ?_⟩
      cases he
      rfl

/-- What is handed out depends on what was read, and on nothing else. -/
theorem load_congr {t : Surroundings} {file file' : Option String}
    (h : (s.layer? file).map Layer.settings? = (t.layer? file').map Layer.settings?) :
    s.load file = t.load file' := by
  have hload {s : Surroundings} {file : Option String} {merged : Layer}
      (hlayer : s.layer? file = .ok merged) : s.load file = _ := bind_of_ok hlayer rfl
  cases hs : s.layer? file with
  | error e =>
      cases ht : t.layer? file' with
      | error e' =>
          rw [hs, ht] at h
          cases h
          rw [load, load, hs, ht]
      | ok _ =>
          rw [hs, ht] at h
          cases h
  | ok merged =>
      cases ht : t.layer? file' with
      | error e =>
          rw [hs, ht] at h
          cases h
      | ok merged' =>
          rw [hs, ht] at h
          have hsettings : merged.settings? = merged'.settings? := Except.ok.inj h
          rw [hload hs, hload ht, hsettings]

/-- A variable for a name that is unknown changes nothing. -/
theorem settings?_insert (name : String) {entry : String × String}
    (hentry : ∀ layer, Environment.layerOf? entry = some layer →
      ∀ other, other ≠ name → layer.get? other = none)
    (hunknown : (Settings.fields layers).find? (·.name == name) = none)
    (before after : Environment) (file : Option String) :
    (layer? { s with environment := before ++ entry :: after } file).map Layer.settings? =
      (layer? { s with environment := before ++ after } file).map Layer.settings? := by
  cases hfiles : s.fileLayers (filesFor file) with
  | error e =>
      have hlayer (environment : Environment) : layer? { s with environment } file = .error e := by
        show (s.fileLayers (filesFor file) >>= _) = _
        rw [hfiles]
        rfl
      rw [hlayer, hlayer]
  | ok below =>
      have hlayer (environment : Environment) : layer? { s with environment } file =
          .ok (Layer.stack (below ++ [environment.layer])) := bind_of_ok hfiles rfl
      rw [hlayer, hlayer]
      refine congrArg Except.ok (Layer.settings?_congr (Layer.ascending_stack _)
        (Layer.ascending_stack _) hunknown fun other hother => ?_)
      rw [Layer.stack_concat, Layer.stack_concat, get?_fieldsLaidOn, get?_fieldsLaidOn,
        Environment.get?_layer_of_unset fun layer hlayer => hentry layer hlayer other hother]

end Surroundings

/-! ## Precedence -/

/-- **Each leaf is that of the highest layer that sets it.**

The layers are those of the nearest of either file of the project, and of the
environment.  If they are well-typed, then the settings can be read from them,
and each leaf is what the environment says, or else the file that is the
project's own, or else the one that is shared, or else the default.

A variable that names the file to load changes nothing.  To load a file is to
load what there is where it is the only file of the project.  In either case
what was read is handed out if it is valid, and if not, loading fails with the
first thing that is wrong with it. -/
theorem settings_precedence :
    (∀ (s : Surroundings) (shared own : Layer), s.Supplies ".quiesce/config.yaml" shared →
      s.Supplies ".quiesce/local.yaml" own →
      (∀ layer ∈ [s.environment.layer, own, shared], layer.WellTyped) →
      ∃ merged settings, s.layer? none = .ok merged ∧ merged.settings? = .ok settings ∧
        ∀ leaf : Leaf, Taken ([s.environment.layer, own, shared].findSome? leaf.found?) leaf.read
          (leaf.get {}) (leaf.get settings)) ∧
    (∀ (s t : Surroundings) (before after : Environment) (value : String) (file : Option String),
      s.environment = before ++ after →
      t = { s with environment := before ++ ("QUIESCE_CONFIG", value) :: after } →
      (s.layer? file).map Layer.settings? = (t.layer? file).map Layer.settings? ∧
        s.load file = t.load file) ∧
    (∀ (s t : Surroundings) (file : String) (layer : Layer), s.Supplies file layer →
      t.Supplies ".quiesce/config.yaml" layer → t.Supplies ".quiesce/local.yaml" [] →
      s.environment = t.environment →
      s.layer? (some file) = t.layer? none ∧ s.load (some file) = t.load none) ∧
    (∀ (s : Surroundings) (file : Option String) (merged : Layer) (settings : Settings),
      s.layer? file = .ok merged → merged.settings? = .ok settings →
      (s.load file = .ok settings ↔ settings.validate = .ok ()) ∧
        ∀ e, settings.validate = .error e → s.load file = .error (.invalid e)) := by
  refine ⟨fun s shared own hshared hown hwell => ?_, fun s t before after value file hs ht => ?_,
    fun s t file layer hfile hshared hown henvironment => ?_,
    fun s file merged settings => Surroundings.load_of_settings⟩
  · have hlayer : s.layer? none = .ok (Layer.stack [shared, own, s.environment.layer]) :=
      s.layer?_of_supplies none (.cons hshared (.cons hown .nil))
    have hall : ∀ layer ∈ [shared, own, s.environment.layer], layer.WellTyped := fun layer hlayer =>
      hwell layer (List.mem_reverse.mp hlayer)
    have hnames := Layer.ascending_stack [shared, own, s.environment.layer]
    have hsorted : (Layer.stack [shared, own, s.environment.layer]).Sorted :=
      Layer.sorted_stack (List.forall_mem_cons.mpr ⟨hshared.sorted, List.forall_mem_cons.mpr
        ⟨hown.sorted, List.forall_mem_singleton.mpr (Environment.sorted_layer _)⟩⟩)
    obtain ⟨hmerged, hfound⟩ := Layer.found?_stack hall
    obtain ⟨settings, hsettings⟩ := hmerged.exists_settings hsorted hnames
    refine ⟨_, settings, hlayer, hsettings, fun leaf => ?_⟩
    have htaken := Leaf.taken hsorted hnames hmerged hsettings leaf
    rw [hfound leaf] at htaken
    exact htaken
  · have hpath : Environment.path? "QUIESCE_CONFIG" = some ["config"] := by decide +kernel
    have hread : (t.layer? file).map Layer.settings? = (s.layer? file).map Layer.settings? := by
      obtain ⟨disk, directory, _⟩ := s
      cases hs
      rw [ht]
      refine Surroundings.settings?_insert "config" (fun layer hlayer other hother => ?_) rfl before
        after file
      rw [Environment.layerOf?_of_path? hpath] at hlayer
      cases hlayer
      exact if_neg hother.symm
    exact ⟨hread.symm, Surroundings.load_congr hread.symm⟩
  · have hs : s.layer? (some file) = .ok (Layer.stack [layer, s.environment.layer]) :=
      s.layer?_of_supplies (some file) (.cons hfile .nil)
    have ht : t.layer? none = .ok (Layer.stack [layer, [], t.environment.layer]) :=
      t.layer?_of_supplies none (.cons hshared (.cons hown .nil))
    have hlayer : s.layer? (some file) = t.layer? none := by
      rw [hs, ht, henvironment]
      rfl
    exact ⟨hlayer, Surroundings.load_congr (congrArg _ hlayer)⟩

namespace Workplace

def shared : String := "logging:\n  level: warn\n  format: json\n"

def own : String := "logging:\n  level: debug\n"

/-- The shared file lies in `work`, and one that is the user's own further up. -/
def surroundings : Surroundings where
  disk
    | ["work"], ".quiesce/config.yaml" => .text shared
    | [], ".quiesce/local.yaml" => .text own
    | _, _ => .missing
  directory := ["inner", "work"]
  environment := [("QUIESCE_LOGGING__ROTATION", "never"), ("QUIESCE_CONFIG", "elsewhere")]

theorem isSome_shared : (Layer.ofYaml? shared).isSome = true := by decide +kernel

theorem isSome_own : (Layer.ofYaml? own).isSome = true := by decide +kernel

theorem supplies_shared :
    surroundings.Supplies ".quiesce/config.yaml" ((Layer.ofYaml? shared).get isSome_shared) := by
  have hplaces : Disk.lookedIn ".quiesce/config.yaml" surroundings.directory =
      [["inner", "work"]] ++ ["work"] :: [[]] := by decide +kernel
  exact .file hplaces (by decide +kernel) rfl (Option.eq_some_of_isSome isSome_shared)

theorem supplies_own :
    surroundings.Supplies ".quiesce/local.yaml" ((Layer.ofYaml? own).get isSome_own) := by
  have hplaces : Disk.lookedIn ".quiesce/local.yaml" surroundings.directory =
      [["inner", "work"], ["work"]] ++ [] :: [] := by decide +kernel
  exact .file hplaces (by decide +kernel) rfl (Option.eq_some_of_isSome isSome_own)

/-- Each of the layers sets a leaf of the same group that counts. -/
theorem loaded : ∃ settings, surroundings.load none = .ok settings ∧
    settings.logging.level = "debug" ∧ settings.logging.format = .json ∧
    settings.logging.rotation = .never ∧ settings.completion.reporterGlobal = "reporter" := by
  obtain ⟨hleaves, -, -, hload⟩ := settings_precedence
  obtain ⟨merged, settings, hlayer, hsettings, htaken⟩ :=
    hleaves surroundings _ _ supplies_shared supplies_own (by decide +kernel)
  -- Instances are looked for at the types of the leaves, which `id` shows as they are.
  have hlevel : settings.logging.level = "debug" := (htaken .level).eq.trans <| by
    show @id String _ = _
    decide +kernel
  have hformat : settings.logging.format = .json := (htaken .format).eq.trans <| by
    show @id LogFormat _ = _
    decide +kernel
  have hrotation : settings.logging.rotation = .never := (htaken .rotation).eq.trans <| by
    show @id Rotation _ = _
    decide +kernel
  have hreporter : settings.completion.reporterGlobal = "reporter" :=
    (htaken .reporterGlobal).eq.trans <| by
      show @id String _ = _
      decide +kernel
  have hfinished : settings.completion.finishedField = "finished" :=
    (htaken .finishedField).eq.trans <| by
      show @id String _ = _
      decide +kernel
  have hlimit : settings.virtualClock.stepLimit = 10000 := (htaken .stepLimit).eq.trans <| by
    show @id UInt64 _ = _
    decide +kernel
  have hvalid : settings.validate = .ok () := by
    rw [Settings.validate, hlevel, hreporter, hfinished, hlimit]
    decide +kernel
  exact ⟨settings, (hload surroundings none merged settings hlayer hsettings).1.mpr hvalid, hlevel,
    hformat, hrotation, hreporter⟩

end Workplace

end PageTimers
