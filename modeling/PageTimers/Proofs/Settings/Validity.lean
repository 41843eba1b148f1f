/-
# Valid settings can be used as they are

Settings are checked when they are loaded, and used much later.  What they are
used for is decided in other places, which do not ask whether they were checked:
the log has a list of its own of the names of levels, the clock puts up a limit
that is too low, and the names of the reporter and of its field are looked up as
they stand.  Here each of these is held against the check.

The check and the log agree on every text: either both take it for the name of
a level or neither does.  They compare it after all letters were made small, and
there are more capitals than those of ASCII.  But no level has a k in its name,
so those do not matter (`Text.lowercase_eq_iff`): what is accepted is the five
names, in any mixture of plain capitals and small letters.

A limit that is valid is one that the clock keeps, so the error of a run names
the limit that was set (`Scenario.limit_of_run`), and so does that of a drain
inside callbacks (`ClockSession.reckoned_after`).
-/
import PageTimers.Proofs.Clock.Exhaustion
import PageTimers.Proofs.Decode.Records
import PageTimers.Proofs.Scenario.Checking
import PageTimers.Proofs.Text.Lowercase

namespace PageTimers

/-! ## Names that are not blank -/

namespace Text

theorem trimmed_eq_nil_iff {text : List Char} :
    trimmed text = [] ↔ ∀ c ∈ text, isBlank c = true := by
  rw [trimmed, List.reverse_eq_nil_iff, List.dropWhile_eq_nil_iff]
  constructor
  · intro h
    -- What is left in front of a text begins with a character that is not blank.
    have hnil : text.dropWhile isBlank = [] := by
      by_contra hne
      have hhead := List.head_dropWhile_not isBlank hne
      rw [h _ (List.mem_reverse.mpr (List.head_mem hne))] at hhead
      cases hhead
    exact List.dropWhile_eq_nil_iff.mp hnil
  · intro h c hc
    exact h c (List.dropWhile_subset isBlank (List.mem_reverse.mp hc))

theorem isBlankText_eq_false_iff {text : String} :
    isBlankText text = false ↔ ∃ c ∈ text.toList, isBlank c = false := by
  rw [isBlankText, List.isEmpty_eq_false_iff, ne_eq, trimmed_eq_nil_iff]
  simp only [not_forall, Bool.not_eq_true, exists_prop]

end Text

/-! ## Names of levels -/

namespace LogLevel

theorem isPlain_name (level : LogLevel) : ∀ c ∈ level.name.toList, Text.IsPlain c := by
  cases level <;> simp [name, Text.IsPlain]

/-- What the log takes for a level. -/
theorem ofText?_eq_some_iff {text : String} {level : LogLevel} :
    ofText? text = some level ↔ Text.lowercase text = level.name := by
  rw [ofText?]
  generalize Text.lowercase text = word
  constructor
  · intro h
    split at h <;> cases h <;> rfl
  · rintro rfl
    cases level <;> rfl

/-- What the check takes for a level. -/
theorem mem_levelNames_iff {word : String} :
    word ∈ LoggingSettings.levelNames ↔ ∃ level : LogLevel, word = level.name := by
  constructor
  · intro h
    fin_cases h
    exacts [⟨.trace, rfl⟩, ⟨.debug, rfl⟩, ⟨.info, rfl⟩, ⟨.warn, rfl⟩, ⟨.error, rfl⟩]
  · rintro ⟨level, rfl⟩
    cases level <;> decide

end LogLevel

namespace LoggingSettings

variable {s : LoggingSettings}

theorem threshold_eq_ok_iff {level : LogLevel} :
    s.threshold = .ok level ↔ Text.lowercase s.level = level.name := by
  rw [← LogLevel.ofText?_eq_some_iff, threshold]
  cases LogLevel.ofText? s.level with
  | some found => simp only [Except.ok.injEq, Option.some.injEq]
  | none => exact iff_of_false nofun nofun

theorem threshold_eq_error_iff {text : String} :
    s.threshold = .error (.invalidLevel text) ↔
      s.level = text ∧ Text.lowercase s.level ∉ levelNames := by
  rw [LogLevel.mem_levelNames_iff, not_exists]
  simp only [← LogLevel.ofText?_eq_some_iff]
  rw [threshold]
  cases LogLevel.ofText? s.level with
  | some found => exact iff_of_false nofun fun h => h.2 found rfl
  | none => simp

end LoggingSettings

/-! ## What the check lets through -/

namespace Settings

variable {s : Settings}

theorem validate_eq_invalidLogLevel_iff {text : String} :
    s.validate = .error (.invalidLogLevel text) ↔
      s.logging.level = text ∧ Text.lowercase s.logging.level ∉ LoggingSettings.levelNames := by
  rw [validate]
  by_cases hlevel : Text.lowercase s.logging.level ∈ LoggingSettings.levelNames
  · -- Whatever else is wrong is told by another error.
    rw [List.contains_iff_mem.mpr hlevel, Bool.not_true, if_neg Bool.false_ne_true]
    refine iff_of_false ?_ fun h => h.2 hlevel
    split_ifs <;> exact nofun
  · have hcontains : LoggingSettings.levelNames.contains (Text.lowercase s.logging.level) = false :=
      Bool.eq_false_iff.mpr fun h => hlevel (List.contains_iff_mem.mp h)
    rw [hcontains, Bool.not_false, if_pos rfl]
    constructor
    · intro h
      cases h
      exact ⟨rfl, hlevel⟩
    · rintro ⟨rfl, -⟩
      rfl

theorem validate_eq_ok_iff : s.validate = .ok () ↔
    Text.lowercase s.logging.level ∈ LoggingSettings.levelNames ∧
      Text.isBlankText s.completion.reporterGlobal = false ∧
      Text.isBlankText s.completion.finishedField = false ∧ s.virtualClock.stepLimit ≠ 0 := by
  rw [validate, ← List.contains_iff_mem]
  constructor
  · intro h
    -- The check passes on its last branch only.
    split_ifs at h with hlevel hreporter hfinished hlimit
    rw [Bool.not_eq_true, Bool.not_eq_false'] at hlevel
    exact ⟨hlevel, Bool.eq_false_iff.mpr hreporter, Bool.eq_false_iff.mpr hfinished, hlimit⟩
  · rintro ⟨hlevel, hreporter, hfinished, hlimit⟩
    rw [hlevel, hreporter, hfinished]
    exact if_neg hlimit

theorem clampLimit_of_valid (h : s.validate = .ok ()) :
    VirtualClock.clampLimit s.virtualClock.stepLimit.toNat = s.virtualClock.stepLimit.toNat := by
  obtain ⟨-, -, -, hlimit⟩ := validate_eq_ok_iff.mp h
  have hne : s.virtualClock.stepLimit.toNat ≠ 0 := fun hzero => hlimit (UInt64.toNat_inj.mp hzero)
  exact Nat.max_eq_left (Nat.one_le_iff_ne_zero.mpr hne)

theorem exists_threshold (h : s.validate = .ok ()) : ∃ level, s.logging.threshold = .ok level := by
  obtain ⟨level, hlevel⟩ := LogLevel.mem_levelNames_iff.mp (validate_eq_ok_iff.mp h).1
  exact ⟨level, LoggingSettings.threshold_eq_ok_iff.mpr hlevel⟩

end Settings

/-! ## What becomes of valid settings -/

/-- A run that gives up names the limit that it had. -/
theorem Scenario.limit_of_run {settings : Settings} {scenario : Scenario} {passed : Nat}
    (h : (scenario.run settings).result = .error (.timer (.stepLimitExceeded passed))) :
    passed = VirtualClock.clampLimit settings.virtualClock.stepLimit.toNat := by
  cases hvalid : scenario.validate with
  | error flaw =>
      rw [run, hvalid] at h
      cases h
      cases isFlaw_of_validate hvalid
  | ok _ =>
      rcases run_of_valid settings hvalid with
        ⟨report, hreport, -⟩ | ⟨_, _, cause, -, -, hoverruns, hcause⟩
      · rw [hreport] at h
        cases h
      · rw [hcause] at h
        cases h
        cases hoverruns
        rfl

/-- Settings that are handed out were found valid. -/
theorem Surroundings.valid_of_load {s : Surroundings} {file : Option String} {settings : Settings}
    (h : s.load file = .ok settings) : settings.validate = .ok () := by
  obtain ⟨merged, -, hread⟩ := exists_ok_of_bind h
  split at hread
  · cases hread
  · split at hread
    · cases hread
    · next hvalid =>
      cases hread
      exact hvalid

/-- The program sets up its log and goes on to its command. -/
theorem Invocation.execute_of_load {i : Invocation} {line : CommandLine} {settings : Settings}
    (h : i.surroundings.load line.config = .ok settings) :
    ∃ level, settings.logging.threshold = .ok level ∧
      i.execute line = .ofResult line.json
        (some (i.logOf settings.logging level (line.command.perform i settings).1))
        (line.command.perform i settings).2 := by
  obtain ⟨level, hlevel⟩ := Settings.exists_threshold (Surroundings.valid_of_load h)
  refine ⟨level, hlevel, ?_⟩
  rw [execute, h]
  dsimp only
  rw [hlevel]

/-- **Valid settings serve as they are.**  Whatever the text of their level, they
are refused for it exactly if the log would refuse it, and both refusals quote
it.  The log takes it for a level exactly if it becomes the name of that level
when its letters are made small, by the rules for all letters or by those for
the plain ones.

If settings are valid, then

* the log can be set up at a level;
* the names of the reporter and of its field have a character that is not blank;
* the clock keeps the limit that was set, so a run of a scenario that gives up
  names exactly this limit, and so does any drain of a page program that gives
  up, also one inside callbacks.

Settings that were loaded are valid, so the program never ends on its log: it
goes on to the command. -/
theorem valid_settings_serve :
    (∀ (s : Settings) (text : String),
      s.validate = .error (.invalidLogLevel text) ↔
        s.logging.threshold = .error (.invalidLevel text)) ∧
    (∀ (s : Settings) (level : LogLevel),
      (s.logging.threshold = .ok level ↔ Text.lowercase s.logging.level = level.name) ∧
      (s.logging.threshold = .ok level ↔ Text.lowered s.logging.level = level.name)) ∧
    (∀ s : Settings, s.validate = .ok () →
      (∃ level, s.logging.threshold = .ok level) ∧
      (∃ c ∈ s.completion.reporterGlobal.toList, Text.isBlank c = false) ∧
      (∃ c ∈ s.completion.finishedField.toList, Text.isBlank c = false) ∧
      VirtualClock.clampLimit s.virtualClock.stepLimit.toNat = s.virtualClock.stepLimit.toNat ∧
      (∀ (scenario : Scenario) (passed : Nat),
        (scenario.run s).result = .error (.timer (.stepLimitExceeded passed)) →
          passed = s.virtualClock.stepLimit.toNat) ∧
      ∀ (globals : Globals) (actions : List (Action TimerId)) (n : Nat) (caller : Caller TimerId)
        (action : Action TimerId) (passed : Nat),
        Entry.did caller action (.answered (.error (.stepLimitExceeded passed))) ∈
            ((ClockSession.fresh globals actions).after
              s.virtualClock.stepLimit.toNat n).machine.world.log →
          passed = s.virtualClock.stepLimit.toNat) ∧
    ∀ (i : Invocation) (line : CommandLine) (s : Settings),
      i.surroundings.load line.config = .ok s →
      ∃ level, s.logging.threshold = .ok level ∧
        i.execute line = .ofResult line.json
          (some (i.logOf s.logging level (line.command.perform i s).1))
          (line.command.perform i s).2 := by
  refine ⟨fun s text => ?_, fun s level => ?_, fun s hvalid => ?_,
    fun i line s => Invocation.execute_of_load⟩
  · rw [Settings.validate_eq_invalidLogLevel_iff, LoggingSettings.threshold_eq_error_iff]
  · have hfull : s.logging.threshold = .ok level ↔ Text.lowercase s.logging.level = level.name :=
      LoggingSettings.threshold_eq_ok_iff
    exact ⟨hfull, hfull.trans (Text.lowercase_eq_iff level.isPlain_name s.logging.level)⟩
  · obtain ⟨-, hreporter, hfinished, -⟩ := Settings.validate_eq_ok_iff.mp hvalid
    have hlimit := Settings.clampLimit_of_valid hvalid
    refine ⟨Settings.exists_threshold hvalid, Text.isBlankText_eq_false_iff.mp hreporter,
      Text.isBlankText_eq_false_iff.mp hfinished, hlimit, fun scenario passed hrun => ?_,
      fun globals actions n caller action passed hentry => ?_⟩
    · exact (Scenario.limit_of_run hrun).trans hlimit
    · exact ((ClockSession.reckoned_after _ globals actions n).named caller action passed
        hentry).trans hlimit

namespace Hasty

/-- Two callbacks are all that a drain may run. -/
def settings : Settings where
  logging := { level := "WaRN" }
  virtualClock := { stepLimit := 2 }

/-- The same settings, from the environment. -/
def surroundings : Surroundings where
  disk _ _ := .missing
  directory := []
  environment := [("QUIESCE_LOGGING__LEVEL", "WaRN"), ("QUIESCE_VIRTUAL_CLOCK__STEP_LIMIT", "2")]

def invocation : Invocation := ⟨["config", "show"], surroundings, ⟨"", "", ""⟩⟩

def line : CommandLine := ⟨false, none, .showConfig⟩

/-- Five turns come due by its end. -/
def scenario : Scenario where
  name := "ticking"
  description := none
  steps := [.scheduleRepeating "tick" 1, .advance 5]

/-- A callback flushes, and a timer goes on and on. -/
def actions : List (Action TimerId) :=
  [.schedule .page .repeating (.ofMillis 1) none .idle,
    .schedule .page .once (.ofMillis 0) none (.mk false [] [.drain .flush]),
    .drain .runDue]

/-- The run of the scenario and the flush in the callback both name the limit,
and the program does not end on its log. -/
theorem settings_serve :
    settings.validate = .ok () ∧ (∃ level, settings.logging.threshold = .ok level) ∧
    (∃ passed, (scenario.run settings).result = .error (.timer (.stepLimitExceeded passed)) ∧
      passed = settings.virtualClock.stepLimit.toNat) ∧
    (∃ passed, Entry.did (.callback (some ⟨2⟩)) (.drain .flush)
        (.answered (.error (.stepLimitExceeded passed))) ∈
          ((ClockSession.fresh .empty actions).after
            settings.virtualClock.stepLimit.toNat 12).machine.world.log ∧
      passed = settings.virtualClock.stepLimit.toNat) ∧
    surroundings.load none = .ok settings ∧ (invocation.execute line).exit = 0 := by
  obtain ⟨-, -, hserves, hprogram⟩ := valid_settings_serve
  have hvalid : settings.validate = .ok () := by decide +kernel
  obtain ⟨hlevel, -, -, -, hrun, hpage⟩ := hserves settings hvalid
  have hgivesUp : (scenario.run settings).result = .error (.timer (.stepLimitExceeded 2)) := rfl
  have hrefused : ((ClockSession.fresh .empty actions).after
      settings.virtualClock.stepLimit.toNat 12).machine.world.log.head? =
        some (.did (.callback (some ⟨2⟩)) (.drain .flush)
          (.answered (.error (.stepLimitExceeded 2)))) := rfl
  have hentry := List.mem_of_mem_head? hrefused
  have hloaded : (surroundings.load none).toOption = some settings := by decide +kernel
  have hload : surroundings.load none = .ok settings := by
    cases hresult : surroundings.load none with
    | error e =>
        rw [hresult] at hloaded
        cases hloaded
    | ok loaded =>
        rw [hresult] at hloaded
        cases hloaded
        rfl
  obtain ⟨level, -, hexecute⟩ := hprogram invocation line settings hload
  refine ⟨hvalid, hlevel, ⟨2, hgivesUp, hrun scenario 2 hgivesUp⟩,
    ⟨2, hentry, hpage _ _ _ _ _ 2 hentry⟩, hload, ?_⟩
  rw [hexecute]
  rfl

end Hasty

end PageTimers
