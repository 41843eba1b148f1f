/-
# Settings as text

All settings as a YAML document, in the order of their declaration.
-/
import PageTimers.Settings
import PageTimers.Yaml.Writer

namespace PageTimers

namespace Settings

/-- A section and its fields. -/
def sectionText (name : String) (fields : List (String × String)) : String :=
  name ++ ":\n" ++ String.join (fields.map fun (field, value) => Yaml.fieldText 2 field value)

/-- A text as the value of a field in a section. -/
def textValue (s : String) : String := Yaml.scalarText 4 s

def text (s : Settings) : String :=
  sectionText "logging"
      [("level", textValue s.logging.level), ("format", textValue s.logging.format.name),
        ("log_dir", (s.logging.logDir.map textValue).getD "null"),
        ("rotation", textValue s.logging.rotation.name)] ++
    sectionText "completion"
      [("reporter_global", textValue s.completion.reporterGlobal),
        ("finished_field", textValue s.completion.finishedField),
        ("include_outstanding_timers",
          if s.completion.includeOutstanding then "true" else "false")] ++
    sectionText "virtual_clock" [("step_limit", toString s.virtualClock.stepLimit.toNat)]

end Settings

end PageTimers
