/-
# Reports

The outcome of a run or of a check, as a document and as text to read.  A
page is stamped with an identifier and the time it was attached, and both
go into the report.
-/
import PageTimers.Scenario.Run
import PageTimers.Text.Table

namespace PageTimers

/-- What tells one page from all others. -/
structure PageStamp where
  id : String
  /-- When the page was attached, as documents write it. -/
  attachedAt : String
  /-- When the page was attached, for reading. -/
  attachedText : String

namespace StepReport

/-- A field that is left out when there is nothing to tell. -/
def told {α : Type} (name : String) (encode : α → Json) : Option α → List (String × Json)
  | none => []
  | some a => [(name, encode a)]

def idsJson (ids : List TimerId) : Json := .array (ids.map fun id => .ofNat id.value)

def toJson (r : StepReport) : Json :=
  .ofFields ([("index", .ofNat r.index), ("step", .string r.step), ("now_ms", .ofNat r.now),
      ("outstanding", .ofOption idsJson r.outstanding), ("pending", .ofNat r.pending),
      ("completed", .bool r.completed)] ++
    told "cancelled" .bool r.cancelled ++ told "fired" .ofNat r.fired)

def yesNo (b : Bool) : String := if b then "yes" else "no"

/-- Outstanding timers in a cell of the table. -/
def idsText : Option (List TimerId) → String
  | none => "-"
  | some ids => "\x7b" ++ ", ".intercalate (ids.map Identifier.display) ++ "\x7d"

def cells (r : StepReport) : List String :=
  [toString r.index, r.step, toString r.now, idsText r.outstanding, toString r.pending,
    yesNo r.completed]

end StepReport

namespace ScenarioReport

def header : List String :=
  ["#", "Step", "Time (ms)", "Outstanding", "Queued", "Completed"]

def toJson (stamp : PageStamp) (r : ScenarioReport) : Json :=
  .ofFields [("name", .string r.name), ("page_id", .string stamp.id),
    ("attached_at", .string stamp.attachedAt),
    ("steps", .array (r.steps.map StepReport.toJson)),
    ("labels", .object (r.labels.map fun (label, id) => (label, .ofNat id.value))),
    ("completed", .bool r.completed)]

def text (stamp : PageStamp) (r : ScenarioReport) : String :=
  s!"Scenario: {r.name}\nPage: {stamp.id} (attached {stamp.attachedText})\n" ++
    Text.table header (r.steps.map StepReport.cells) ++
    s!"\nCompleted: {StepReport.yesNo r.completed}"

end ScenarioReport

/-- The outcome of a check that found nothing wrong. -/
structure CheckReport where
  name : String
  steps : Nat
deriving DecidableEq, Repr

namespace CheckReport

def toJson (r : CheckReport) : Json :=
  .ofFields [("name", .string r.name), ("steps", .ofNat r.steps), ("valid", .bool true)]

def text (r : CheckReport) : String := s!"Scenario '{r.name}' is valid ({r.steps} steps)"

end CheckReport

/-- Check a scenario without running it. -/
def Scenario.check (scenario : Scenario) : Except ScenarioError CheckReport :=
  match scenario.validate with
  | .error e => .error e
  | .ok () => .ok ⟨scenario.name, scenario.steps.length⟩

end PageTimers
