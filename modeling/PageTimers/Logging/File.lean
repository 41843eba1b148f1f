/-
# Log files

The name of a log file says when it was begun, as precisely as its rotation
needs.  Every event is a line, and every line a document.
-/
import PageTimers.Event
import PageTimers.Settings
import PageTimers.UtcTime

namespace PageTimers

/-- The name of the log file that is written to at a point in time. -/
def Rotation.fileName (rotation : Rotation) (time : UtcTime) : String :=
  match rotation with
  | daily => s!"quiesce.log.{time.dateText}"
  | hourly => s!"quiesce.log.{time.dateText}-{UtcTime.padded 2 time.hour}"
  | never => "quiesce.log"

namespace Event

variable {ι : Type} [Identifier ι]

/-- The fields of an event, with its message among them. -/
def fieldsJson (e : Event ι) : Json := .ofFields (("message", .string e.message) :: e.values)

/-- An event as a line of a log of documents. -/
def documentLine (time : UtcTime) (e : Event ι) : String :=
  (Json.ofFields [("timestamp", .string (time.text "Z")), ("level", .string e.level.tag),
    ("target", .string e.topic), ("fields", e.fieldsJson)]).compact

/-- An event as a line to read. -/
def plainLine (time : UtcTime) (e : Event ι) : String :=
  let named := e.values.map fun (name, value) => s!" {name}={value.compact}"
  time.text "Z" ++ s!" {e.level.tag} {e.topic}: {e.message}" ++ String.join named

end Event

end PageTimers
