/-
# A page and its two instruments

A page has globals, flags that its probes may look at, and two slots that
are filled at most once: the interceptor (the set of outstanding timers,
empty when it is installed) and the monitor (the probes that say whether the
page is complete).  Installing again changes nothing.

The interceptor stands between scripts and the provider.  It only watches:
`noteScheduled` and `noteCleared` say what it makes of an answer, and the
answer itself passes through.
-/
import PageTimers.Event
import PageTimers.Globals
import PageTimers.Outstanding
import PageTimers.Provider.Basic
import PageTimers.Settings

namespace PageTimers

/-- A question that tells whether some framework on the page is done. -/
inductive Probe
  /-- The field of a reporter object that is published as a global. -/
  | reporter (reporter field : String)
  /-- No timer is outstanding. -/
  | outstanding
  /-- A flag of the page. -/
  | flag (name : String)
  /-- A question with a fixed answer. -/
  | fixed (name : String) (answer : Bool)
deriving DecidableEq, Repr

namespace Probe

/-- The probe of the usual reporter. -/
def jasmine : Probe := .reporter "reporter" "finished"

def name : Probe → String
  | reporter .. => "reporter_finished"
  | outstanding => "outstanding_timers"
  | flag name => name
  | fixed name _ => name

/-- The debugging view of a probe that is a question of its own. -/
def describe (name : String) : String := "FnProbe \x7b name: " ++ Text.quoted name ++ " \x7d"

end Probe

structure Page (ι : Type) where
  globals : Globals
  /-- Flags are down until they are raised. -/
  flags : Fields Bool
  /-- What the interceptor tracks, once it is installed. -/
  outstanding : Option (Outstanding ι)
  /-- The probes in force, once a monitor is installed. -/
  monitor : Option (List Probe)

namespace Page

variable {ι : Type}

/-- A page with the given globals and nothing installed. -/
def attach (globals : Globals) : Page ι := ⟨globals, [], none, none⟩

/-! ## Completion -/

/-- The answer of a probe at this moment. -/
def answer (page : Page ι) : Probe → Bool
  | .reporter reporter field =>
    match page.globals.lookup? [reporter, field] with
    | none => false
    | some value => value.isTruthy
  | .outstanding =>
    match page.outstanding with
    | none => false
    | some set => set.isEmpty
  | .flag name => (page.flags.get? name).getD false
  | .fixed _ answer => answer

/-- Ask probes in order until one answers yes: those asked, with their
answers. -/
def askInOrder (page : Page ι) : List Probe → List (Probe × Bool)
  | [] => []
  | probe :: rest =>
    if page.answer probe then [(probe, true)] else (probe, false) :: askInOrder page rest

/-- The probes that are asked to find out whether the page is complete. -/
def asked (page : Page ι) : List (Probe × Bool) := page.askInOrder (page.monitor.getD [])

/-- Whether a probe of the monitor answers yes; without a monitor, no. -/
def completed (page : Page ι) : Bool := page.asked.any (·.2)

/-- What asking leaves in the journal, in order. -/
def askedEvents (page : Page ι) : List (Event ι) :=
  page.asked.map fun (probe, answer) => .probeEvaluated probe.name answer

def probeNames? (page : Page ι) : Option (List String) :=
  page.monitor.map fun probes => probes.map Probe.name

/-- The debugging view of a monitor. -/
def describeMonitor (probes : List Probe) : String :=
  "CompletionPredicate \x7b probes: " ++ Text.quotedList (probes.map Probe.name) ++ " \x7d"

/-! ## Installing -/

def isIntercepted (page : Page ι) : Bool := page.outstanding.isSome

/-- Start to track timers, from none on. -/
def installInterceptor (page : Page ι) : Page ι × List (Event ι) :=
  match page.outstanding with
  | none => ({ page with outstanding := some .empty }, [.interceptorInstalled])
  | some _ => (page, [.interceptorPresent])

/-- Fix the probes that decide whether the page is complete. -/
def installMonitor (probes : List Probe) (page : Page ι) : Page ι × List (Event ι) :=
  match page.monitor with
  | none =>
    ({ page with monitor := some probes }, [.monitorInstalled (probes.map Probe.name)])
  | some _ => (page, [.monitorPresent])

/-- The probes that settings ask for.  The outstanding timers can only be
watched where they are tracked. -/
def configuredProbes (settings : CompletionSettings) (page : Page ι) : List Probe :=
  .reporter settings.reporterGlobal settings.finishedField ::
    if settings.includeOutstanding && page.isIntercepted then [.outstanding] else []

/-- Install the monitor that settings ask for. -/
def installConfigured (settings : CompletionSettings) (page : Page ι) :
    Page ι × List (Event ι) :=
  let warning :=
    if settings.includeOutstanding && !page.isIntercepted then [.outstandingProbeSkipped] else []
  let (page, events) := page.installMonitor (page.configuredProbes settings)
  (page, warning ++ events)

/-! ## Watching -/

variable [DecidableEq ι]

/-- A timer was scheduled through the interceptor. -/
def noteScheduled (kind : TimerKind) (id : ι) (page : Page ι) : Page ι × List (Event ι) :=
  match page.outstanding with
  | none => (page, [])
  | some set =>
    let set := set.insert id
    ({ page with outstanding := some set }, [.scheduled id kind set.size])

/-- A timer was cancelled through the interceptor, whatever the answer. -/
def noteCleared (kind : TimerKind) (id : ι) (found : Bool) (page : Page ι) :
    Page ι × List (Event ι) :=
  match page.outstanding with
  | none => (page, [])
  | some set =>
    let set := set.erase id
    ({ page with outstanding := some set }, [.cancelled id kind found set.size])

/-- What the interceptor makes of the answer to a request.  An error, and
whatever is no timer call, leaves it alone. -/
def note {α : Type} (request : Request ι α) (result : Except TimerError (Answer ι))
    (page : Page ι) : Page ι × List (Event ι) :=
  match request, result with
  | .schedule kind _ _, .ok (.scheduled id) => page.noteScheduled kind id
  | .clear kind id, .ok (.cleared found) => page.noteCleared kind id found
  | _, _ => (page, [])

end Page

end PageTimers
