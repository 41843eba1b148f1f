import PageTimers.Program.Session
import PageTimers.Program.TaskSession
import PageTimers.Provider.Virtual
import PageTimers.Provider.Canned
import PageTimers.Json.Reader
import PageTimers.Main
import PageTimers.Proofs.Clock.History
import PageTimers.Proofs.Clock.Identity
import PageTimers.Proofs.Clock.Uniqueness
import PageTimers.Proofs.Scenario.Completion
import PageTimers.Proofs.Clock.Cancellation
import PageTimers.Proofs.Clock.Clearing
import PageTimers.Proofs.Clock.Cadence
import PageTimers.Proofs.Clock.Termination
import PageTimers.Proofs.Clock.Obedience
import PageTimers.Proofs.Clock.FiringOrder
import PageTimers.Proofs.Page.Tracking
import PageTimers.Proofs.Page.Quiescence
import PageTimers.Proofs.Page.Transparency
import PageTimers.Proofs.Page.Exactness
import PageTimers.Proofs.Program.Turns
import PageTimers.Proofs.Clock.StepLimit
import PageTimers.Proofs.Scenario.ClosedForm
import PageTimers.Proofs.Clock.Passing
import PageTimers.Proofs.Tasks.Agreement
import PageTimers.Proofs.Scenario.Checking
import PageTimers.Proofs.Page.Monitor
import PageTimers.Proofs.Page.Journal
import PageTimers.Proofs.Page.Reinstallation
import PageTimers.Proofs.Tasks.Cancellation
import PageTimers.Proofs.Clock.Unwinding
import PageTimers.Proofs.Clock.Punctuality
import PageTimers.Proofs.Clock.Flushing
import PageTimers.Proofs.Tasks.Leakage
import PageTimers.Proofs.Scenario.Liveness
import PageTimers.Proofs.Scenario.Rewording
import PageTimers.Proofs.Page.Globals
import PageTimers.Proofs.Clock.Pending
import PageTimers.Proofs.Decode.RoundTrip
import PageTimers.Proofs.Layers.Precedence
import PageTimers.Proofs.Text.Lowercase
import PageTimers.Proofs.Clock.Exhaustion
import PageTimers.Proofs.Settings.Validity
import PageTimers.Proofs.Program.Recursion
import PageTimers.Proofs.Scenario.Programs
