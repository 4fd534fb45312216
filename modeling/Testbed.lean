import Testbed.Main
import Testbed.Rehearsal
import Testbed.Proofs.FailFast
import Testbed.Proofs.Cancellation
import Testbed.Proofs.Agreement
import Testbed.Proofs.Pacing
import Testbed.Proofs.Truncation
import Testbed.Proofs.Attempts
import Testbed.Proofs.Presence
import Testbed.Proofs.Bootstrap
import Testbed.Proofs.Deadline
import Testbed.Proofs.Undisturbed
import Testbed.Proofs.Usable
import Testbed.Proofs.DryRun
import Testbed.Proofs.ExitCode
import Testbed.Proofs.Grid
import Testbed.Proofs.Verification
import Testbed.Proofs.Absence
import Testbed.Proofs.RoleGate
import Testbed.Proofs.SameObject
import Testbed.Proofs.Ticks
import Testbed.Proofs.Extension
import Testbed.Proofs.ServedVersion
import Testbed.Proofs.StaysInstalled
import Testbed.Proofs.Readiness
import Testbed.Proofs.FirstReady
import Testbed.Proofs.Options
import Testbed.Proofs.Refusals
import Testbed.Proofs.JsonManifests
import Testbed.Proofs.RoundTrip
import Testbed.Proofs.Streams
import Testbed.Proofs.ApiVersion
