import Maintainerd.Authctrl.Custody
import Maintainerd.Gateway.Tenancy
import Maintainerd.Lib.Run
import Maintainerd.Resource.Generation
import Maintainerd.Resource.Teardown
import Maintainerd.Supervisor.Escalation
import Maintainerd.Supervisor.Watch
import Maintainerd.Setup.Identity
import Maintainerd.Resource.HostFlag
import Maintainerd.Resource.PoisonPill
import Maintainerd.Resource.Backoff
import Maintainerd.Setup.Steward
import Maintainerd.Setup.Survival
import Maintainerd.Lib.Dialogue
import Maintainerd.Steward.World
import Maintainerd.Steward.Reconcile
import Maintainerd.Authctrl.Applier
import Maintainerd.Steward.Custody
import Maintainerd.Supervisor.Gap
import Maintainerd.Agents.Enrolment
import Maintainerd.Setup.Secret
import Maintainerd.Agents.JoinToken
import Maintainerd.Agents.Pulse
import Maintainerd.Agents.Liveness
import Maintainerd.Storage.Registry
import Maintainerd.Registry.Feed
import Maintainerd.Console.SignIn
import Maintainerd.Template.Render
import Maintainerd.Template.Noninterference
import Maintainerd.Lib.Crew
import Maintainerd.Steward.Race
import Maintainerd.Resource.Identity
import Maintainerd.Gateway.Accepted
import Maintainerd.Resource.Columns
import Maintainerd.Resource.Spec
import Maintainerd.Gateway.Reoffer
import Maintainerd.Registry.Converge
import Maintainerd.Template.Vault
import Maintainerd.Authctrl.Report
import Maintainerd.Authctrl.Settle
import Maintainerd.Authctrl.Idempotence
import Maintainerd.Template.Address
import Maintainerd.Template.Substitution
import Maintainerd.Authctrl.Token
import Maintainerd.Platform.Secrets
import Maintainerd.Platform.Redaction
import Maintainerd.Console.Listing
import Maintainerd.Console.ReturnTo
import Maintainerd.Lib.Backoff
import Maintainerd.Dependency.Cadence
import Maintainerd.Setup.Retry
import Maintainerd.Platform.Paging
import Maintainerd.Lib.Url
import Maintainerd.Resource.Delivery
import Maintainerd.Resource.Queue
import Maintainerd.Lib.Flight
import Maintainerd.Setup.SingleFlight
import Maintainerd.Authctrl.Runner
import Maintainerd.Http.Guard
import Maintainerd.Http.Router
import Maintainerd.Boot.Posture
import Maintainerd.Gateway.Wire
import Maintainerd.Supervisor.Incidents
import Maintainerd.Setup.Stamp
import Maintainerd.Http.Capabilities
import Maintainerd.Setup.Gate
import Maintainerd.Http.Anonymous
import Maintainerd.Setup.Mirror
import Maintainerd.Console.Binding
import Maintainerd.Event.Log
