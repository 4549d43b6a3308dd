import PangolinGateway.Calls.Interleave
import PangolinGateway.Calls.Loop
import PangolinGateway.Calls.Program
import PangolinGateway.Calls.Toward
import PangolinGateway.Config
import PangolinGateway.Config.Env
import PangolinGateway.Config.Faults
import PangolinGateway.Config.FromEnv
import PangolinGateway.Config.KeyValues
import PangolinGateway.Config.Readable
import PangolinGateway.Crates
import PangolinGateway.Json
import PangolinGateway.Json.Members
import PangolinGateway.Kube.Cluster
import PangolinGateway.Kube.EnvoyWire
import PangolinGateway.Kube.Metadata
import PangolinGateway.Kube.Objects
import PangolinGateway.Maps.FirstClaim
import PangolinGateway.Maps.FirstWins
import PangolinGateway.Maps.InsertLoop
import PangolinGateway.Maps.WriteLog
import PangolinGateway.Pangolin.Client
import PangolinGateway.Pangolin.Decode
import PangolinGateway.Pangolin.Received
import PangolinGateway.Pangolin.Types
import PangolinGateway.Reconcile.Apply
import PangolinGateway.Reconcile.ApplyPhase
import PangolinGateway.Reconcile.Backoff
import PangolinGateway.Reconcile.Converges
import PangolinGateway.Reconcile.Gc
import PangolinGateway.Reconcile.Goal
import PangolinGateway.Reconcile.Instances
import PangolinGateway.Reconcile.Lockstep
import PangolinGateway.Reconcile.Orphans
import PangolinGateway.Reconcile.PendingFailure
import PangolinGateway.Reconcile.ProtectedRoutes
import PangolinGateway.Reconcile.Readiness
import PangolinGateway.Reconcile.ReconcileOnce
import PangolinGateway.Reconcile.Replicas
import PangolinGateway.Reconcile.Rests
import PangolinGateway.Reconcile.RouteTargets
import PangolinGateway.Reconcile.RunLoop
import PangolinGateway.Reconcile.Serving
import PangolinGateway.Reconcile.SideBySide
import PangolinGateway.Reconcile.Skips
import PangolinGateway.Runs.FirstError
import PangolinGateway.Runs.Turns
import PangolinGateway.Shim.CanonicalHeaders
import PangolinGateway.Shim.Check
import PangolinGateway.Shim.CookieIsolation
import PangolinGateway.Shim.FailClosed
import PangolinGateway.Shim.FromEnv
import PangolinGateway.Shim.Helpers
import PangolinGateway.Shim.Identity
import PangolinGateway.Shim.Prefixed
import PangolinGateway.Shim.QueryParams
import PangolinGateway.Shim.SignIn
import PangolinGateway.Shim.Unprefixed
import PangolinGateway.Shim.Vouched
import PangolinGateway.Shim.Wire
import PangolinGateway.Text.AsciiCase
import PangolinGateway.Text.Decimal
import PangolinGateway.Text.FormUrlencoded
import PangolinGateway.Text.IpAddr
import PangolinGateway.Text.Items
import PangolinGateway.Text.PathElements
import PangolinGateway.Text.Spans
import PangolinGateway.Text.Split
import PangolinGateway.Text.Str
import PangolinGateway.Transform.AddressFamily
import PangolinGateway.Transform.Admission
import PangolinGateway.Transform.AuthGate
import PangolinGateway.Transform.Backend
import PangolinGateway.Transform.BackendModes
import PangolinGateway.Transform.BackendTls
import PangolinGateway.Transform.BuildDesired
import PangolinGateway.Transform.BuildWrites
import PangolinGateway.Transform.Classify
import PangolinGateway.Transform.Closed
import PangolinGateway.Transform.ClusterDns
import PangolinGateway.Transform.Collisions
import PangolinGateway.Transform.DataPlane
import PangolinGateway.Transform.Desired
import PangolinGateway.Transform.Dispatch
import PangolinGateway.Transform.ExtAuthz
import PangolinGateway.Transform.Families
import PangolinGateway.Transform.Guarded
import PangolinGateway.Transform.HeaderNames
import PangolinGateway.Transform.Isolation
import PangolinGateway.Transform.L4
import PangolinGateway.Transform.L4Address
import PangolinGateway.Transform.L4Ports
import PangolinGateway.Transform.Labels
import PangolinGateway.Transform.LastWrites
import PangolinGateway.Transform.Listener
import PangolinGateway.Transform.ListenerAttach
import PangolinGateway.Transform.ListenerCount
import PangolinGateway.Transform.ListenerNames
import PangolinGateway.Transform.MergeFilters
import PangolinGateway.Transform.Middleware
import PangolinGateway.Transform.Named
import PangolinGateway.Transform.Naming
import PangolinGateway.Transform.ParentRefs
import PangolinGateway.Transform.PathRewrite
import PangolinGateway.Transform.PortClaims
import PangolinGateway.Transform.PortRange
import PangolinGateway.Transform.Precedence
import PangolinGateway.Transform.PrefixMiddlewares
import PangolinGateway.Transform.RedirectOnly
import PangolinGateway.Transform.Route
import PangolinGateway.Transform.Rule
import PangolinGateway.Transform.RuleAccepted
import PangolinGateway.Transform.RuleConjunction
import PangolinGateway.Transform.RuleMeaning
import PangolinGateway.Transform.RuleReading
import PangolinGateway.Transform.RuleSlips
import PangolinGateway.Transform.RuleText
import PangolinGateway.Transform.Selected
import PangolinGateway.Transform.ServiceWrites
import PangolinGateway.Transform.TlsPolicies
import PangolinGateway.Transform.WireSpecs
import PangolinGateway.Transform.Writes
import PangolinGateway.Transform.Written
