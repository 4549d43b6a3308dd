import PangolinGateway.Json

/-! # Controller configuration

The fields that the transform, the reconcile loop and the pangolin client read. Durations are
nanoseconds. -/
namespace PangolinGateway
set_option autoImplicit false

inductive BackendKind where
  | service
  | envoyBackend
  deriving DecidableEq

structure ExtAuthzConfig where
  service : String
  ns : Option String
  port : ℤ
  path : Option String
  headersToExtAuth : List String
  headersToBackend : List String

structure Config where
  authHeader : Option String
  pollInterval : ℕ
  maxBackoff : ℕ
  maxResponseBodyBytes : ℕ
  /-- The namespace every object is written to. -/
  ns : String
  parentGateway : String
  parentGatewayNamespace : Option String
  listenerSetName : String
  httpPort : ℤ
  httpsPort : ℤ
  enableHttpsListeners : Bool
  enableTcpRoutes : Bool
  enableUdpRoutes : Bool
  backendKind : BackendKind
  extAuthz : Option ExtAuthzConfig
  allowUnauthenticatedRoutes : Bool
  tlsSecretTemplate : Option String
  tlsSecretNamespace : Option String
  managedLabelKey : String
  managedLabelValue : String
  instanceLabelKey : String
  instanceLabelValue : String
  managedAnnotationKey : String
  managedAnnotationValue : String
  httprouteAnnotations : Map String
  listenersetAnnotations : Map String
  readOnly : Bool

/-- A label selector: the `key=value` requirements, all of which must hold. -/
abbrev Selector := List (String × String)

/-- Selector used by GC to enumerate every object the controller has created. -/
def Config.managedSelector (cfg : Config) : Selector :=
  [(cfg.managedLabelKey, cfg.managedLabelValue), (cfg.instanceLabelKey, cfg.instanceLabelValue)]

end PangolinGateway
