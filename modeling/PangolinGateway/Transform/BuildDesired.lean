import PangolinGateway.Transform.L4
import PangolinGateway.Transform.Listener

/-! # The whole transform: dynamic config to desired set -/
namespace PangolinGateway
set_option autoImplicit false

variable [DefaultHasher]

/-- A disabled family is skipped with a warning. -/
def buildL4Family (cfg : Config) (block : Option L4Config) (proto : L4Protocol) (enabled : Bool)
    (desired : Desired) : List ListenerSetListener × Desired :=
  match block with
  | none => ([], desired)
  | some block => if enabled then buildL4 cfg block proto desired else ([], desired)

variable [UrlCrate]

def buildDesired (cfg : Config) (dynConfig : TraefikDynamicConfig) : Desired :=
  let (backendIndex, desired) :=
    buildBackends cfg dynConfig.http.services dynConfig.http.serversTransports .empty
  let (routeIndex, desired) := buildRoutes cfg dynConfig backendIndex desired
  let (tcpListeners, desired) := buildL4Family cfg dynConfig.tcp .tcp cfg.enableTcpRoutes desired
  let (udpListeners, desired) := buildL4Family cfg dynConfig.udp .udp cfg.enableUdpRoutes desired
  buildListenerSet cfg routeIndex (tcpListeners ++ udpListeners) desired

/-! ## What the stages hand to each other -/

def backendIndex (cfg : Config) (dynConfig : TraefikDynamicConfig) : BackendIndex :=
  (buildBackends cfg dynConfig.http.services dynConfig.http.serversTransports .empty).1

def routesStage (cfg : Config) (dynConfig : TraefikDynamicConfig) : RouteIndex × Desired :=
  buildRoutes cfg dynConfig (backendIndex cfg dynConfig)
    (buildBackends cfg dynConfig.http.services dynConfig.http.serversTransports .empty).2

def tcpStage (cfg : Config) (dynConfig : TraefikDynamicConfig) :
    List ListenerSetListener × Desired :=
  buildL4Family cfg dynConfig.tcp .tcp cfg.enableTcpRoutes (routesStage cfg dynConfig).2

def udpStage (cfg : Config) (dynConfig : TraefikDynamicConfig) :
    List ListenerSetListener × Desired :=
  buildL4Family cfg dynConfig.udp .udp cfg.enableUdpRoutes (tcpStage cfg dynConfig).2

theorem buildDesired_eq (cfg : Config) (dynConfig : TraefikDynamicConfig) :
    buildDesired cfg dynConfig =
      buildListenerSet cfg (routesStage cfg dynConfig).1
        ((tcpStage cfg dynConfig).1 ++ (udpStage cfg dynConfig).1) (udpStage cfg dynConfig).2 := rfl

omit [UrlCrate] in
theorem buildL4Family_httpRouting (cfg : Config) (block : Option L4Config) (proto : L4Protocol)
    (enabled : Bool) (desired : Desired) :
    (buildL4Family cfg block proto enabled desired).2.httpRouting = desired.httpRouting := by
  unfold buildL4Family
  cases block with
  | none => rfl
  | some block =>
    cases enabled with
    | false => rfl
    | true => exact buildL4_httpRouting cfg block proto desired

theorem udpStage_httpRouting (cfg : Config) (dynConfig : TraefikDynamicConfig) :
    (udpStage cfg dynConfig).2.httpRouting = (routesStage cfg dynConfig).2.httpRouting := by
  rw [udpStage, buildL4Family_httpRouting, tcpStage, buildL4Family_httpRouting]

theorem buildBackends_routing_empty (cfg : Config) (dynConfig : TraefikDynamicConfig) :
    (buildBackends cfg dynConfig.http.services dynConfig.http.serversTransports .empty).2.routing =
      (∅, ∅, ∅, ∅, ∅) :=
  buildBackends_routing cfg _ _ _

/-! ## The routes and policies of the desired set -/

theorem buildDesired_httpRoutes (cfg : Config) (dynConfig : TraefikDynamicConfig) :
    (buildDesired cfg dynConfig).httpRoutes =
      InsertLoop.insertAll (routeEntry cfg dynConfig (backendIndex cfg dynConfig))
        dynConfig.http.routers.toList ∅ := by
  have hudp := congrArg Prod.fst (udpStage_httpRouting cfg dynConfig)
  have hback := congrArg Prod.fst (buildBackends_routing_empty cfg dynConfig)
  simp only [Desired.httpRouting, Desired.routing] at hudp hback
  rw [buildDesired_eq, buildListenerSet, hudp, routesStage, buildRoutes_httpRoutes, hback]

theorem buildDesired_securityPolicies (cfg : Config) (dynConfig : TraefikDynamicConfig) :
    (buildDesired cfg dynConfig).securityPolicies =
      InsertLoop.insertAll (policyEntry cfg dynConfig (backendIndex cfg dynConfig))
        dynConfig.http.routers.toList ∅ := by
  have hudp := congrArg (fun r => r.2.1) (udpStage_httpRouting cfg dynConfig)
  have hback := congrArg (fun r => r.2.1) (buildBackends_routing_empty cfg dynConfig)
  simp only [Desired.httpRouting, Desired.routing] at hudp hback
  rw [buildDesired_eq, buildListenerSet, hudp, routesStage, buildRoutes_securityPolicies, hback]

theorem buildDesired_listenerSets (cfg : Config) (dynConfig : TraefikDynamicConfig) :
    (buildDesired cfg dynConfig).listenerSets =
      (∅ : Map ListenerSet).insert (dnsLabel cfg.listenerSetName)
        (listenerSet cfg (routesStage cfg dynConfig).1
          ((tcpStage cfg dynConfig).1 ++ (udpStage cfg dynConfig).1)) := by
  have hudp := congrArg (fun r => r.2.2) (udpStage_httpRouting cfg dynConfig)
  have hback := congrArg (fun r => r.2.2.1) (buildBackends_routing_empty cfg dynConfig)
  simp only [Desired.httpRouting, Desired.routing] at hudp hback
  rw [routesStage, buildRoutes_listenerSets, hback] at hudp
  rw [buildDesired_eq, buildListenerSet, hudp]

/-! ## A sample: one protected router and its redirect to https -/

/-- No name below is long enough to be hashed. -/
@[reducible] def sampleHasher : DefaultHasher := ⟨fun _ => 0⟩

/-- The one server url of the sample, as the `url` crate parses it. -/
@[reducible] def sampleUrlCrate : UrlCrate where
  parse s := if s = "http://10.0.0.7:8080"
    then some ⟨"http://10.0.0.7:8080/", "http", some "10.0.0.7", some 8080⟩ else none
  formUrlencodedParse _ := []
  formUrlencodedSerialize _ := ""

def sampleExtAuthz : ExtAuthzConfig :=
  ⟨"badger-shim", none, 9001, some "/verify", ["cookie", "authorization"], []⟩

def sampleConfig : Config where
  authHeader := none
  pollInterval := 30000000000
  maxBackoff := 60000000000
  maxResponseBodyBytes := 1048576
  ns := "gateway"
  parentGateway := "eg"
  parentGatewayNamespace := some "gateway"
  listenerSetName := "pangolin"
  httpPort := 80
  httpsPort := 443
  enableHttpsListeners := true
  enableTcpRoutes := true
  enableUdpRoutes := true
  backendKind := .service
  extAuthz := some sampleExtAuthz
  allowUnauthenticatedRoutes := false
  tlsSecretTemplate := some "\x7bhostname-dashed\x7d-tls"
  tlsSecretNamespace := none
  managedLabelKey := "app.kubernetes.io/managed-by"
  managedLabelValue := "pangolin-gateway-controller"
  instanceLabelKey := "pangolin.envisia.de/instance"
  instanceLabelValue := "default"
  managedAnnotationKey := "pangolin.envisia.de/source"
  managedAnnotationValue := "pangolin-gateway-controller"
  httprouteAnnotations := ∅
  listenersetAnnotations := ∅
  readOnly := false

def sampleRouters : List (String × Router) :=
  [("app", ⟨"Host(`a.b`)", "app", ["badger"], ["https"], none, none⟩),
    ("app-redirect", ⟨"Host(`a.b`)", "app", ["redirect"], ["http"], none, none⟩)]

def sampleServices : List (String × PangService) :=
  [("app", ⟨some ⟨[⟨"http://10.0.0.7:8080"⟩], none⟩⟩)]

def sampleMiddlewares : List (String × Middleware) :=
  [("badger", .object [("plugin", .object [("badger", .object [])])]),
    ("redirect", .object [("redirectScheme", .object [("scheme", .string "https")])])]

def sampleDynConfig (routers : List (String × Router)) : TraefikDynamicConfig where
  http := {
    routers := Std.ExtTreeMap.ofList routers
    services := Std.ExtTreeMap.ofList sampleServices
    middlewares := Std.ExtTreeMap.ofList sampleMiddlewares
    serversTransports := ∅ }
  tcp := none
  udp := none

def emptyDynConfig : TraefikDynamicConfig := ⟨⟨∅, ∅, ∅, ∅⟩, none, none⟩

end PangolinGateway
