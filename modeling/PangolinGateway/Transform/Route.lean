import PangolinGateway.Transform.Backend
import PangolinGateway.Transform.ExtAuthz
import PangolinGateway.Transform.Middleware
import PangolinGateway.Transform.Rule

/-! # One HTTPRoute per pangolin router -/
namespace PangolinGateway
set_option autoImplicit false

structure RouteIndex where
  hostnames : StringSet
  /-- The hosts on which at least one router requested TLS. -/
  httpsHosts : StringSet

def RouteIndex.empty : RouteIndex := ⟨∅, ∅⟩

def Router.requestsTls (router : Router) : Bool :=
  router.tls.isSome || router.entryPoints.any (· == "https")

def PathMatchKind.matchType : PathMatchKind → PathMatchType
  | .exact => .exact
  | .pathPrefix => .pathPrefix
  | .regex => .regularExpression

/-- The auth gate: a protected router needs an ext-authz service or the explicit override. -/
def passesAuthGate (cfg : Config) (needsAuth : Bool) : Bool :=
  !(needsAuth && cfg.extAuthz.isNone && !cfg.allowUnauthenticatedRoutes)

def routeRule (parsed : ParsedRule) (filters : List HttpRouteFilter) (backend : ResolvedBackend) :
    HttpRouteRule :=
  -- Gateway API forbids a RequestRedirect next to backendRefs
  let isTerminating := filters.any (·.type == .requestRedirect)
  { routeMatches := parsed.path.map fun p => [⟨some ⟨some p.kind.matchType, some p.value⟩⟩]
    filters := if filters.isEmpty then none else some filters
    backendRefs := thenSome (!isTerminating)
      [⟨some backend.group, some backend.kind, backend.name, backend.ns, some backend.port, some 1⟩] }

variable [DefaultHasher]

/-- The route of a router that is translated: a usable rule, past the auth gate, with a resolved
service. -/
def buildRoute (cfg : Config) (dynConfig : TraefikDynamicConfig) (backends : BackendIndex)
    (routerName : String) (router : Router) : Option HTTPRoute := do
  let parsed := parse router.rule
  guard parsed.isUsable
  guard (passesAuthGate cfg (requiresBadgerAuth router.middlewares dynConfig.http.middlewares))
  let backend ← backends[router.service]?
  let filters := buildFilters router.middlewares dynConfig.http.middlewares
  let routeName := prefixedLabel "hr" routerName
  return {
    metadata := managedMetadataWith cfg routeName (ownerLabels cfg routeName) cfg.httprouteAnnotations
    spec := {
      parentRefs := some [⟨some gatewayGroup, some "ListenerSet", cfg.listenerSetName, some cfg.ns, none⟩]
      hostnames := some parsed.hosts
      rules := some [routeRule parsed filters backend] } }

def indexHosts (cfg : Config) (router : Router) (index : RouteIndex) : RouteIndex :=
  (parse router.rule).hosts.foldl (fun index host =>
    { hostnames := index.hostnames.insert host
      httpsHosts := if cfg.enableHttpsListeners && router.requestsTls
        then index.httpsHosts.insert host else index.httpsHosts }) index

def buildPolicy (cfg : Config) (dynConfig : TraefikDynamicConfig) (routerName : String)
    (router : Router) : Option SecurityPolicy :=
  if requiresBadgerAuth router.middlewares dynConfig.http.middlewares then
    cfg.extAuthz.map fun ea => buildSecurityPolicy cfg ea (prefixedLabel "hr" routerName)
  else none

def insertPolicy (policies : Map SecurityPolicy) (sp : SecurityPolicy) : Map SecurityPolicy :=
  match sp.metadata.name with
  | some spName => policies.insert spName sp
  | none => policies

def routeEntry (cfg : Config) (dynConfig : TraefikDynamicConfig) (backends : BackendIndex)
    (entry : String × Router) : Option (String × HTTPRoute) :=
  (buildRoute cfg dynConfig backends entry.1 entry.2).map fun route =>
    (prefixedLabel "hr" entry.1, route)

/-- The entry of `security_policies` that a router writes: only along with a route. -/
def policyEntry (cfg : Config) (dynConfig : TraefikDynamicConfig) (backends : BackendIndex)
    (entry : String × Router) : Option (String × SecurityPolicy) := do
  let _ ← buildRoute cfg dynConfig backends entry.1 entry.2
  let sp ← buildPolicy cfg dynConfig entry.1 entry.2
  let spName ← sp.metadata.name
  return (spName, sp)

def emitRoute (cfg : Config) (dynConfig : TraefikDynamicConfig) (backends : BackendIndex)
    (acc : RouteIndex × Desired) (entry : String × Router) : RouteIndex × Desired :=
  match buildRoute cfg dynConfig backends entry.1 entry.2 with
  | none => acc
  | some route =>
    let policies := match buildPolicy cfg dynConfig entry.1 entry.2 with
      | some sp => insertPolicy acc.2.securityPolicies sp
      | none => acc.2.securityPolicies
    (indexHosts cfg entry.2 acc.1,
      { acc.2 with
        securityPolicies := policies
        httpRoutes := acc.2.httpRoutes.insert (prefixedLabel "hr" entry.1) route })

def buildRoutes (cfg : Config) (dynConfig : TraefikDynamicConfig) (backends : BackendIndex)
    (desired : Desired) : RouteIndex × Desired :=
  dynConfig.http.routers.toList.foldl (emitRoute cfg dynConfig backends) (.empty, desired)

/-- What a router passed to be translated, and what its route says. -/
structure BuildsRoute (cfg : Config) (dynConfig : TraefikDynamicConfig) (backends : BackendIndex)
    (routerName : String) (router : Router) (route : HTTPRoute) : Prop where
  usable : (parse router.rule).isUsable = true
  gate : passesAuthGate cfg
    (requiresBadgerAuth router.middlewares dynConfig.http.middlewares) = true
  metadata : route.metadata = managedMetadataWith cfg (prefixedLabel "hr" routerName)
    (ownerLabels cfg (prefixedLabel "hr" routerName)) cfg.httprouteAnnotations
  parentRefs : route.spec.parentRefs =
    some [⟨some gatewayGroup, some "ListenerSet", cfg.listenerSetName, some cfg.ns, none⟩]
  hostnames : route.spec.hostnames = some (parse router.rule).hosts
  rules : ∃ backend, backends[router.service]? = some backend ∧
    route.spec.rules = some [routeRule (parse router.rule)
      (buildFilters router.middlewares dynConfig.http.middlewares) backend]

theorem buildRoute_builds {cfg : Config} {dynConfig : TraefikDynamicConfig}
    {backends : BackendIndex} {routerName : String} {router : Router} {route : HTTPRoute}
    (h : buildRoute cfg dynConfig backends routerName router = some route) :
    BuildsRoute cfg dynConfig backends routerName router route := by
  unfold buildRoute guard at h
  simp only at h
  by_cases husable : (parse router.rule).isUsable = true
  · by_cases hgate : passesAuthGate cfg
        (requiresBadgerAuth router.middlewares dynConfig.http.middlewares) = true
    · rw [if_pos husable, if_pos hgate] at h
      cases hbackend : backends[router.service]? with
      | none => simp [hbackend] at h
      | some backend =>
        rw [hbackend] at h
        obtain rfl := Option.some.inj h
        exact ⟨husable, hgate, rfl, rfl, rfl, backend, hbackend, rfl⟩
    · simp [husable, hgate] at h
  · simp [husable] at h

/-! ## What the loop writes -/

theorem buildRoutes_httpRoutes (cfg : Config) (dynConfig : TraefikDynamicConfig)
    (backends : BackendIndex) (desired : Desired) :
    (buildRoutes cfg dynConfig backends desired).2.httpRoutes =
      InsertLoop.insertAll (routeEntry cfg dynConfig backends) dynConfig.http.routers.toList
        desired.httpRoutes := by
  unfold buildRoutes InsertLoop.insertAll
  refine (List.foldl_hom (fun acc : RouteIndex × Desired => acc.2.httpRoutes) ?_).symm
  intro acc entry
  simp only [emitRoute, routeEntry]
  cases buildRoute cfg dynConfig backends entry.1 entry.2 <;> rfl

theorem buildRoutes_securityPolicies (cfg : Config) (dynConfig : TraefikDynamicConfig)
    (backends : BackendIndex) (desired : Desired) :
    (buildRoutes cfg dynConfig backends desired).2.securityPolicies =
      InsertLoop.insertAll (policyEntry cfg dynConfig backends) dynConfig.http.routers.toList
        desired.securityPolicies := by
  unfold buildRoutes InsertLoop.insertAll
  refine (List.foldl_hom (fun acc : RouteIndex × Desired => acc.2.securityPolicies) ?_).symm
  intro acc entry
  simp only [emitRoute, policyEntry]
  cases buildRoute cfg dynConfig backends entry.1 entry.2 with
  | none => rfl
  | some route =>
    cases buildPolicy cfg dynConfig entry.1 entry.2 with
    | none => rfl
    | some sp =>
      cases hname : sp.metadata.name <;> simp [insertPolicy, hname]

/-! ## The hosts it records -/

omit [DefaultHasher] in
theorem indexHosts_hostnames (cfg : Config) (router : Router) (index : RouteIndex) (host : String) :
    host ∈ (indexHosts cfg router index).hostnames ↔
      host ∈ index.hostnames ∨ host ∈ (parse router.rule).hosts := by
  unfold indexHosts
  rw [InsertLoop.foldl_collects (P := fun index : RouteIndex => host ∈ index.hostnames)
    (Q := (· = host))]
  · simp
  · intro index h
    simp [Std.ExtTreeSet.mem_insert, or_comm]

omit [DefaultHasher] in
theorem indexHosts_httpsHosts (cfg : Config) (router : Router) (index : RouteIndex) (host : String) :
    host ∈ (indexHosts cfg router index).httpsHosts ↔
      host ∈ index.httpsHosts ∨ (cfg.enableHttpsListeners = true ∧ router.requestsTls = true ∧
        host ∈ (parse router.rule).hosts) := by
  unfold indexHosts
  rw [InsertLoop.foldl_collects (P := fun index : RouteIndex => host ∈ index.httpsHosts)
    (Q := fun h => (cfg.enableHttpsListeners && router.requestsTls) = true ∧ h = host)]
  · simp only [Bool.and_eq_true]
    grind
  · intro index h
    by_cases htls : (cfg.enableHttpsListeners && router.requestsTls) = true
    · simp [htls, Std.ExtTreeSet.mem_insert, or_comm]
    · simp [htls]

theorem buildRoutes_hostnames (cfg : Config) (dynConfig : TraefikDynamicConfig)
    (backends : BackendIndex) (desired : Desired) (host : String) :
    host ∈ (buildRoutes cfg dynConfig backends desired).1.hostnames ↔
      ∃ entry ∈ dynConfig.http.routers.toList,
        (routeEntry cfg dynConfig backends entry).isSome = true ∧
          host ∈ (parse entry.2.rule).hosts := by
  unfold buildRoutes
  rw [InsertLoop.foldl_collects (P := fun acc : RouteIndex × Desired => host ∈ acc.1.hostnames)
    (Q := fun entry => (routeEntry cfg dynConfig backends entry).isSome = true ∧
      host ∈ (parse entry.2.rule).hosts)]
  · simp [RouteIndex.empty]
  · intro acc entry
    cases hroute : buildRoute cfg dynConfig backends entry.1 entry.2 with
    | none => simp [emitRoute, routeEntry, hroute]
    | some route => simp [emitRoute, routeEntry, hroute, indexHosts_hostnames]

theorem buildRoutes_httpsHosts (cfg : Config) (dynConfig : TraefikDynamicConfig)
    (backends : BackendIndex) (desired : Desired) (host : String) :
    host ∈ (buildRoutes cfg dynConfig backends desired).1.httpsHosts ↔
      cfg.enableHttpsListeners = true ∧ ∃ entry ∈ dynConfig.http.routers.toList,
        (routeEntry cfg dynConfig backends entry).isSome = true ∧ entry.2.requestsTls = true ∧
          host ∈ (parse entry.2.rule).hosts := by
  unfold buildRoutes
  rw [InsertLoop.foldl_collects (P := fun acc : RouteIndex × Desired => host ∈ acc.1.httpsHosts)
    (Q := fun entry => cfg.enableHttpsListeners = true ∧
      (routeEntry cfg dynConfig backends entry).isSome = true ∧ entry.2.requestsTls = true ∧
        host ∈ (parse entry.2.rule).hosts)]
  · have hnone : host ∉ RouteIndex.empty.httpsHosts := by simp [RouteIndex.empty]
    simp only [hnone, false_or]
    grind
  · intro acc entry
    cases hroute : buildRoute cfg dynConfig backends entry.1 entry.2 with
    | none => simp [emitRoute, routeEntry, hroute]
    | some route => simp [emitRoute, routeEntry, hroute, indexHosts_httpsHosts]

theorem buildRoutes_listenerSets (cfg : Config) (dynConfig : TraefikDynamicConfig)
    (backends : BackendIndex) (desired : Desired) :
    (buildRoutes cfg dynConfig backends desired).2.listenerSets = desired.listenerSets := by
  refine InsertLoop.foldl_keeps (fun acc : RouteIndex × Desired => acc.2.listenerSets) ?_ _ _
  intro acc entry
  unfold emitRoute
  split <;> rfl

end PangolinGateway
