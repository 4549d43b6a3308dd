import PangolinGateway.Transform.BuildDesired

/-! # Badger-protected routers behind the auth gate

Without an ext-authz service a protected router yields nothing unless the override is set. With
one, every protected router that is translated leaves a `SecurityPolicy` for its route name in the
desired set, also when a later router with the same sanitised name replaces the route. -/
namespace PangolinGateway
set_option autoImplicit false

variable [DefaultHasher]

/-- The router is translated by `buildRoute`: usable rule, past the auth gate, resolved service. -/
def Translated [UrlCrate] (cfg : Config) (dynConfig : TraefikDynamicConfig) (routerName : String)
    (router : Router) : Prop :=
  dynConfig.http.routers[routerName]? = some router ∧
    (buildRoute cfg dynConfig (backendIndex cfg dynConfig) routerName router).isSome = true

def NeedsAuth (dynConfig : TraefikDynamicConfig) (router : Router) : Prop :=
  requiresBadgerAuth router.middlewares dynConfig.http.middlewares = true

/-- `prefixed_label("sp", ·)` keeps the route names of the configuration apart. -/
def PolicyNamesDistinct (dynConfig : TraefikDynamicConfig) : Prop :=
  ∀ m ∈ dynConfig.http.routers.keys, ∀ n ∈ dynConfig.http.routers.keys,
    prefixedLabel "sp" (prefixedLabel "hr" m) = prefixedLabel "sp" (prefixedLabel "hr" n) →
      prefixedLabel "hr" m = prefixedLabel "hr" n

/-! ## What one router writes -/

theorem routeEntry_some {cfg : Config} {dynConfig : TraefikDynamicConfig} {backends : BackendIndex}
    {entry : String × Router} {name : String} {route : HTTPRoute}
    (h : routeEntry cfg dynConfig backends entry = some (name, route)) :
    buildRoute cfg dynConfig backends entry.1 entry.2 = some route ∧
      name = prefixedLabel "hr" entry.1 := by
  obtain ⟨route', hroute, heq⟩ := Option.map_eq_some_iff.mp h
  obtain ⟨rfl, rfl⟩ := Prod.mk.inj heq
  exact ⟨hroute, rfl⟩

theorem policyEntry_of_route {cfg : Config} {dynConfig : TraefikDynamicConfig}
    {backends : BackendIndex} {entry : String × Router}
    (h : (buildRoute cfg dynConfig backends entry.1 entry.2).isSome = true) :
    policyEntry cfg dynConfig backends entry = (buildPolicy cfg dynConfig entry.1 entry.2).bind
      fun sp => sp.metadata.name.map fun spName => (spName, sp) := by
  obtain ⟨route, hroute⟩ := Option.isSome_iff_exists.mp h
  unfold policyEntry
  rw [hroute]
  cases buildPolicy cfg dynConfig entry.1 entry.2 with
  | none => rfl
  | some sp => cases hname : sp.metadata.name <;> simp [hname]

/-- A translated router writes the policy of its route exactly when it is protected and an ext-authz
service is configured. -/
theorem policyEntry_eq {cfg : Config} {dynConfig : TraefikDynamicConfig} {backends : BackendIndex}
    {entry : String × Router} {written : String × SecurityPolicy} :
    policyEntry cfg dynConfig backends entry = some written ↔
      (buildRoute cfg dynConfig backends entry.1 entry.2).isSome = true ∧
        NeedsAuth dynConfig entry.2 ∧ ∃ ea, cfg.extAuthz = some ea ∧
          (prefixedLabel "sp" (prefixedLabel "hr" entry.1),
            buildSecurityPolicy cfg ea (prefixedLabel "hr" entry.1)) = written := by
  cases hroute : (buildRoute cfg dynConfig backends entry.1 entry.2).isSome with
  | false =>
    have hnone : buildRoute cfg dynConfig backends entry.1 entry.2 = none := by simpa using hroute
    simp [policyEntry, hnone]
  | true =>
    rw [policyEntry_of_route hroute, buildPolicy, NeedsAuth]
    cases requiresBadgerAuth entry.2.middlewares dynConfig.http.middlewares with
    | false => simp
    | true =>
      cases cfg.extAuthz with
      | none => simp
      | some ea => simp [buildSecurityPolicy_name]

variable [UrlCrate]

/-! ## What the desired set holds -/

theorem httpRoutes_origin {cfg : Config} {dynConfig : TraefikDynamicConfig} {name : String}
    {route : HTTPRoute} (h : (buildDesired cfg dynConfig).httpRoutes[name]? = some route) :
    ∃ routerName router, dynConfig.http.routers[routerName]? = some router ∧
      buildRoute cfg dynConfig (backendIndex cfg dynConfig) routerName router = some route ∧
      name = prefixedLabel "hr" routerName := by
  rw [buildDesired_httpRoutes] at h
  rcases InsertLoop.insertAll_entry _ h with h | ⟨entry, hentry, hwrite⟩
  · simp at h
  · obtain ⟨hroute, hname⟩ := routeEntry_some hwrite
    exact ⟨entry.1, entry.2, Std.ExtTreeMap.mem_toList_iff_getElem?_eq_some.mp hentry, hroute, hname⟩

/-- A translated router leaves a route under its name, its own or that of a later router. -/
theorem httpRoutes_of_translated {cfg : Config} {dynConfig : TraefikDynamicConfig}
    {routerName : String} {router : Router} (h : Translated cfg dynConfig routerName router) :
    ∃ route, (buildDesired cfg dynConfig).httpRoutes[prefixedLabel "hr" routerName]? = some route := by
  obtain ⟨hrouter, hroute⟩ := h
  obtain ⟨route, hroute⟩ := Option.isSome_iff_exists.mp hroute
  have hwrite : routeEntry cfg dynConfig (backendIndex cfg dynConfig) (routerName, router) =
      some (prefixedLabel "hr" routerName, route) := by simp [routeEntry, hroute]
  obtain ⟨_, _, route', _, hlookup⟩ := InsertLoop.insertAll_written _ ∅
    (Std.ExtTreeMap.mem_toList_iff_getElem?_eq_some.mpr hrouter) hwrite
  exact ⟨route', by rw [buildDesired_httpRoutes, hlookup]⟩

/-- The router that a route of the desired set was built from: the last one that is translated
under this route name. -/
def RouterOf (cfg : Config) (dynConfig : TraefikDynamicConfig) (name : String)
    (entry : String × Router) : Prop :=
  InsertLoop.lastWriter (routeEntry cfg dynConfig (backendIndex cfg dynConfig)) name
    dynConfig.http.routers.toList = some entry

theorem httpRoutes_routerOf {cfg : Config} {dynConfig : TraefikDynamicConfig} {name : String}
    {route : HTTPRoute} : (buildDesired cfg dynConfig).httpRoutes[name]? = some route ↔
      ∃ entry, RouterOf cfg dynConfig name entry ∧
        buildRoute cfg dynConfig (backendIndex cfg dynConfig) entry.1 entry.2 = some route := by
  rw [buildDesired_httpRoutes, InsertLoop.getElem?_insertAll]
  constructor
  · intro h
    cases hlast : InsertLoop.lastWriter (routeEntry cfg dynConfig (backendIndex cfg dynConfig)) name
      dynConfig.http.routers.toList with
    | none => simp [hlast] at h
    | some entry =>
      simp only [hlast, routeEntry, Option.map_map, Option.map_eq_some_iff] at h
      obtain ⟨route', hroute, rfl⟩ := h
      exact ⟨entry, hlast, hroute⟩
  · rintro ⟨entry, hlast, hroute⟩
    rw [show InsertLoop.lastWriter _ name _ = some entry from hlast]
    simp [routeEntry, hroute]

/-- The route stored under the name was built from the router that the name belongs to. -/
theorem RouterOf.builds {cfg : Config} {dynConfig : TraefikDynamicConfig} {name : String}
    {entry : String × Router} {route : HTTPRoute} (h : RouterOf cfg dynConfig name entry)
    (hroute : (buildDesired cfg dynConfig).httpRoutes[name]? = some route) :
    BuildsRoute cfg dynConfig (backendIndex cfg dynConfig) entry.1 entry.2 route := by
  obtain ⟨entry', hrouter, hbuild⟩ := httpRoutes_routerOf.mp hroute
  obtain rfl : entry = entry' := Option.some.inj (h.symm.trans hrouter)
  exact buildRoute_builds hbuild

theorem RouterOf.translated {cfg : Config} {dynConfig : TraefikDynamicConfig} {name : String}
    {entry : String × Router} (h : RouterOf cfg dynConfig name entry) :
    Translated cfg dynConfig entry.1 entry.2 := by
  obtain ⟨hmem, route, hwrite⟩ := InsertLoop.lastWriter_some _ h
  refine ⟨Std.ExtTreeMap.mem_toList_iff_getElem?_eq_some.mp hmem, ?_⟩
  rw [(routeEntry_some hwrite).1]
  rfl

theorem RouterOf.built {cfg : Config} {dynConfig : TraefikDynamicConfig} {name : String}
    {entry : String × Router} (h : RouterOf cfg dynConfig name entry) :
    ∃ route, (buildDesired cfg dynConfig).httpRoutes[name]? = some route := by
  obtain ⟨route, hroute⟩ := Option.isSome_iff_exists.mp h.translated.2
  exact ⟨route, httpRoutes_routerOf.mpr ⟨entry, h, hroute⟩⟩

theorem securityPolicies_origin {cfg : Config} {dynConfig : TraefikDynamicConfig} {name : String}
    {sp : SecurityPolicy} (h : (buildDesired cfg dynConfig).securityPolicies[name]? = some sp) :
    ∃ routerName router ea, Translated cfg dynConfig routerName router ∧
      NeedsAuth dynConfig router ∧ cfg.extAuthz = some ea ∧
      sp = buildSecurityPolicy cfg ea (prefixedLabel "hr" routerName) ∧
      name = prefixedLabel "sp" (prefixedLabel "hr" routerName) := by
  rw [buildDesired_securityPolicies] at h
  rcases InsertLoop.insertAll_entry _ h with h | ⟨entry, hentry, hwrite⟩
  · simp at h
  · obtain ⟨hroute, hauth, ea, hea, heq⟩ := policyEntry_eq.mp hwrite
    obtain ⟨hname, hsp⟩ := Prod.mk.inj heq
    exact ⟨entry.1, entry.2, ea, ⟨Std.ExtTreeMap.mem_toList_iff_getElem?_eq_some.mp hentry, hroute⟩,
      hauth, hea, hsp.symm, hname.symm⟩

theorem securityPolicies_of_protected {cfg : Config} {dynConfig : TraefikDynamicConfig}
    {ea : ExtAuthzConfig} {routerName : String} {router : Router} (hea : cfg.extAuthz = some ea)
    (h : Translated cfg dynConfig routerName router) (hauth : NeedsAuth dynConfig router) :
    ∃ sp, (buildDesired cfg dynConfig).securityPolicies[
      prefixedLabel "sp" (prefixedLabel "hr" routerName)]? = some sp := by
  have hwrite : policyEntry cfg dynConfig (backendIndex cfg dynConfig) (routerName, router) =
      some (prefixedLabel "sp" (prefixedLabel "hr" routerName),
        buildSecurityPolicy cfg ea (prefixedLabel "hr" routerName)) :=
    policyEntry_eq.mpr ⟨h.2, hauth, ea, hea, rfl⟩
  obtain ⟨_, _, sp, _, hlookup⟩ := InsertLoop.insertAll_written _ ∅
    (Std.ExtTreeMap.mem_toList_iff_getElem?_eq_some.mpr h.1) hwrite
  exact ⟨sp, by rw [buildDesired_securityPolicies, hlookup]⟩

/-! ## The gate -/

/-- (a) Without ext-authz and without the override no protected router has a route. (b) With
ext-authz every protected router whose route is emitted has a fail-closed policy, and every policy
targets an emitted route. -/
theorem auth_gate (cfg : Config) (dynConfig : TraefikDynamicConfig) :
    (cfg.extAuthz = none → cfg.allowUnauthenticatedRoutes = false →
      ∀ (name : String) (route : HTTPRoute),
        (buildDesired cfg dynConfig).httpRoutes[name]? = some route →
        ∃ routerName router, dynConfig.http.routers[routerName]? = some router ∧
          buildRoute cfg dynConfig (backendIndex cfg dynConfig) routerName router = some route ∧
          name = prefixedLabel "hr" routerName ∧
          requiresBadgerAuth router.middlewares dynConfig.http.middlewares = false) ∧
    (cfg.extAuthz.isSome = true →
      (PolicyNamesDistinct dynConfig → ∀ routerName router, Translated cfg dynConfig routerName router →
        requiresBadgerAuth router.middlewares dynConfig.http.middlewares = true →
        ∃ (spName : String) (sp : SecurityPolicy),
          (buildDesired cfg dynConfig).securityPolicies[spName]? = some sp ∧
          (sp.spec.extAuth.bind ExtAuth.failOpen) = some false ∧
          sp.spec.targetRefs = [⟨gatewayGroup, "HTTPRoute", prefixedLabel "hr" routerName⟩]) ∧
      (∀ (spName : String) (sp : SecurityPolicy),
        (buildDesired cfg dynConfig).securityPolicies[spName]? = some sp →
        ∃ routeName, sp.spec.targetRefs = [⟨gatewayGroup, "HTTPRoute", routeName⟩] ∧
          routeName ∈ (buildDesired cfg dynConfig).httpRoutes)) := by
  constructor
  · intro hext hallow name route hlookup
    obtain ⟨routerName, router, hrouter, hroute, hname⟩ := httpRoutes_origin hlookup
    have hgate := (buildRoute_builds hroute).gate
    refine ⟨routerName, router, hrouter, hroute, hname, ?_⟩
    simpa [passesAuthGate, hext, hallow] using hgate
  · intro hext
    obtain ⟨ea, hea⟩ := Option.isSome_iff_exists.mp hext
    constructor
    · intro hdistinct routerName router htrans hauth
      obtain ⟨sp, hsp⟩ := securityPolicies_of_protected hea htrans hauth
      obtain ⟨other, otherRouter, ea', hother, _, _, rfl, hname⟩ := securityPolicies_origin hsp
      -- the last writer of the policy name may be another router, but not of another route name
      have hsame := hdistinct routerName (Std.ExtTreeMap.mem_keys.mpr (Map.mem_of_getElem? htrans.1))
        other (Std.ExtTreeMap.mem_keys.mpr (Map.mem_of_getElem? hother.1)) hname
      exact ⟨_, _, hsp, rfl, by rw [hsame, buildSecurityPolicy_targetRefs]⟩
    · intro spName sp hsp
      obtain ⟨routerName, router, ea', htrans, _, _, rfl, _⟩ := securityPolicies_origin hsp
      obtain ⟨route, hroute⟩ := httpRoutes_of_translated htrans
      exact ⟨prefixedLabel "hr" routerName, buildSecurityPolicy_targetRefs _ _ _,
        Map.mem_of_getElem? hroute⟩

omit [DefaultHasher] [UrlCrate] in
theorem sample_translated : @Translated sampleHasher sampleUrlCrate sampleConfig
    (sampleDynConfig sampleRouters) "app"
      ⟨"Host(`a.b`)", "app", ["badger"], ["https"], none, none⟩ := by
  let _ := sampleHasher
  let _ := sampleUrlCrate
  exact ⟨rfl, by decide⟩

omit [DefaultHasher] [UrlCrate] in
theorem auth_gate_sample :
    (∀ (name : String) (route : HTTPRoute),
      (@buildDesired sampleHasher sampleUrlCrate { sampleConfig with extAuthz := none }
        (sampleDynConfig sampleRouters)).httpRoutes[name]? = some route →
      ∃ (routerName : String) (router : Router), (sampleDynConfig sampleRouters).http.routers[routerName]? = some router ∧
        requiresBadgerAuth router.middlewares
          (sampleDynConfig sampleRouters).http.middlewares = false) ∧
    ∃ (spName : String) (sp : SecurityPolicy),
      (@buildDesired sampleHasher sampleUrlCrate sampleConfig
        (sampleDynConfig sampleRouters)).securityPolicies[spName]? = some sp ∧
      sp.spec.targetRefs = [⟨gatewayGroup, "HTTPRoute", "hr-app"⟩] := by
  let _ := sampleHasher
  let _ := sampleUrlCrate
  constructor
  · intro name route hlookup
    obtain ⟨routerName, router, hrouter, _, _, hauth⟩ :=
      (auth_gate { sampleConfig with extAuthz := none } (sampleDynConfig sampleRouters)).1 rfl rfl
        name route hlookup
    exact ⟨routerName, router, hrouter, hauth⟩
  · have hdistinct : PolicyNamesDistinct (sampleDynConfig sampleRouters) := by
      unfold PolicyNamesDistinct
      decide
    obtain ⟨spName, sp, hsp, _, htarget⟩ :=
      ((auth_gate sampleConfig (sampleDynConfig sampleRouters)).2 rfl).1 hdistinct "app" _
        sample_translated (by decide)
    refine ⟨spName, sp, hsp, ?_⟩
    rw [htarget]
    decide

end PangolinGateway
