import PangolinGateway.Transform.BuildWrites

/-! # What a route depends on

A route is built from its router, from what the router's references resolve to and from nothing
else of the dynamic config. When no other router has its sanitised name, that is what the desired
set holds. -/
namespace PangolinGateway
set_option autoImplicit false

/-- Both configs hold `router` under `name`, and resolve what it refers to in the same way. -/
structure SameView (first second : TraefikDynamicConfig) (name : String) (router : Router) : Prop where
  inFirst : first.http.routers[name]? = some router
  inSecond : second.http.routers[name]? = some router
  middlewares : ∀ mw ∈ router.middlewares, first.http.middlewares[mw]? = second.http.middlewares[mw]?
  service : first.http.services[router.service]? = second.http.services[router.service]?
  transport : ∀ svc, first.http.services[router.service]? = some svc →
    ∀ lb, svc.loadBalancer = some lb → ∀ transport, lb.serversTransport = some transport →
      first.http.serversTransports[transport]? = second.http.serversTransports[transport]?

theorem SameView.requiresBadgerAuth {first second : TraefikDynamicConfig} {name : String}
    {router : Router} (h : SameView first second name router) :
    requiresBadgerAuth router.middlewares first.http.middlewares =
      requiresBadgerAuth router.middlewares second.http.middlewares := by
  unfold PangolinGateway.requiresBadgerAuth
  rw [Bool.eq_iff_iff, List.any_eq_true, List.any_eq_true]
  apply exists_congr
  intro mw
  apply and_congr_right
  intro hmw
  rw [h.middlewares mw hmw]

theorem SameView.buildFilters {first second : TraefikDynamicConfig} {name : String}
    {router : Router} (h : SameView first second name router) :
    buildFilters router.middlewares first.http.middlewares =
      buildFilters router.middlewares second.http.middlewares := by
  unfold PangolinGateway.buildFilters
  congr 1
  apply List.flatMap_congr
  intro mw hmw
  rw [h.middlewares mw hmw]

theorem SameView.skipsVerify {first second : TraefikDynamicConfig} {name : String}
    {router : Router} (h : SameView first second name router) {svc : PangService}
    (hsvc : first.http.services[router.service]? = some svc) :
    serviceSkipsVerify svc first.http.serversTransports =
      serviceSkipsVerify svc second.http.serversTransports := by
  unfold serviceSkipsVerify transportSkipsVerify
  cases hlb : svc.loadBalancer with
  | none => rfl
  | some lb =>
    cases htransport : lb.serversTransport with
    | none => simp only [htransport, Option.bind_none]
    | some transport =>
      simp only [htransport, Option.bind_some, h.transport svc hsvc lb hlb transport htransport]

variable [DefaultHasher] [UrlCrate]

/-- No other http router has the sanitised route name. -/
def AloneInName (dynConfig : TraefikDynamicConfig) (name : String) : Prop :=
  ∀ other ∈ dynConfig.http.routers.keys, prefixedLabel "hr" other = prefixedLabel "hr" name → other = name

/-- A name in the index stands for what its own service is emitted as. -/
theorem backendIndex_eq (cfg : Config) (dynConfig : TraefikDynamicConfig) (service : String) :
    (backendIndex cfg dynConfig)[service]? =
      (serviceBackend cfg dynConfig .http service).map Prod.fst := by
  apply Option.ext
  intro backend
  rw [Option.map_eq_some_iff]
  constructor
  · intro h
    obtain ⟨d, hd⟩ := (blockIndex_iff (b := .http)).mp h
    exact ⟨_, hd, rfl⟩
  · rintro ⟨⟨backend', d⟩, hd, rfl⟩
    exact (blockIndex_iff (b := .http)).mpr ⟨d, hd⟩

theorem SameView.backend {first second : TraefikDynamicConfig} {name : String} {router : Router}
    (h : SameView first second name router) (cfg : Config) :
    (backendIndex cfg first)[router.service]? = (backendIndex cfg second)[router.service]? := by
  rw [backendIndex_eq, backendIndex_eq, serviceBackend, serviceBackend, ← h.service]
  cases hsvc : first.http.services[router.service]? with
  | none => rfl
  | some svc =>
    simp only [Option.bind_some, emission, httpRequest, h.skipsVerify hsvc]

theorem SameView.buildRoute {first second : TraefikDynamicConfig} {name : String} {router : Router}
    (h : SameView first second name router) (cfg : Config) :
    buildRoute cfg first (backendIndex cfg first) name router =
      buildRoute cfg second (backendIndex cfg second) name router := by
  unfold PangolinGateway.buildRoute
  rw [h.requiresBadgerAuth, h.buildFilters, h.backend]

/-- A router that is alone with its route name decides what is under it. -/
theorem httpRoutes_alone {cfg : Config} {dynConfig : TraefikDynamicConfig} {name : String}
    {router : Router} (hrouter : dynConfig.http.routers[name]? = some router)
    (halone : AloneInName dynConfig name) :
    (buildDesired cfg dynConfig).httpRoutes[prefixedLabel "hr" name]? =
      buildRoute cfg dynConfig (backendIndex cfg dynConfig) name router := by
  have horigin : ∀ route,
      (buildDesired cfg dynConfig).httpRoutes[prefixedLabel "hr" name]? = some route →
        buildRoute cfg dynConfig (backendIndex cfg dynConfig) name router = some route := by
    intro route hroute
    obtain ⟨other, router', hother, hbuild, hname⟩ := httpRoutes_origin hroute
    obtain rfl := halone other (Std.ExtTreeMap.mem_keys.mpr (Map.mem_of_getElem? hother)) hname.symm
    obtain rfl : router' = router := Option.some.inj (hother.symm.trans hrouter)
    exact hbuild
  cases hbuild : buildRoute cfg dynConfig (backendIndex cfg dynConfig) name router with
  | none =>
    rw [Option.eq_none_iff_forall_ne_some]
    intro route hroute
    simpa [hbuild] using horigin route hroute
  | some route =>
    obtain ⟨route', hroute'⟩ := @httpRoutes_of_translated _ _ cfg _ _ _ ⟨hrouter, by simp [hbuild]⟩
    rw [hroute', ← horigin route' hroute', hbuild]

/-- Two dynamic configs that show a router the same view yield the same route, or none, under its
name, however they differ elsewhere. -/
theorem route_isolated (cfg : Config) (first second : TraefikDynamicConfig) (name : String)
    (router : Router) (hview : SameView first second name router)
    (hfirst : AloneInName first name) (hsecond : AloneInName second name) :
    (buildDesired cfg first).httpRoutes[prefixedLabel "hr" name]? =
      (buildDesired cfg second).httpRoutes[prefixedLabel "hr" name]? := by
  rw [httpRoutes_alone hview.inFirst hfirst, httpRoutes_alone hview.inSecond hsecond,
    hview.buildRoute]

omit [DefaultHasher] [UrlCrate] in
/-- The protected router of the sample with and without the redirect beside it. -/
theorem route_isolated_sample :
    (@buildDesired sampleHasher sampleUrlCrate sampleConfig
        (sampleDynConfig sampleRouters)).httpRoutes["hr-app"]? =
      (@buildDesired sampleHasher sampleUrlCrate sampleConfig
        (sampleDynConfig (sampleRouters.take 1))).httpRoutes["hr-app"]? := by
  let _ := sampleHasher
  let _ := sampleUrlCrate
  have hview : SameView (sampleDynConfig sampleRouters) (sampleDynConfig (sampleRouters.take 1)) "app"
      ⟨"Host(`a.b`)", "app", ["badger"], ["https"], none, none⟩ :=
    ⟨rfl, rfl, fun _ _ => rfl, rfl, fun _ _ _ _ _ _ => rfl⟩
  have hfirst : AloneInName (sampleDynConfig sampleRouters) "app" := by
    unfold AloneInName
    decide
  have hsecond : AloneInName (sampleDynConfig (sampleRouters.take 1)) "app" := by
    unfold AloneInName
    decide
  exact route_isolated sampleConfig _ _ "app" _ hview hfirst hsecond

end PangolinGateway
