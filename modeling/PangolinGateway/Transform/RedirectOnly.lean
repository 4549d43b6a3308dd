import PangolinGateway.Transform.Admission

/-! # Redirect routers

A rule that redirects has no backend to proxy to. Whether a router redirects is decided by the
filters that its middlewares translate to, and a `redirectScheme` is lost on the way when another
member of the middleware comes before it or when its scheme is neither http nor https. -/
namespace PangolinGateway
set_option autoImplicit false

/-- The middleware has a `redirectScheme`, wherever it stands and whatever it says. -/
def carriesRedirect (mw : Middleware) : Bool :=
  mw.asObject.any fun obj => obj.contains "redirectScheme"

/-- Every rule redirects and none proxies. -/
structure HTTPRoute.RedirectsOnly (route : HTTPRoute) : Prop where
  rules : route.spec.rules.getD [] ≠ []
  redirects : ∀ rule ∈ route.spec.rules.getD [], ∃ f ∈ rule.filters.getD [], f.type = .requestRedirect
  noBackend : ∀ rule ∈ route.spec.rules.getD [], rule.backendRefs.getD [] = []

variable [DefaultHasher]

theorem BuildsRoute.redirectsOnly_iff {cfg : Config} {dynConfig : TraefikDynamicConfig}
    {backends : BackendIndex} {routerName : String} {router : Router} {route : HTTPRoute}
    (h : BuildsRoute cfg dynConfig backends routerName router route) :
    route.RedirectsOnly ↔ (resolvedMiddlewares dynConfig router).any asksRedirect = true := by
  obtain ⟨backend, _, hrules⟩ := h.rules
  rw [buildFilters_resolved] at hrules
  rw [← exists_merged_redirect]
  constructor
  · intro hredirects
    obtain ⟨f, hf, htype⟩ := hredirects.redirects _ (by rw [hrules]; exact List.mem_singleton_self _)
    rw [routeRule_filters] at hf
    exact ⟨f, hf, htype⟩
  · rintro ⟨f, hf, htype⟩
    refine ⟨by simp [hrules], ?_, ?_⟩
    · intro rule hrule
      rw [hrules] at hrule
      rw [List.mem_singleton.mp hrule, routeRule_filters]
      exact ⟨f, hf, htype⟩
    · intro rule hrule
      rw [hrules] at hrule
      rw [List.mem_singleton.mp hrule]
      exact routeRule_noBackend _ _ backend hf htype

variable [UrlCrate]

theorem redirectsOnly_of_router {cfg : Config} {dynConfig : TraefikDynamicConfig} {name : String}
    {route : HTTPRoute} {entry : String × Router}
    (hroute : (buildDesired cfg dynConfig).httpRoutes[name]? = some route)
    (hrouter : RouterOf cfg dynConfig name entry) :
    route.RedirectsOnly ↔ (resolvedMiddlewares dynConfig entry.2).any asksRedirect = true :=
  (hrouter.builds hroute).redirectsOnly_iff

/-- The route of a router with a `redirectScheme` redirects and does not proxy exactly when one of
its middlewares has `redirectScheme` as its first member, with the scheme http or https. -/
theorem redirect_router_redirects (cfg : Config) (dynConfig : TraefikDynamicConfig) (name : String)
    (route : HTTPRoute) (entry : String × Router)
    (hroute : (buildDesired cfg dynConfig).httpRoutes[name]? = some route)
    (hrouter : RouterOf cfg dynConfig name entry) :
    (∃ mw ∈ resolvedMiddlewares dynConfig entry.2, carriesRedirect mw = true) →
      (route.RedirectsOnly ↔ (resolvedMiddlewares dynConfig entry.2).any asksRedirect = true) :=
  fun _ => redirectsOnly_of_router hroute hrouter

def redirectRouter : Router := ⟨"Host(`a.b`)", "app", ["redirect"], ["http"], none, none⟩

def redirectTo (scheme : String) : Middleware :=
  .object [("redirectScheme", .object [("scheme", .string scheme)])]

def redirectConfig (scheme : String) : TraefikDynamicConfig where
  http := {
    routers := Std.ExtTreeMap.ofList [("app", redirectRouter)]
    services := Std.ExtTreeMap.ofList sampleServices
    middlewares := Std.ExtTreeMap.ofList [("redirect", redirectTo scheme)]
    serversTransports := ∅ }
  tcp := none
  udp := none

omit [DefaultHasher] [UrlCrate] in
theorem redirect_router_redirects_https : ∃ route : HTTPRoute,
    (@buildDesired sampleHasher sampleUrlCrate sampleConfig
      (redirectConfig "https")).httpRoutes["hr-app"]? = some route ∧ route.RedirectsOnly := by
  let _ := sampleHasher
  let _ := sampleUrlCrate
  have hrouter : RouterOf sampleConfig (redirectConfig "https") "hr-app" ("app", redirectRouter) := by
    rfl
  obtain ⟨route, hbuild⟩ := Option.isSome_iff_exists.mp hrouter.translated.2
  have hroute := httpRoutes_routerOf.mpr ⟨_, hrouter, hbuild⟩
  refine ⟨route, hroute, ?_⟩
  rw [redirect_router_redirects sampleConfig (redirectConfig "https") "hr-app" route _ hroute hrouter
    ⟨_, List.mem_singleton_self _, by decide⟩]
  decide

omit [DefaultHasher] [UrlCrate] in
/-- An upper-case scheme is dropped, and the router proxies. -/
theorem redirect_router_proxies :
    ¬ ∀ (cfg : Config) (dynConfig : TraefikDynamicConfig) (name : String) (route : HTTPRoute)
      (entry : String × Router),
      (@buildDesired sampleHasher sampleUrlCrate cfg dynConfig).httpRoutes[name]? = some route →
      @RouterOf sampleHasher sampleUrlCrate cfg dynConfig name entry →
      (∃ mw ∈ resolvedMiddlewares dynConfig entry.2, carriesRedirect mw = true) →
        route.RedirectsOnly := by
  let _ := sampleHasher
  let _ := sampleUrlCrate
  intro h
  have hrouter : RouterOf sampleConfig (redirectConfig "HTTPS") "hr-app" ("app", redirectRouter) := by
    rfl
  obtain ⟨route, hbuild⟩ := Option.isSome_iff_exists.mp hrouter.translated.2
  have hroute := httpRoutes_routerOf.mpr ⟨_, hrouter, hbuild⟩
  have hredirects := h sampleConfig (redirectConfig "HTTPS") "hr-app" route _ hroute hrouter
    ⟨_, List.mem_singleton_self _, by decide⟩
  rw [redirectsOnly_of_router hroute hrouter] at hredirects
  revert hredirects
  decide

end PangolinGateway
