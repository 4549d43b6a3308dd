import PangolinGateway.Transform.AuthGate
import PangolinGateway.Transform.RuleMeaning

/-! # Which of two routes answers

Gateway API orders routes by their path matches: an exact match goes before a prefix, a longer
prefix before a shorter one. Traefik orders routers by their priorities. A route carries the path
match of its rule and nothing of the priority of its router. -/
namespace PangolinGateway
set_option autoImplicit false

def HttpPathMatch.Precedes (m m' : HttpPathMatch) : Prop :=
  match m.type.getD .pathPrefix, m'.type.getD .pathPrefix with
  | .exact, .pathPrefix => True
  | .pathPrefix, .pathPrefix => (m'.value.getD "/").length < (m.value.getD "/").length
  | _, _ => False

namespace HTTPRoute

def pathMatches (route : HTTPRoute) : List HttpPathMatch :=
  (route.spec.rules.getD []).flatMap fun rule => (rule.routeMatches.getD []).filterMap HttpRouteMatch.path

/-- Some match of the route for the path precedes all those of the other route. -/
def SelectedOver (regex : RegexMatch) (route other : HTTPRoute) (path : String) : Prop :=
  ∃ m ∈ route.pathMatches, m.Matches regex path ∧
    ∀ m' ∈ other.pathMatches, m'.Matches regex path → m.Precedes m'

end HTTPRoute

/-- A `Path` against a `PathPrefix`, or the longer of two prefixes. -/
def PathMatch.MoreSpecific (m m' : PathMatch) : Prop :=
  (m.kind = .exact ∧ m'.kind = .pathPrefix) ∨
    (m.kind = .pathPrefix ∧ m'.kind = .pathPrefix ∧ m'.value.length < m.value.length)

instance (m m' : PathMatch) : Decidable (m.MoreSpecific m') :=
  inferInstanceAs (Decidable (_ ∨ _))

def PathMatch.httpPathMatch (m : PathMatch) : HttpPathMatch := ⟨some m.kind.matchType, some m.value⟩

theorem PathMatch.precedes_iff {m m' : PathMatch} :
    m.httpPathMatch.Precedes m'.httpPathMatch ↔ m.MoreSpecific m' := by
  obtain ⟨kind, value⟩ := m
  obtain ⟨kind', value'⟩ := m'
  cases kind <;> cases kind' <;>
    simp [PathMatch.httpPathMatch, PathMatchKind.matchType, HttpPathMatch.Precedes,
      PathMatch.MoreSpecific]

theorem PathMatch.httpPathMatch_matches {regex : RegexMatch} {m : PathMatch} {path : String} :
    m.httpPathMatch.Matches regex path ↔ m.Matches regex path := by
  obtain ⟨kind, value⟩ := m
  cases kind <;> exact Iff.rfl

theorem HTTPRoute.selectedOver_iff {regex : RegexMatch} {route other : HTTPRoute} {m m' : PathMatch}
    {path : String} (hroute : route.pathMatches = [m.httpPathMatch])
    (hother : other.pathMatches = [m'.httpPathMatch]) (hm : m.Matches regex path)
    (hm' : m'.Matches regex path) : route.SelectedOver regex other path ↔ m.MoreSpecific m' := by
  unfold HTTPRoute.SelectedOver
  simp [hroute, hother, PathMatch.httpPathMatch_matches, hm, hm', PathMatch.precedes_iff]

variable [DefaultHasher]

theorem BuildsRoute.pathMatches {cfg : Config} {dynConfig : TraefikDynamicConfig}
    {backends : BackendIndex} {routerName : String} {router : Router} {route : HTTPRoute}
    (h : BuildsRoute cfg dynConfig backends routerName router route) {m : PathMatch}
    (hpath : (parse router.rule).path = some m) : route.pathMatches = [m.httpPathMatch] := by
  obtain ⟨backend, _, hrules⟩ := h.rules
  simp [HTTPRoute.pathMatches, hrules, routeRule, hpath, PathMatch.httpPathMatch]

variable [UrlCrate]

/-- The router is translated to `route` for the host, and its `Path` or `PathPrefix` matches the
path. -/
structure Contends (cfg : Config) (dynConfig : TraefikDynamicConfig) (regex : RegexMatch)
    (host path : String) (entry : String × Router) (route : HTTPRoute) (m : PathMatch) : Prop where
  router : dynConfig.http.routers[entry.1]? = some entry.2
  built : buildRoute cfg dynConfig (backendIndex cfg dynConfig) entry.1 entry.2 = some route
  host : host ∈ (parse entry.2.rule).hosts
  pathMatch : (parse entry.2.rule).path = some m
  kind : m.kind ≠ .regex
  fits : m.Matches regex path

/-- Between two routers with different priorities the route of the higher one answers. -/
def PriorityDecides (cfg : Config) (dynConfig : TraefikDynamicConfig) : Prop :=
  ∀ regex host path entry route m entry' route' m' p p',
    Contends cfg dynConfig regex host path entry route m →
    Contends cfg dynConfig regex host path entry' route' m' →
    entry.2.priority = some p → entry'.2.priority = some p' → p' < p →
      route.SelectedOver regex route' path

theorem Contends.selectedOver_iff {cfg : Config} {dynConfig : TraefikDynamicConfig}
    {regex : RegexMatch} {host path : String} {entry entry' : String × Router}
    {route route' : HTTPRoute} {m m' : PathMatch}
    (h : Contends cfg dynConfig regex host path entry route m)
    (h' : Contends cfg dynConfig regex host path entry' route' m') :
    route.SelectedOver regex route' path ↔ m.MoreSpecific m' :=
  HTTPRoute.selectedOver_iff ((buildRoute_builds h.built).pathMatches h.pathMatch)
    ((buildRoute_builds h'.built).pathMatches h'.pathMatch) h.fits h'.fits

/-- The priorities leave no trace: of two routes for a host and a path one is selected exactly when its
path match is the more specific one, and another priority makes the same route. -/
theorem selected_by_path {cfg : Config} {dynConfig : TraefikDynamicConfig} {regex : RegexMatch}
    {host path : String} {entry entry' : String × Router} {route route' : HTTPRoute}
    {m m' : PathMatch} (h : Contends cfg dynConfig regex host path entry route m)
    (h' : Contends cfg dynConfig regex host path entry' route' m') :
    (route.SelectedOver regex route' path ↔ m.MoreSpecific m') ∧
      ∀ priority, buildRoute cfg dynConfig (backendIndex cfg dynConfig) entry.1
        { entry.2 with priority := priority } = some route :=
  ⟨h.selectedOver_iff h', fun _ => h.built⟩

/-! ## A lower priority with a longer prefix -/

omit [DefaultHasher] [UrlCrate]

def overlappingRouter (rule : String) (priority : ℤ) : Router :=
  ⟨rule, "app", [], ["https"], some priority, none⟩

def overlappingRouters : List (String × Router) :=
  [("api", overlappingRouter "Host(`a.b`) && PathPrefix(`/api`)" 200),
    ("api-v1", overlappingRouter "Host(`a.b`) && PathPrefix(`/api/v1`)" 100)]

theorem overlapping_contends {name rule : String} {priority : ℤ} {m : PathMatch} {path : String}
    (hrouter : (sampleDynConfig overlappingRouters).http.routers[name]? =
      some (overlappingRouter rule priority))
    (hsome : (@buildRoute sampleHasher sampleConfig (sampleDynConfig overlappingRouters)
      (@backendIndex sampleHasher sampleUrlCrate sampleConfig (sampleDynConfig overlappingRouters))
      name (overlappingRouter rule priority)).isSome = true)
    (hhost : "a.b" ∈ (parse rule).hosts) (hpath : (parse rule).path = some m)
    (hkind : m.kind ≠ .regex) (hfits : m.Matches (fun _ _ => True) path) :
    ∃ route, @Contends sampleHasher sampleUrlCrate sampleConfig (sampleDynConfig overlappingRouters)
      (fun _ _ => True) "a.b" path (name, overlappingRouter rule priority) route m := by
  let _ := sampleHasher
  let _ := sampleUrlCrate
  obtain ⟨route, hroute⟩ := Option.isSome_iff_exists.mp hsome
  exact ⟨route, hrouter, hroute, hhost, hpath, hkind, hfits⟩

theorem api_contends : ∃ route, @Contends sampleHasher sampleUrlCrate sampleConfig
    (sampleDynConfig overlappingRouters) (fun _ _ => True) "a.b" "/api/v1"
      ("api", overlappingRouter "Host(`a.b`) && PathPrefix(`/api`)" 200) route
      ⟨.pathPrefix, "/api"⟩ :=
  overlapping_contends rfl (by decide) (by decide) (by decide) (by decide)
    (show "/api".toList <+: "/api/v1".toList by decide)

theorem v1_contends : ∃ route, @Contends sampleHasher sampleUrlCrate sampleConfig
    (sampleDynConfig overlappingRouters) (fun _ _ => True) "a.b" "/api/v1"
      ("api-v1", overlappingRouter "Host(`a.b`) && PathPrefix(`/api/v1`)" 100) route
      ⟨.pathPrefix, "/api/v1"⟩ :=
  overlapping_contends rfl (by decide) (by decide) (by decide) (by decide)
    (show "/api/v1".toList <+: "/api/v1".toList by decide)

/-- The router of priority 200 loses `/api/v1` to the one of priority 100. -/
theorem lower_priority_selected : ¬@PriorityDecides sampleHasher sampleUrlCrate sampleConfig
    (sampleDynConfig overlappingRouters) := by
  let _ := sampleHasher
  let _ := sampleUrlCrate
  obtain ⟨route, hroute⟩ := api_contends
  obtain ⟨route', hroute'⟩ := v1_contends
  intro h
  have hselected := h _ _ _ _ _ _ _ _ _ 200 100 hroute hroute' rfl rfl (by decide)
  rw [hroute.selectedOver_iff hroute'] at hselected
  exact absurd hselected (by decide)

theorem selected_by_path_sample : ∃ route route' : HTTPRoute,
    @buildRoute sampleHasher sampleConfig (sampleDynConfig overlappingRouters)
      (@backendIndex sampleHasher sampleUrlCrate sampleConfig (sampleDynConfig overlappingRouters))
      "api" (overlappingRouter "Host(`a.b`) && PathPrefix(`/api`)" 50) = some route ∧
    ¬route.SelectedOver (fun _ _ => True) route' "/api/v1" ∧
      route'.SelectedOver (fun _ _ => True) route "/api/v1" := by
  obtain ⟨route, hroute⟩ := api_contends
  obtain ⟨route', hroute'⟩ := v1_contends
  have hapi := @selected_by_path sampleHasher sampleUrlCrate _ _ _ _ _ _ _ _ _ _ _ hroute hroute'
  have hv1 := @selected_by_path sampleHasher sampleUrlCrate _ _ _ _ _ _ _ _ _ _ _ hroute' hroute
  refine ⟨route, route', hapi.2 (some 50), ?_, hv1.1.mpr (by decide)⟩
  rw [hapi.1]
  decide

end PangolinGateway
