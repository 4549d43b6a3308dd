import PangolinGateway.Text.PathElements
import PangolinGateway.Transform.BuildDesired
import PangolinGateway.Transform.RuleConjunction

/-! # What a rule asks and what its route serves

A route has one list of hosts and one path match: hosts add up over the `Host` predicates, and the
last path predicate replaces the ones before it. -/
namespace PangolinGateway
set_option autoImplicit false

/-! ## Requests -/

/-- Which paths a regular expression matches is left open. -/
abbrev RegexMatch := String → String → Prop

def Predicate.Holds (regex : RegexMatch) (p : Predicate) (host path : String) : Prop :=
  match p.kind with
  | .host => host ∈ p.args
  | .path => path ∈ p.args
  | .pathPrefix => ∃ pre ∈ p.args, pre.toList <+: path.toList
  | .pathRegexp => ∃ re ∈ p.args, regex re path

/-- How a gateway compares paths: which are under a prefix, which a regular expression matches. -/
structure PathComparison where
  under : String → String → Prop
  regex : RegexMatch

/-- Prefixes are compared as text, as in the predicates. -/
def asText (regex : RegexMatch) : PathComparison where
  under pre path := pre.toList <+: path.toList
  regex := regex

/-- Prefixes are compared element by element, whether or not they end in a slash. -/
def byElements (regex : RegexMatch) : PathComparison where
  under pre path := PathElements.elements '/' (PathElements.trimLast '/' pre.toList) <+:
    PathElements.elements '/' path.toList
  regex := regex

/-- A path match without a type or a value is the prefix `/`. -/
def HttpPathMatch.MatchesBy (cmp : PathComparison) (m : HttpPathMatch) (path : String) : Prop :=
  match m.type.getD .pathPrefix with
  | .exact => path = m.value.getD "/"
  | .pathPrefix => cmp.under (m.value.getD "/") path
  | .regularExpression => cmp.regex (m.value.getD "/") path

def HttpPathMatch.Matches (regex : RegexMatch) (m : HttpPathMatch) (path : String) : Prop :=
  m.MatchesBy (asText regex) path

def HttpRouteRule.MatchesBy (cmp : PathComparison) (rule : HttpRouteRule) (path : String) : Prop :=
  rule.routeMatches.getD [] = [] ∨
    ∃ m ∈ rule.routeMatches.getD [], ∀ p, m.path = some p → p.MatchesBy cmp path

def HttpRouteRule.Matches (regex : RegexMatch) (rule : HttpRouteRule) (path : String) : Prop :=
  rule.MatchesBy (asText regex) path

def HTTPRoute.Serves (regex : RegexMatch) (route : HTTPRoute) (host path : String) : Prop :=
  host ∈ route.spec.hostnames.getD [] ∧
    ∃ rule ∈ route.spec.rules.getD [], rule.Matches regex path

/-- Every request that the route serves satisfies the whole conjunction. -/
def ServesOnly (ps : List Predicate) (route : HTTPRoute) : Prop :=
  ∀ (regex : RegexMatch) (host path : String), route.Serves regex host path →
    ∀ p ∈ ps, p.Holds regex host path

/-! ## One path match for all path predicates -/

def PathMatch.MatchesBy (cmp : PathComparison) (m : PathMatch) (path : String) : Prop :=
  match m.kind with
  | .exact => path = m.value
  | .pathPrefix => cmp.under m.value path
  | .regex => cmp.regex m.value path

def PathMatch.Matches (regex : RegexMatch) (m : PathMatch) (path : String) : Prop :=
  m.MatchesBy (asText regex) path

/-- The paths of the match satisfy the path predicate, whatever the regular expressions mean. -/
def PathMatch.Implies (m : PathMatch) (p : Predicate) : Prop :=
  match m.kind, p.kind with
  | .exact, .path => m.value ∈ p.args
  | .exact, .pathPrefix => ∃ pre ∈ p.args, pre.toList <+: m.value.toList
  | .pathPrefix, .pathPrefix => ∃ pre ∈ p.args, pre.toList <+: m.value.toList
  | .regex, .pathPrefix => "" ∈ p.args
  | .regex, .pathRegexp => m.value ∈ p.args
  | _, _ => False

theorem exists_longer (args : List String) (v : String) :
    ∃ path : String, v.toList <+: path.toList ∧ path ∉ args := by
  obtain ⟨n, hn⟩ : ∃ n, ∀ a ∈ args, a.length ≤ n := by
    induction args with
    | nil => exact ⟨0, by simp⟩
    | cons a args ih =>
      obtain ⟨n, hn⟩ := ih
      refine ⟨max a.length n, fun b hb => ?_⟩
      rcases List.mem_cons.mp hb with rfl | hb
      · exact le_max_left _ _
      · exact (hn b hb).trans (le_max_right _ _)
  refine ⟨v ++ String.ofList (List.replicate (n + 1) '/'), by simp, fun hmem => ?_⟩
  have hlen := hn _ hmem
  rw [String.length_append, String.length_ofList, List.length_replicate] at hlen
  omega

theorem PathMatch.implies_iff {m : PathMatch} {p : Predicate} (hp : p.kind ≠ .host) :
    m.Implies p ↔
      ∀ (regex : RegexMatch) (host path : String), m.Matches regex path → p.Holds regex host path := by
  obtain ⟨kind, args⟩ := p
  obtain ⟨mkind, value⟩ := m
  obtain ⟨longer, hlonger, hfresh⟩ := exists_longer args value
  cases kind with
  | host => exact absurd rfl hp
  | path =>
    cases mkind with
    | exact => simp [PathMatch.Implies, PathMatch.Matches, PathMatch.MatchesBy, Predicate.Holds]
    | pathPrefix =>
      refine iff_of_false id fun h => ?_
      exact hfresh (h (fun _ _ => True) "" longer hlonger)
    | regex =>
      refine iff_of_false id fun h => ?_
      exact hfresh (h (fun _ _ => True) "" longer trivial)
  | pathPrefix =>
    cases mkind with
    | exact => simp [PathMatch.Implies, PathMatch.Matches, PathMatch.MatchesBy, Predicate.Holds]
    | pathPrefix =>
      constructor
      · rintro ⟨pre, hpre, hprefix⟩ regex host path hpath
        exact ⟨pre, hpre, hprefix.trans hpath⟩
      · intro h
        exact h (fun _ _ => True) "" value List.prefix_rfl
    | regex =>
      constructor
      · exact fun hempty regex host path _ => ⟨"", hempty, List.nil_prefix⟩
      · intro h
        obtain ⟨pre, hpre, hprefix⟩ := h (fun _ _ => True) "" "" trivial
        obtain rfl : pre = "" := String.toList_inj.mp (List.prefix_nil.mp hprefix)
        exact hpre
  | pathRegexp =>
    cases mkind with
    | exact =>
      refine iff_of_false id fun h => ?_
      obtain ⟨_, _, hno⟩ := h (fun _ _ => False) "" value rfl
      exact hno
    | pathPrefix =>
      refine iff_of_false id fun h => ?_
      obtain ⟨_, _, hno⟩ := h (fun _ _ => False) "" value List.prefix_rfl
      exact hno
    | regex =>
      constructor
      · exact fun hmem regex host path hpath => ⟨value, hmem, hpath⟩
      · intro h
        obtain ⟨re, hre, rfl⟩ := h (fun re _ => re = value) "" "" rfl
        exact hre

theorem PathMatch.exists_path (m : PathMatch) :
    ∃ (regex : RegexMatch) (path : String), m.Matches regex path := by
  obtain ⟨kind, value⟩ := m
  refine ⟨fun _ _ => True, value, ?_⟩
  cases kind with
  | exact => rfl
  | pathPrefix => exact List.prefix_rfl
  | regex => trivial

/-- A path predicate that leaves no path match has no argument. -/
theorem Predicate.not_holds {p : Predicate} (hp : p.kind ≠ .host) (hnone : p.pathMatch = none)
    (regex : RegexMatch) (host path : String) : ¬p.Holds regex host path := by
  obtain ⟨kind, args⟩ := p
  cases kind <;> simp_all [Predicate.pathMatch, Predicate.Holds]

/-! ## What the route of a router serves -/

/-- One list of hosts for all `Host` predicates, and a last path match that implies every path
predicate. -/
structure FitsOneMatch (ps : List Predicate) : Prop where
  hosts : ∀ p ∈ ps, ∀ q ∈ ps, p.kind = .host → q.kind = .host → p.args ⊆ q.args
  paths : ∀ p ∈ ps, p.kind ≠ .host →
    ∃ m, (ps.filterMap Predicate.pathMatch).getLast? = some m ∧ m.Implies p

theorem mem_hosts {ps : List Predicate} {host : String} :
    host ∈ ps.flatMap Predicate.hosts ↔ ∃ p ∈ ps, p.kind = .host ∧ host ∈ p.args := by
  rw [List.mem_flatMap]
  refine exists_congr fun p => and_congr_right fun _ => ?_
  unfold Predicate.hosts
  by_cases hp : p.kind = .host <;> simp [hp]

theorem routeRule_matches (cmp : PathComparison) (parsed : ParsedRule)
    (filters : List HttpRouteFilter) (backend : ResolvedBackend) (path : String) :
    (routeRule parsed filters backend).MatchesBy cmp path ↔
      ∀ m, parsed.path = some m → m.MatchesBy cmp path := by
  unfold HttpRouteRule.MatchesBy routeRule
  cases parsed.path with
  | none => simp
  | some m =>
    obtain ⟨kind, value⟩ := m
    cases kind <;>
      simp [HttpPathMatch.MatchesBy, PathMatch.MatchesBy, PathMatchKind.matchType]

section
variable [DefaultHasher] {cfg : Config} {dynConfig : TraefikDynamicConfig} {backends : BackendIndex}
  {routerName : String} {router : Router} {route : HTTPRoute} {ps : List Predicate}

theorem BuildsRoute.serves_iff (h : BuildsRoute cfg dynConfig backends routerName router route)
    (hrule : ConjunctionText ps router.rule.toList) (regex : RegexMatch) (host path : String) :
    route.Serves regex host path ↔
      (∃ p ∈ ps, p.kind = .host ∧ host ∈ p.args) ∧
        ∀ m, (ps.filterMap Predicate.pathMatch).getLast? = some m → m.Matches regex path := by
  obtain ⟨backend, _, hrules⟩ := h.rules
  unfold HTTPRoute.Serves
  rw [h.hostnames, hrules, Option.getD_some, Option.getD_some, parse_hosts hrule, mem_hosts]
  simp only [List.mem_singleton, exists_eq_left, HttpRouteRule.Matches, routeRule_matches,
    parse_path hrule, PathMatch.Matches]

/-- Some request is served: a usable rule has a host. -/
theorem BuildsRoute.exists_served (h : BuildsRoute cfg dynConfig backends routerName router route)
    (hrule : ConjunctionText ps router.rule.toList) :
    ∃ p ∈ ps, p.kind = .host ∧ ∃ host, host ∈ p.args := by
  have husable := h.usable
  simp only [ParsedRule.isUsable, Bool.and_eq_true, Bool.not_eq_true', parse_hosts hrule] at husable
  obtain ⟨host, hhost⟩ := List.exists_mem_of_ne_nil _ (List.isEmpty_eq_false_iff.mp husable.2)
  obtain ⟨p, hp, hkind, hhost⟩ := mem_hosts.mp hhost
  exact ⟨p, hp, hkind, host, hhost⟩

theorem servesOnly_of_fits (hfits : FitsOneMatch ps)
    (hbuilds : BuildsRoute cfg dynConfig backends routerName router route)
    (hrule : ConjunctionText ps router.rule.toList) : ServesOnly ps route := by
  intro regex host path hserves q hq
  obtain ⟨⟨p, hp, hkind, hhost⟩, hmatch⟩ := (hbuilds.serves_iff hrule regex host path).mp hserves
  by_cases hqkind : q.kind = .host
  · have hmem := hfits.hosts p hp q hq hkind hqkind hhost
    simpa [Predicate.Holds, hqkind] using hmem
  · obtain ⟨m, hlast, himplies⟩ := hfits.paths q hq hqkind
    exact (PathMatch.implies_iff hqkind).mp himplies regex host path (hmatch m hlast)

theorem fits_of_servesOnly (hserves : ServesOnly ps route)
    (hbuilds : BuildsRoute cfg dynConfig backends routerName router route)
    (hrule : ConjunctionText ps router.rule.toList) : FitsOneMatch ps := by
  constructor
  · intro p hp q hq hpkind hqkind host hhost
    -- some path that the path match lets through
    obtain ⟨regex, path, hmatch⟩ : ∃ (regex : RegexMatch) (path : String),
        ∀ m, (ps.filterMap Predicate.pathMatch).getLast? = some m → m.Matches regex path := by
      cases (ps.filterMap Predicate.pathMatch).getLast? with
      | none => exact ⟨fun _ _ => True, "/", by simp⟩
      | some m =>
        obtain ⟨regex, path, hpath⟩ := m.exists_path
        exact ⟨regex, path, by rintro _ ⟨⟩; exact hpath⟩
    have hholds := hserves regex host path
      ((hbuilds.serves_iff hrule regex host path).mpr ⟨⟨p, hp, hpkind, hhost⟩, hmatch⟩) q hq
    simpa [Predicate.Holds, hqkind] using hholds
  · intro q hq hqkind
    obtain ⟨p, hp, hpkind, host, hhost⟩ := hbuilds.exists_served hrule
    cases hlast : (ps.filterMap Predicate.pathMatch).getLast? with
    | none =>
      have hnil := List.getLast?_eq_none_iff.mp hlast
      have hnone : q.pathMatch = none := List.filterMap_eq_nil_iff.mp hnil q hq
      refine absurd (hserves (fun _ _ => True) host "/" ?_ q hq) (Predicate.not_holds hqkind hnone _ _ _)
      exact (hbuilds.serves_iff hrule _ _ _).mpr ⟨⟨p, hp, hpkind, hhost⟩, by simp [hlast]⟩
    | some m =>
      refine ⟨m, rfl, (PathMatch.implies_iff hqkind).mpr fun regex host' path hpath => ?_⟩
      have hholds := hserves regex host path
        ((hbuilds.serves_iff hrule regex host path).mpr
          ⟨⟨p, hp, hpkind, hhost⟩, by rintro _ hm; rwa [← Option.some.inj (hlast.symm.trans hm)]⟩) q hq
      -- a path predicate does not look at the host
      cases hkind : q.kind with
      | host => exact absurd hkind hqkind
      | path | pathPrefix | pathRegexp => simpa [Predicate.Holds, hkind] using hholds

/-- The route of a conjunction serves nothing that the rule excludes exactly when the conjunction
fits into one list of hosts and one path match. -/
theorem servesOnly_iff (hrule : ConjunctionText ps router.rule.toList)
    (hroute : buildRoute cfg dynConfig backends routerName router = some route) :
    ServesOnly ps route ↔ FitsOneMatch ps :=
  ⟨fun h => fits_of_servesOnly h (buildRoute_builds hroute) hrule,
    fun h => servesOnly_of_fits h (buildRoute_builds hroute) hrule⟩

end

/-! ## One prefix and two -/

def sampleBackend : ResolvedBackend := ⟨"", "Service", "svc-app", none, 8080⟩

def sampleBackends : BackendIndex := Std.ExtTreeMap.ofList [("app", sampleBackend)]

def ruleRouter (ps : List Predicate) : Router :=
  ⟨String.ofList (renderRule ps), "app", [], ["https"], none, none⟩

theorem ruleRouter_text {ps : List Predicate} (hne : ps ≠ [])
    (h : ∀ p ∈ ps, ∀ arg ∈ p.args, Quotable arg) :
    ConjunctionText ps (ruleRouter ps).rule.toList := by
  have htext := renderRule_text hne h
  rwa [← String.toList_ofList (l := renderRule ps)] at htext

def apiPredicates : List Predicate := [⟨.host, ["a.b", "www.a.b"]⟩, ⟨.pathPrefix, ["/api"]⟩]

theorem servesOnly_api : ∃ route, @buildRoute sampleHasher sampleConfig emptyDynConfig sampleBackends
    "app" (ruleRouter apiPredicates) = some route ∧ ServesOnly apiPredicates route := by
  let _ := sampleHasher
  have hsome : (buildRoute sampleConfig emptyDynConfig sampleBackends "app"
      (ruleRouter apiPredicates)).isSome = true := by decide
  obtain ⟨route, hroute⟩ := Option.isSome_iff_exists.mp hsome
  refine ⟨route, hroute, (servesOnly_iff (ruleRouter_text (by decide) (by decide)) hroute).mpr
    ⟨by decide, ?_⟩⟩
  intro p hp hkind
  refine ⟨⟨.pathPrefix, "/api"⟩, by decide, ?_⟩
  simp only [apiPredicates, List.mem_cons, List.not_mem_nil, or_false] at hp
  rcases hp with rfl | rfl
  · exact absurd rfl hkind
  · exact ⟨"/api", List.mem_singleton_self _, List.prefix_rfl⟩

def twoPrefixes : List Predicate :=
  [⟨.host, ["a.b"]⟩, ⟨.pathPrefix, ["/api"]⟩, ⟨.pathPrefix, ["/"]⟩]

/-- The rule asks for paths under `/api`, the route serves every path. -/
theorem second_prefix_replaces_first : ∃ route, @buildRoute sampleHasher sampleConfig emptyDynConfig
    sampleBackends "app" (ruleRouter twoPrefixes) = some route ∧
      ConjunctionText twoPrefixes (ruleRouter twoPrefixes).rule.toList ∧
        ¬ServesOnly twoPrefixes route := by
  let _ := sampleHasher
  have hsome : (buildRoute sampleConfig emptyDynConfig sampleBackends "app"
      (ruleRouter twoPrefixes)).isSome = true := by decide
  obtain ⟨route, hroute⟩ := Option.isSome_iff_exists.mp hsome
  have htext := @ruleRouter_text twoPrefixes (by decide) (by decide)
  refine ⟨route, hroute, htext, fun h => ?_⟩
  obtain ⟨m, hlast, himplies⟩ := (fits_of_servesOnly h (buildRoute_builds hroute) htext).paths
    ⟨.pathPrefix, ["/api"]⟩ (by decide) (by decide)
  obtain rfl : ⟨.pathPrefix, "/"⟩ = m := Option.some.inj ((show _ = _ by decide).symm.trans hlast)
  obtain ⟨pre, hpre, hprefix⟩ := himplies
  rw [List.mem_singleton.mp hpre] at hprefix
  exact absurd hprefix (by decide)

end PangolinGateway
