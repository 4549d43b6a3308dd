import PangolinGateway.Transform.Admission
import PangolinGateway.Transform.RuleAccepted
import PangolinGateway.Transform.RuleMeaning

/-! # The path that a backend sees

The gateway compares a path prefix element by element and does not look at a slash at its end. A
prefix rewrite replaces the elements that the match of the rule compared, so what it does depends on
the rule as much as on the middleware. -/
namespace PangolinGateway
set_option autoImplicit false

open PathElements

structure RequestPath where
  text : List Char
  rooted : Rooted '/' text
  nonempty : text ≠ []

/-! ## What the gateway does -/

def HttpPathMatch.comparedPrefix (m : HttpPathMatch) : List Char :=
  trimLast '/' (m.value.getD "/").toList

def HttpPathMatch.Takes (regex : RegexMatch) (m : HttpPathMatch) (p : RequestPath) : Prop :=
  m.MatchesBy (byElements regex) (String.ofList p.text)

/-- Next to a match of another type admission refuses a prefix rewrite. -/
def UrlRewritePath.rewrite (path : UrlRewritePath) (m : HttpPathMatch) (p : RequestPath) :
    List Char :=
  match path.type with
  | .replaceFullPath => (path.replaceFullPath.getD "").toList
  | .replacePrefixMatch => replacePrefix '/' m.comparedPrefix
      (trimLast '/' (path.replacePrefixMatch.getD "").toList) p.text

def anyPath : HttpPathMatch := ⟨some .pathPrefix, some "/"⟩

/-- A rule without matches takes every path, and so does a match without a path. -/
def HttpRouteRule.pathMatches (rule : HttpRouteRule) : List HttpPathMatch :=
  if (rule.routeMatches.getD []).isEmpty then [anyPath]
  else (rule.routeMatches.getD []).map fun m => m.path.getD anyPath

def HttpRouteRule.backendPath (rule : HttpRouteRule) (m : HttpPathMatch) (p : RequestPath) :
    List Char :=
  ((rule.filters.getD []).findSome? HttpRouteFilter.rewritePath).elim p.text fun path =>
    path.rewrite m p

/-- A request for `p` matches, and its backend sees `seen`. -/
def HTTPRoute.Forwards (regex : RegexMatch) (route : HTTPRoute) (p : RequestPath)
    (seen : List Char) : Prop :=
  ∃ rule ∈ route.spec.rules.getD [], ∃ m ∈ rule.pathMatches,
    m.Takes regex p ∧ seen = rule.backendPath m p

/-! ## The path of a rule is rooted -/

theorem normalizePath_rooted (p : String) :
    Rooted '/' (normalizePath p).toList ∧ (normalizePath p).toList ≠ [] := by
  unfold normalizePath
  split
  · next hslash =>
    obtain ⟨rest, hrest⟩ := List.head?_eq_some_iff.mp hslash
    simp [hrest]
  · simp

/-- A path match that is no regular expression has a rooted value. -/
def ParsedRule.PathRooted (out : ParsedRule) : Prop :=
  ∀ m ∈ out.path, m.kind ≠ .regex → Rooted '/' m.value.toList ∧ m.value.toList ≠ []

theorem handlePredicate_rooted {out : ParsedRule} (h : out.PathRooted) (ident : String)
    (args : List String) : (handlePredicate out ident args).PathRooted := by
  have hset : ∀ (kind : PathMatchKind) (first : String), kind ≠ .regex →
      ParsedRule.PathRooted { out with path := some ⟨kind, normalizePath first⟩ } := by
    intro kind first _ m hm _
    obtain rfl := Option.some.inj hm
    exact normalizePath_rooted first
  unfold handlePredicate
  split
  · exact h
  · split
    · exact h
    · split
      · cases args.head? with
        | none => exact h
        | some first => exact hset .pathPrefix first nofun
      · split
        · cases args.head? with
          | none => exact h
          | some first => exact hset .exact first nofun
        · split
          · cases args.head? with
            | none => exact h
            | some first =>
              intro m hm hkind
              obtain rfl := Option.some.inj hm
              exact absurd rfl hkind
          · exact h

theorem foldl_handleCall_rooted (calls : List (String × List String)) {out : ParsedRule}
    (h : out.PathRooted) : (calls.foldl handleCall out).PathRooted := by
  induction calls generalizing out with
  | nil => exact h
  | cons call calls ih => exact ih (handlePredicate_rooted h call.1 call.2)

theorem scanConnectors_path (inBacktick : Bool) (s : List Char) (out : ParsedRule) :
    (scanConnectors inBacktick s out).path = out.path := by
  induction s generalizing inBacktick out with
  | nil => rfl
  | cons c s ih =>
    unfold scanConnectors
    split
    · exact ih _ _
    · split
      · exact ih _ _
      · split
        · exact ih _ _
        · split
          · exact ih _ _
          · exact ih _ _

theorem parse_rooted {rule : String} (husable : (parse rule).isUsable = true) :
    (parse rule).PathRooted := by
  obtain ⟨r, hr⟩ := (usable_iff rule).mp husable
  rw [(parse_read rule).1 r hr.valid hr.text]
  apply foldl_handleCall_rooted
  intro m hm
  rw [scanConnectors_path] at hm
  cases hm

/-! ## One prefix rewrite -/

/-- The rule has no path match or a prefix. -/
def ParsedRule.HasPrefixOnly (out : ParsedRule) : Prop := ∀ m ∈ out.path, m.kind = .pathPrefix

/-- What the route compares of a request path, `/` without a path match. -/
def ParsedRule.comparedPrefix (out : ParsedRule) : List Char :=
  trimLast '/' (out.path.elim "/" PathMatch.value).toList

theorem ParsedRule.comparedPrefix_rooted {out : ParsedRule} (hrooted : out.PathRooted)
    (hpre : out.HasPrefixOnly) : Rooted '/' out.comparedPrefix := by
  unfold ParsedRule.comparedPrefix
  cases hpath : out.path with
  | none => exact Rooted.trimLast (by simp)
  | some m =>
    have hkind : m.kind ≠ .regex := by simp [hpre m hpath]
    exact (hrooted m hpath hkind).1.trimLast

theorem routeRule_pathMatches {parsed : ParsedRule} (hpre : parsed.HasPrefixOnly)
    (filters : List HttpRouteFilter) (backend : ResolvedBackend) :
    (routeRule parsed filters backend).pathMatches =
      [⟨some .pathPrefix, some (parsed.path.elim "/" PathMatch.value)⟩] := by
  unfold HttpRouteRule.pathMatches routeRule
  cases hpath : parsed.path with
  | none => rfl
  | some m => simp [hpre m hpath, PathMatchKind.matchType]

/-- The rewrite of the matched prefix that `addPrefix` and `stripPrefix` ask for. -/
def prefixRewrite (value : String) : HttpRouteFilter :=
  rewriteFilter ⟨none, some ⟨.replacePrefixMatch, some value, none⟩⟩

/-- The route takes the paths under the prefix of its rule and puts the value in its place. -/
theorem routeRule_forwards {parsed : ParsedRule} (hrooted : parsed.PathRooted)
    (hpre : parsed.HasPrefixOnly) {value : String} (hvalue : Rooted '/' value.toList)
    (backend : ResolvedBackend) (regex : RegexMatch) (p : RequestPath) (seen : List Char) :
    (∃ m ∈ (routeRule parsed [prefixRewrite value] backend).pathMatches, m.Takes regex p ∧
        seen = (routeRule parsed [prefixRewrite value] backend).backendPath m p) ↔
      ∃ rest, Rooted '/' rest ∧ p.text = parsed.comparedPrefix ++ rest ∧
        seen = orRoot '/' (trimLast '/' value.toList ++ rest) := by
  have hcompared := ParsedRule.comparedPrefix_rooted hrooted hpre
  rw [routeRule_pathMatches hpre]
  simp only [List.mem_singleton, exists_eq_left]
  have htakes : HttpPathMatch.Takes regex
      ⟨some .pathPrefix, some (parsed.path.elim "/" PathMatch.value)⟩ p ↔
        ∃ rest, Rooted '/' rest ∧ p.text = parsed.comparedPrefix ++ rest := by
    rw [← elements_prefix_iff hcompared p.rooted]
    simp [HttpPathMatch.Takes, HttpPathMatch.MatchesBy, byElements, ParsedRule.comparedPrefix]
  have hseen : (routeRule parsed [prefixRewrite value] backend).backendPath
      ⟨some .pathPrefix, some (parsed.path.elim "/" PathMatch.value)⟩ p =
        replacePrefix '/' parsed.comparedPrefix (trimLast '/' value.toList) p.text := rfl
  rw [htakes, hseen]
  constructor
  · rintro ⟨⟨rest, hrest, htext⟩, rfl⟩
    exact ⟨rest, hrest, htext, by rw [htext, replacePrefix_append hcompared hvalue.trimLast hrest]⟩
  · rintro ⟨rest, hrest, htext, rfl⟩
    exact ⟨⟨rest, hrest, htext⟩, by rw [htext, replacePrefix_append hcompared hvalue.trimLast hrest]⟩

variable [DefaultHasher]

theorem BuildsRoute.forwards_iff {cfg : Config} {dynConfig : TraefikDynamicConfig}
    {backends : BackendIndex} {routerName : String} {router : Router} {route : HTTPRoute}
    (h : BuildsRoute cfg dynConfig backends routerName router route)
    (hpre : (parse router.rule).HasPrefixOnly) {mw : Middleware} {value : String}
    (honly : resolvedMiddlewares dynConfig router = [mw])
    (htranslate : translate mw = [prefixRewrite value]) (hvalue : Rooted '/' value.toList)
    (regex : RegexMatch) (p : RequestPath) (seen : List Char) :
    route.Forwards regex p seen ↔ ∃ rest, Rooted '/' rest ∧
      p.text = (parse router.rule).comparedPrefix ++ rest ∧
        seen = orRoot '/' (trimLast '/' value.toList ++ rest) := by
  obtain ⟨backend, _, hrules⟩ := h.rules
  have hfilters : buildFilters router.middlewares dynConfig.http.middlewares =
      [prefixRewrite value] := by
    rw [buildFilters_resolved, honly, List.flatMap_singleton, htranslate]
    rfl
  rw [hfilters] at hrules
  rw [← routeRule_forwards (parse_rooted h.usable) hpre hvalue backend regex p seen]
  unfold HTTPRoute.Forwards
  rw [hrules]
  simp

end PangolinGateway
