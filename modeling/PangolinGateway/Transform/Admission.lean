import PangolinGateway.Transform.ListenerAttach
import PangolinGateway.Transform.MergeFilters

/-! # Admission of the HTTPRoute rules

The API server rejects a route whose rule has a filter twice, a redirect next to a rewrite or to
backendRefs, or a prefix rewrite without a prefix match. `mergeFilters` sees to the rewrites and the
header modifiers; redirects pass through it as they come. -/
namespace PangolinGateway
set_option autoImplicit false

structure Admissible (rule : HttpRouteRule) : Prop where
  once : ∀ type : FilterType, (rule.filters.getD []).countP (·.type == type) ≤ 1
  apart : ∀ f ∈ rule.filters.getD [], ∀ g ∈ rule.filters.getD [],
    f.type = .requestRedirect → g.type ≠ .urlRewrite
  noBackend : ∀ f ∈ rule.filters.getD [], f.type = .requestRedirect →
    rule.backendRefs.getD [] = []
  prefixMatch : ∀ f ∈ rule.filters.getD [], ∀ path, f.rewritePath = some path →
    path.type = .replacePrefixMatch →
      ∀ m ∈ rule.routeMatches.getD [], ∀ p, m.path = some p → p.type = some .pathPrefix

/-! ## What a middleware asks for -/

/-- A `redirectScheme` to http or https. -/
def asksRedirect (mw : Middleware) : Bool :=
  (bodyOf "redirectScheme" mw).any fun body =>
    ((body.get "scheme").bind Value.asStr).any fun scheme => scheme == "http" || scheme == "https"

/-- `headers` with a custom Host header. -/
def asksHost (mw : Middleware) : Bool :=
  (bodyOf "headers" mw).any fun body =>
    (stringMembers body "customRequestHeaders").any fun h => isHostHeader h.1

/-- How `addPrefix`, `stripPrefix` and `replacePath` rewrite the path. -/
def asksPath (mw : Middleware) : Option UrlRewritePathType :=
  if ((bodyOf "addPrefix" mw).bind fun body => (body.get "prefix").bind Value.asStr).isSome ||
      ((bodyOf "stripPrefix" mw).bind fun body =>
        ((body.get "prefixes").bind Value.asArray).bind List.head?).isSome then
    some .replacePrefixMatch
  else if ((bodyOf "replacePath" mw).bind fun body => (body.get "path").bind Value.asStr).isSome then
    some .replaceFullPath
  else none

def asksRewrite (mw : Middleware) : Bool := asksHost mw || (asksPath mw).isSome

/-! ## The filters of one middleware -/

/-- What the merge of a list of filters depends on, apart from the headers. -/
structure Asks (filters : List HttpRouteFilter) (redirects : ℕ) (rewrites : Bool)
    (path : Option UrlRewritePathType) : Prop where
  redirects : filters.countP HttpRouteFilter.isRedirect = redirects
  rewrites : filters.any HttpRouteFilter.isRewrite = rewrites
  path : (filters.findSome? HttpRouteFilter.rewritePath).map UrlRewritePath.type = path

theorem asks_nil : Asks [] 0 false none := ⟨rfl, rfl, rfl⟩

theorem Asks.append {fs gs : List HttpRouteFilter} {m n : ℕ} {b c : Bool}
    {p q : Option UrlRewritePathType} (hf : Asks fs m b p) (hg : Asks gs n c q) :
    Asks (fs ++ gs) (m + n) (b || c) (p.or q) := by
  constructor
  · rw [List.countP_append, hf.redirects, hg.redirects]
  · rw [List.any_append, hf.rewrites, hg.rewrites]
  · rw [List.findSome?_append, ← hf.path, ← hg.path]
    cases fs.findSome? HttpRouteFilter.rewritePath <;> rfl

theorem translateRedirectScheme_asks (body : Value) :
    Asks (translateRedirectScheme body).toList
      (if ((body.get "scheme").bind Value.asStr).any
        (fun scheme => scheme == "http" || scheme == "https") then 1 else 0) false none := by
  unfold translateRedirectScheme
  cases hmember : body.get "scheme" with
  | none => exact asks_nil
  | some member =>
    cases hscheme : member.asStr with
    | none => simpa [hscheme] using asks_nil
    | some scheme =>
      by_cases hhttp : scheme = "http"
      · subst hhttp
        simp only [hscheme, Option.bind_eq_bind, Option.bind_some, Option.any_some, if_true]
        exact ⟨rfl, rfl, rfl⟩
      · by_cases hhttps : scheme = "https"
        · subst hhttps
          simp only [hscheme, Option.bind_eq_bind, Option.bind_some, Option.any_some, hhttp, if_false,
            if_true]
          exact ⟨rfl, rfl, rfl⟩
        · simpa [hscheme, hhttp, hhttps] using asks_nil

theorem hostRewrites_asks (hosts : List (String × String)) :
    Asks (hosts.map fun h => rewriteFilter ⟨some h.2, none⟩) 0 (!hosts.isEmpty) none := by
  induction hosts with
  | nil => exact asks_nil
  | cons h hosts ih =>
    have hone : Asks [rewriteFilter ⟨some h.2, none⟩] 0 true none := ⟨rfl, rfl, rfl⟩
    exact hone.append ih

theorem Asks.append_header {fs : List HttpRouteFilter} {m : ℕ} {b : Bool}
    {p : Option UrlRewritePathType} (hf : Asks fs m b p) (filter : HttpRouteFilter) (empty : Bool)
    (h : filter.type = .requestHeaderModifier ∨ filter.type = .responseHeaderModifier) :
    Asks (fs ++ if empty then [] else [filter]) m b p := by
  cases empty with
  | true => simpa using hf
  | false =>
    have hone : Asks [filter] 0 false none := by
      rcases h with h | h <;>
        constructor <;>
        simp [HttpRouteFilter.isRedirect, HttpRouteFilter.isRewrite, HttpRouteFilter.rewritePath, h]
    simpa using hf.append hone

theorem translateHeaders_asks (body : Value) :
    Asks (translateHeaders body) 0
      ((stringMembers body "customRequestHeaders").any fun h => isHostHeader h.1) none := by
  have hany : (!((stringMembers body "customRequestHeaders").filter
      fun h => isHostHeader h.1).isEmpty) =
      (stringMembers body "customRequestHeaders").any fun h => isHostHeader h.1 := by
    rw [Bool.eq_iff_iff]
    simp
  rw [← hany]
  unfold translateHeaders
  exact ((hostRewrites_asks _).append_header _ _ (Or.inl rfl)).append_header _ _ (Or.inr rfl)

theorem translateAddPrefix_asks (body : Value) :
    Asks (translateAddPrefix body).toList 0 ((body.get "prefix").bind Value.asStr).isSome
      (((body.get "prefix").bind Value.asStr).map fun _ => .replacePrefixMatch) := by
  unfold translateAddPrefix
  cases (body.get "prefix").bind Value.asStr with
  | none => exact asks_nil
  | some pre => exact ⟨rfl, rfl, rfl⟩

theorem translateReplacePath_asks (body : Value) :
    Asks (translateReplacePath body).toList 0 ((body.get "path").bind Value.asStr).isSome
      (((body.get "path").bind Value.asStr).map fun _ => .replaceFullPath) := by
  unfold translateReplacePath
  cases (body.get "path").bind Value.asStr with
  | none => exact asks_nil
  | some path => exact ⟨rfl, rfl, rfl⟩

theorem translateStripPrefix_asks (body : Value) :
    Asks (translateStripPrefix body).toList 0
      (((body.get "prefixes").bind Value.asArray).bind List.head?).isSome
      ((((body.get "prefixes").bind Value.asArray).bind List.head?).map
        fun _ => .replacePrefixMatch) := by
  unfold translateStripPrefix
  cases (body.get "prefixes").bind Value.asArray with
  | none => exact asks_nil
  | some prefixes =>
    cases prefixes with
    | nil => exact asks_nil
    | cons pre prefixes => exact ⟨rfl, rfl, rfl⟩

theorem translate_asks (mw : Middleware) :
    Asks (translate mw) (if asksRedirect mw then 1 else 0) (asksRewrite mw) (asksPath mw) := by
  unfold translate asksRewrite asksHost asksPath asksRedirect
  cases hmember : mw.asObject.bind fun obj => obj.toList.head? with
  | none =>
    have hnone : ∀ kind, bodyOf kind mw = none := fun kind => by
      unfold bodyOf
      rw [hmember]
      rfl
    simp only [hnone]
    exact asks_nil
  | some member =>
    obtain ⟨kind, body⟩ := member
    simp only [bodyOf_eq hmember]
    by_cases hredirect : kind = "redirectScheme"
    · subst hredirect
      simpa using translateRedirectScheme_asks body
    by_cases hheaders : kind = "headers"
    · subst hheaders
      simpa using translateHeaders_asks body
    by_cases hadd : kind = "addPrefix"
    · subst hadd
      have h := translateAddPrefix_asks body
      cases hpre : (body.get "prefix").bind Value.asStr <;> simpa [hpre] using h
    by_cases hreplace : kind = "replacePath"
    · subst hreplace
      have h := translateReplacePath_asks body
      cases hpath : (body.get "path").bind Value.asStr <;> simpa [hpath] using h
    by_cases hstrip : kind = "stripPrefix"
    · subst hstrip
      have h := translateStripPrefix_asks body
      cases hpre : ((body.get "prefixes").bind Value.asArray).bind List.head? <;>
        simpa [hpre] using h
    · simpa [hredirect, hheaders, hadd, hreplace, hstrip] using asks_nil

theorem translateAll_asks (mws : List Middleware) : Asks (mws.flatMap translate)
    (mws.countP asksRedirect) (mws.any asksRewrite) (mws.findSome? asksPath) := by
  induction mws with
  | nil => exact asks_nil
  | cons mw mws ih =>
    have h := (translate_asks mw).append ih
    rw [List.flatMap_cons, List.countP_cons, Nat.add_comm, List.any_cons, List.findSome?_cons]
    cases hpath : asksPath mw <;> simpa [hpath] using h

/-! ## The rule of a router -/

def resolvedMiddlewares (dynConfig : TraefikDynamicConfig) (router : Router) : List Middleware :=
  namedMiddlewares router.middlewares dynConfig.http.middlewares

theorem buildFilters_resolved (dynConfig : TraefikDynamicConfig) (router : Router) :
    buildFilters router.middlewares dynConfig.http.middlewares =
      mergeFilters ((resolvedMiddlewares dynConfig router).flatMap translate) :=
  buildFilters_named router.middlewares dynConfig.http.middlewares

/-- The middlewares of a router fit together, and with its path match. -/
structure MiddlewaresFit (mws : List Middleware) (path : Option PathMatch) : Prop where
  redirects : mws.countP asksRedirect ≤ 1
  apart : mws.any asksRedirect = true → mws.any asksRewrite = false
  prefixMatch : mws.findSome? asksPath = some .replacePrefixMatch →
    ∀ p, path = some p → p.kind = .pathPrefix

theorem routeRule_filters (parsed : ParsedRule) (filters : List HttpRouteFilter)
    (backend : ResolvedBackend) : (routeRule parsed filters backend).filters.getD [] = filters := by
  unfold routeRule
  cases filters <;> rfl

theorem routeRule_noBackend (parsed : ParsedRule) (filters : List HttpRouteFilter)
    (backend : ResolvedBackend) {f : HttpRouteFilter} (hf : f ∈ filters)
    (htype : f.type = .requestRedirect) :
    (routeRule parsed filters backend).backendRefs.getD [] = [] := by
  have hany : filters.any (·.type == .requestRedirect) = true :=
    List.any_eq_true.mpr ⟨f, hf, by simp [htype]⟩
  simp [routeRule, hany, thenSome]

theorem routeRule_prefixMatch (parsed : ParsedRule) (filters : List HttpRouteFilter)
    (backend : ResolvedBackend) :
    (∀ m ∈ (routeRule parsed filters backend).routeMatches.getD [], ∀ p, m.path = some p →
        p.type = some .pathPrefix) ↔
      ∀ p, parsed.path = some p → p.kind = .pathPrefix := by
  unfold routeRule
  cases parsed.path with
  | none => simp
  | some p => cases hkind : p.kind <;> simp [hkind, PathMatchKind.matchType]

section
variable (mws : List Middleware)

theorem countP_merged_redirects :
    (mergeFilters (mws.flatMap translate)).countP (·.type == .requestRedirect) =
      mws.countP asksRedirect := by
  exact (mergeFilters_redirects _).trans (translateAll_asks mws).redirects

theorem exists_merged_redirect :
    (∃ f ∈ mergeFilters (mws.flatMap translate), f.type = .requestRedirect) ↔
      mws.any asksRedirect = true := by
  have hpos := List.countP_pos_iff (p := (HttpRouteFilter.type · == .requestRedirect))
    (l := mergeFilters (mws.flatMap translate))
  rw [countP_merged_redirects, List.countP_pos_iff] at hpos
  simpa [List.any_eq_true] using hpos.symm

theorem exists_merged_rewrite :
    (∃ g ∈ mergeFilters (mws.flatMap translate), g.type = .urlRewrite) ↔
      mws.any asksRewrite = true := by
  rw [exists_mergeFilters_rewrite, (translateAll_asks mws).rewrites]

theorem exists_merged_path (type : UrlRewritePathType) :
    (∃ g ∈ mergeFilters (mws.flatMap translate), ∃ path, g.rewritePath = some path ∧
      path.type = type) ↔ mws.findSome? asksPath = some type := by
  rw [← (translateAll_asks mws).path, Option.map_eq_some_iff]
  constructor
  · rintro ⟨g, hg, path, hpath, htype⟩
    exact ⟨path, (exists_mergeFilters_path _).mp ⟨g, hg, hpath⟩, htype⟩
  · rintro ⟨path, hpath, htype⟩
    obtain ⟨g, hg, hgpath⟩ := (exists_mergeFilters_path _).mpr hpath
    exact ⟨g, hg, path, hgpath, htype⟩

end

theorem fits_of_admissible {parsed : ParsedRule} {mws : List Middleware} {backend : ResolvedBackend}
    (h : Admissible (routeRule parsed (mergeFilters (mws.flatMap translate)) backend)) :
    MiddlewaresFit mws parsed.path := by
  have hfilters := routeRule_filters parsed (mergeFilters (mws.flatMap translate)) backend
  constructor
  · have honce := h.once .requestRedirect
    rwa [hfilters, countP_merged_redirects] at honce
  · intro hany
    obtain ⟨f, hf, hftype⟩ := (exists_merged_redirect mws).mpr hany
    refine Bool.eq_false_iff.mpr fun hasked => ?_
    obtain ⟨g, hg, hgtype⟩ := (exists_merged_rewrite mws).mpr hasked
    exact h.apart f (by rwa [hfilters]) g (by rwa [hfilters]) hftype hgtype
  · intro hfirst
    obtain ⟨g, hg, path, hpath, htype⟩ := (exists_merged_path mws _).mpr hfirst
    exact (routeRule_prefixMatch parsed _ backend).mp
      (h.prefixMatch g (by rwa [hfilters]) path hpath htype)

theorem admissible_of_fits {parsed : ParsedRule} {mws : List Middleware}
    (h : MiddlewaresFit mws parsed.path) (backend : ResolvedBackend) :
    Admissible (routeRule parsed (mergeFilters (mws.flatMap translate)) backend) := by
  constructor
  · intro type
    rw [routeRule_filters]
    by_cases htype : type = .requestRedirect
    · subst htype
      rw [countP_merged_redirects]
      exact h.redirects
    · exact mergeFilters_once _ htype
  · rw [routeRule_filters]
    intro f hf g hg hftype hgtype
    have hnone := h.apart ((exists_merged_redirect mws).mp ⟨f, hf, hftype⟩)
    rw [(exists_merged_rewrite mws).mp ⟨g, hg, hgtype⟩] at hnone
    exact absurd hnone (by decide)
  · rw [routeRule_filters]
    exact fun f hf hftype => routeRule_noBackend parsed _ backend hf hftype
  · rw [routeRule_filters]
    intro f hf path hpath htype
    exact (routeRule_prefixMatch parsed _ backend).mpr
      (h.prefixMatch ((exists_merged_path mws _).mp ⟨f, hf, path, hpath, htype⟩))

/-! ## The desired routes -/

variable [DefaultHasher] [UrlCrate]

/-- Every rule of every HTTPRoute of the desired set is admissible. -/
def RulesAdmissible (cfg : Config) (dynConfig : TraefikDynamicConfig) : Prop :=
  ∀ (name : String) (route : HTTPRoute),
    (buildDesired cfg dynConfig).httpRoutes[name]? = some route →
      ∀ rule ∈ route.spec.rules.getD [], Admissible rule

theorem middlewaresFit_of_rulesAdmissible {cfg : Config} {dynConfig : TraefikDynamicConfig}
    (h : RulesAdmissible cfg dynConfig) {name : String} {entry : String × Router}
    (hentry : RouterOf cfg dynConfig name entry) :
    MiddlewaresFit (resolvedMiddlewares dynConfig entry.2) (parse entry.2.rule).path := by
  obtain ⟨route, hroute⟩ := Option.isSome_iff_exists.mp hentry.translated.2
  obtain ⟨backend, _, hrules⟩ := (buildRoute_builds hroute).rules
  have hrule := h name route (httpRoutes_routerOf.mpr ⟨entry, hentry, hroute⟩)
    (routeRule (parse entry.2.rule) (buildFilters entry.2.middlewares dynConfig.http.middlewares)
      backend) (by simp [hrules])
  rw [buildFilters_resolved] at hrule
  exact fits_of_admissible hrule

/-- The rules are admissible exactly when the middlewares of every router that has a route fit. -/
theorem rulesAdmissible_iff (cfg : Config) (dynConfig : TraefikDynamicConfig) :
    RulesAdmissible cfg dynConfig ↔
      ∀ name entry, RouterOf cfg dynConfig name entry →
        MiddlewaresFit (resolvedMiddlewares dynConfig entry.2) (parse entry.2.rule).path := by
  constructor
  · exact fun h name entry hentry => middlewaresFit_of_rulesAdmissible h hentry
  · intro h name route hfind rule hrule
    obtain ⟨entry, hentry, hroute⟩ := httpRoutes_routerOf.mp hfind
    obtain ⟨backend, _, hrules⟩ := (buildRoute_builds hroute).rules
    rw [hrules] at hrule
    obtain rfl := List.mem_singleton.mp hrule
    rw [buildFilters_resolved]
    exact admissible_of_fits (h name entry hentry) backend

/-! ## A prefix added to one exact path -/

def exactPathRouter : Router :=
  ⟨"Host(`a.b`) && Path(`/health`)", "app", ["internal"], ["https"], none, none⟩

def internalPrefix : Middleware := .object [("addPrefix", .object [("prefix", .string "/internal")])]

def prefixedConfig : TraefikDynamicConfig where
  http := {
    routers := Std.ExtTreeMap.ofList [("app", exactPathRouter)]
    services := Std.ExtTreeMap.ofList sampleServices
    middlewares := Std.ExtTreeMap.ofList [("internal", internalPrefix)]
    serversTransports := ∅ }
  tcp := none
  udp := none

omit [DefaultHasher] [UrlCrate] in
/-- `addPrefix` on a router with `Path` is to replace the matched prefix, and there is none. -/
theorem exact_path_with_prefix :
    ¬@RulesAdmissible sampleHasher sampleUrlCrate sampleConfig prefixedConfig := by
  let _ := sampleHasher
  let _ := sampleUrlCrate
  intro h
  have hrouter : RouterOf sampleConfig prefixedConfig "hr-app" ("app", exactPathRouter) := by
    rfl
  have hprefix := (middlewaresFit_of_rulesAdmissible h hrouter).prefixMatch (by decide)
    ⟨.exact, "/health"⟩ (by decide)
  exact absurd hprefix (by decide)

end PangolinGateway
