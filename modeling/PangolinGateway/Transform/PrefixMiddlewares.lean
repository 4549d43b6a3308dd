import PangolinGateway.Transform.PathRewrite

/-! # addPrefix and stripPrefix

Both become a rewrite of the prefix that the rule matched. `addPrefix` is to put its prefix in front
of the whole path, so it does only where the rule matches no element; `stripPrefix` is to remove one
of its own prefixes, so it does only where the rule matches the one that is removed. -/
namespace PangolinGateway
set_option autoImplicit false

open PathElements

/-! ## Adding a prefix -/

/-- The prefix of an `addPrefix` middleware. -/
def addedPrefix (mw : Middleware) : Option String :=
  (bodyOf "addPrefix" mw).bind fun body => (body.get "prefix").bind Value.asStr

theorem bodyOf_some {kind : String} {mw : Middleware} {body : Value}
    (h : bodyOf kind mw = some body) :
    (mw.asObject.bind fun obj => obj.toList.head?) = some (kind, body) := by
  unfold bodyOf at h
  obtain ⟨member, hmember, hif⟩ := Option.bind_eq_some_iff.mp h
  split at hif
  · next hkind => rw [hmember, ← hkind, ← Option.some.inj hif]
  · cases hif

theorem translate_addPrefix {mw : Middleware} {q : String} (h : addedPrefix mw = some q) :
    translate mw = [prefixRewrite q] := by
  obtain ⟨body, hbody, hpre⟩ := Option.bind_eq_some_iff.mp h
  unfold translate
  rw [bodyOf_some hbody]
  simp [translateAddPrefix, hpre, prefixRewrite]

theorem ParsedRule.comparedPrefix_nil_iff {out : ParsedRule} (hrooted : out.PathRooted)
    (hpre : out.HasPrefixOnly) : out.comparedPrefix = [] ↔ ∀ m ∈ out.path, m.value = "/" := by
  unfold ParsedRule.comparedPrefix
  cases hpath : out.path with
  | none => simp [trimLast_eq_nil_iff]
  | some m =>
    have hkind : m.kind ≠ .regex := by simp [hpre m hpath]
    rw [Option.elim_some, trimLast_eq_nil_iff '/' (hrooted m hpath hkind).2]
    have hslash : m.value.toList = ['/'] ↔ m.value = "/" := by
      rw [← String.toList_inj]
      rfl
    simp [hslash]

section
variable [DefaultHasher]

theorem BuildsRoute.adds_iff {cfg : Config} {dynConfig : TraefikDynamicConfig}
    {backends : BackendIndex} {routerName : String} {router : Router} {route : HTTPRoute}
    (h : BuildsRoute cfg dynConfig backends routerName router route)
    (hpre : (parse router.rule).HasPrefixOnly) {mw : Middleware} {q : String}
    (honly : resolvedMiddlewares dynConfig router = [mw]) (hadd : addedPrefix mw = some q)
    (hstart : q.toList.head? = some '/') (hend : q.toList.getLast? ≠ some '/') :
    (∀ (regex : RegexMatch) (p : RequestPath) (seen : List Char),
        route.Forwards regex p seen → seen = q.toList ++ p.text) ↔
      ∀ m ∈ (parse router.rule).path, m.value = "/" := by
  have hrooted := parse_rooted h.usable
  have hq : Rooted '/' q.toList := by simp [Rooted, hstart]
  have hne : q.toList ≠ [] := by
    intro hnil
    simp [hnil] at hstart
  have htrim : trimLast '/' q.toList = q.toList := if_neg hend
  have hforwards : ∀ (regex : RegexMatch) (p : RequestPath) (seen : List Char),
      route.Forwards regex p seen ↔ ∃ rest, Rooted '/' rest ∧
        p.text = (parse router.rule).comparedPrefix ++ rest ∧ seen = q.toList ++ rest := by
    intro regex p seen
    rw [h.forwards_iff hpre honly (translate_addPrefix hadd) hq, htrim]
    simp [orRoot, hne]
  rw [← ParsedRule.comparedPrefix_nil_iff hrooted hpre]
  constructor
  · intro hadds
    -- the request for the prefix of the rule with a slash behind it
    let p : RequestPath :=
      ⟨(parse router.rule).comparedPrefix ++ ['/'],
        (ParsedRule.comparedPrefix_rooted hrooted hpre).append (by simp), by simp⟩
    have hseen := hadds (fun _ _ => True) p _ ((hforwards _ _ _).mpr ⟨['/'], by simp, rfl, rfl⟩)
    have hlength := congrArg List.length hseen
    simp only [List.length_append, p] at hlength
    exact List.eq_nil_of_length_eq_zero (by omega)
  · intro hnil regex p seen hforward
    obtain ⟨rest, _, htext, rfl⟩ := (hforwards regex p seen).mp hforward
    rw [htext, hnil, List.nil_append]

variable [UrlCrate]

/-- With `addPrefix` alone, backends see the prefix and then the request path exactly when the rule
has no path predicate or asks for the prefix `/`. -/
theorem add_prefix_in_front (cfg : Config) (dynConfig : TraefikDynamicConfig) (name : String)
    (route : HTTPRoute) (entry : String × Router) (mw : Middleware) (q : String)
    (hroute : (buildDesired cfg dynConfig).httpRoutes[name]? = some route)
    (hrouter : RouterOf cfg dynConfig name entry)
    (honly : resolvedMiddlewares dynConfig entry.2 = [mw]) (hadd : addedPrefix mw = some q)
    (hstart : q.toList.head? = some '/') (hend : q.toList.getLast? ≠ some '/')
    (hpre : (parse entry.2.rule).HasPrefixOnly) :
    (∀ (regex : RegexMatch) (p : RequestPath) (seen : List Char),
        route.Forwards regex p seen → seen = q.toList ++ p.text) ↔
      ∀ m ∈ (parse entry.2.rule).path, m.value = "/" :=
  (hrouter.builds hroute).adds_iff hpre honly hadd hstart hend

def pathRouter (rule : String) : Router := ⟨rule, "app", ["path"], ["https"], none, none⟩

def pathConfig (rule : String) (mw : Middleware) : TraefikDynamicConfig where
  http := {
    routers := Std.ExtTreeMap.ofList [("app", pathRouter rule)]
    services := Std.ExtTreeMap.ofList sampleServices
    middlewares := Std.ExtTreeMap.ofList [("path", mw)]
    serversTransports := ∅ }
  tcp := none
  udp := none

omit [DefaultHasher] [UrlCrate] in
theorem pathConfig_only (rule : String) (mw : Middleware) :
    resolvedMiddlewares (pathConfig rule mw) (pathRouter rule) = [mw] := rfl

omit [DefaultHasher] [UrlCrate] in
/-- The route of the sample router, for every middleware. -/
theorem pathConfig_router {rule : String} (husable : (parse rule).isUsable = true) (mw : Middleware) :
    ∃ route : HTTPRoute,
      @RouterOf sampleHasher sampleUrlCrate sampleConfig (pathConfig rule mw) "hr-app"
        ("app", pathRouter rule) ∧
      (@buildDesired sampleHasher sampleUrlCrate sampleConfig
        (pathConfig rule mw)).httpRoutes["hr-app"]? = some route := by
  let _ := sampleHasher
  let _ := sampleUrlCrate
  have hgate : ∀ needsAuth, passesAuthGate sampleConfig needsAuth = true := by
    intro needsAuth
    cases needsAuth <;> rfl
  have hbackend : (backendIndex sampleConfig (pathConfig rule mw))["app"]? = some sampleBackend := by
    rfl
  have hbuild : ∃ route, buildRoute sampleConfig (pathConfig rule mw)
      (backendIndex sampleConfig (pathConfig rule mw)) "app" (pathRouter rule) = some route := by
    unfold buildRoute
    simp only [pathRouter, husable, hgate, hbackend, guard, if_true]
    exact ⟨_, rfl⟩
  obtain ⟨route, hroute⟩ := hbuild
  have hrouter : RouterOf sampleConfig (pathConfig rule mw) "hr-app" ("app", pathRouter rule) := by
    have hlist : (pathConfig rule mw).http.routers.toList = [("app", pathRouter rule)] := rfl
    have hname : prefixedLabel "hr" "app" = "hr-app" := by decide
    unfold RouterOf InsertLoop.lastWriter
    rw [hlist]
    simp [routeEntry, hroute, hname]
  exact ⟨route, hrouter, httpRoutes_routerOf.mpr ⟨_, hrouter, hroute⟩⟩

omit [DefaultHasher] [UrlCrate] in
theorem internalPrefix_added : addedPrefix internalPrefix = some "/internal" := by decide

omit [DefaultHasher] [UrlCrate] in
theorem add_prefix_in_front_host : ∃ route : HTTPRoute,
    (@buildDesired sampleHasher sampleUrlCrate sampleConfig
      (pathConfig "Host(`a.b`)" internalPrefix)).httpRoutes["hr-app"]? = some route ∧
    ∀ (regex : RegexMatch) (p : RequestPath) (seen : List Char),
      route.Forwards regex p seen → seen = "/internal".toList ++ p.text := by
  let _ := sampleHasher
  let _ := sampleUrlCrate
  have husable : (parse "Host(`a.b`)").isUsable = true := by decide
  obtain ⟨route, hrouter, hroute⟩ := pathConfig_router husable internalPrefix
  have hpath : (parse "Host(`a.b`)").path = none := by decide
  refine ⟨route, hroute, (add_prefix_in_front sampleConfig _ "hr-app" route _ internalPrefix
    "/internal" hroute hrouter (pathConfig_only _ _) internalPrefix_added (by decide) (by decide) ?_).mpr
      ?_⟩
  · intro m hm
    simp [pathRouter, hpath] at hm
  · intro m hm
    simp [pathRouter, hpath] at hm

omit [DefaultHasher] [UrlCrate] in
/-- The prefix takes the place of the one that the rule asks for. -/
theorem added_prefix_replaces :
    ¬ ∀ (cfg : Config) (dynConfig : TraefikDynamicConfig) (name : String) (route : HTTPRoute)
      (entry : String × Router) (mw : Middleware) (q : String),
      (@buildDesired sampleHasher sampleUrlCrate cfg dynConfig).httpRoutes[name]? = some route →
      @RouterOf sampleHasher sampleUrlCrate cfg dynConfig name entry →
      resolvedMiddlewares dynConfig entry.2 = [mw] → addedPrefix mw = some q →
      q.toList.head? = some '/' → q.toList.getLast? ≠ some '/' →
      (parse entry.2.rule).HasPrefixOnly →
        ∀ (regex : RegexMatch) (p : RequestPath) (seen : List Char),
          route.Forwards regex p seen → seen = q.toList ++ p.text := by
  let _ := sampleHasher
  let _ := sampleUrlCrate
  intro h
  have husable : (parse "Host(`a.b`) && PathPrefix(`/api`)").isUsable = true := by decide
  obtain ⟨route, hrouter, hroute⟩ := pathConfig_router husable internalPrefix
  have hpath : (parse "Host(`a.b`) && PathPrefix(`/api`)").path = some ⟨.pathPrefix, "/api"⟩ := by
    decide
  have hpre : (parse "Host(`a.b`) && PathPrefix(`/api`)").HasPrefixOnly := by
    intro m hm
    rw [hpath] at hm
    rw [← Option.some.inj hm]
  have hadds := h sampleConfig _ "hr-app" route _ internalPrefix "/internal" hroute hrouter
    (pathConfig_only _ _) internalPrefix_added (by decide) (by decide) hpre
  rw [(hrouter.builds hroute).adds_iff hpre (pathConfig_only _ _) internalPrefix_added
    (by decide) (by decide)] at hadds
  exact absurd (hadds ⟨.pathPrefix, "/api"⟩ hpath) (by decide)

end

/-! ## Removing a prefix -/

/-- The prefixes of a `stripPrefix` middleware, all of them strings. -/
def strippedPrefixes (mw : Middleware) : Option (List String) :=
  (bodyOf "stripPrefix" mw).bind fun body =>
    ((body.get "prefixes").bind Value.asArray).bind fun values => values.mapM Value.asStr

theorem translate_stripPrefix {mw : Middleware} {prefixes : List String}
    (h : strippedPrefixes mw = some prefixes) (hne : prefixes ≠ []) :
    translate mw = [prefixRewrite ""] := by
  obtain ⟨body, hbody, hprefixes⟩ := Option.bind_eq_some_iff.mp h
  obtain ⟨values, hvalues, hstrings⟩ := Option.bind_eq_some_iff.mp hprefixes
  unfold translate
  rw [bodyOf_some hbody]
  cases values with
  | nil => exact absurd (Option.some.inj hstrings).symm hne
  | cons value values => simp [translateStripPrefix, hvalues, prefixRewrite]

def leadingSlash (s : List Char) : List Char := if s.head? = some '/' then s else '/' :: s

/-- The first of the prefixes that the path starts with is removed. -/
def stripFirst (prefixes : List (List Char)) (path : List Char) : List Char :=
  (prefixes.find? fun pre => pre.isPrefixOf path).elim path fun pre =>
    leadingSlash (path.drop pre.length)

/-- Some path under `x` starts with `pre`. -/
def meets (x pre : List Char) : Bool := pre.isPrefixOf x || (x ++ ['/']).isPrefixOf pre

theorem meets_iff {x pre : List Char} :
    meets x pre = true ↔ ∃ rest, Rooted '/' rest ∧ pre <+: x ++ rest := by
  unfold meets
  rw [Bool.or_eq_true, List.isPrefixOf_iff_prefix, List.isPrefixOf_iff_prefix]
  constructor
  · rintro (hshort | ⟨rest, rfl⟩)
    · exact ⟨[], by simp, by simpa using hshort⟩
    · exact ⟨'/' :: rest, by simp, by simp⟩
  · rintro ⟨rest, hrest, hstarts⟩
    obtain hshort | ⟨tail, rfl⟩ := List.prefix_or_prefix_of_prefix hstarts (List.prefix_append x rest)
    · exact Or.inl hshort
    · have htail := (List.prefix_append_right_inj x).mp hstarts
      obtain rfl | ⟨rest, rfl⟩ := hrest.cases
      · rw [List.prefix_nil.mp htail, List.append_nil]
        exact Or.inl List.prefix_rfl
      · cases tail with
        | nil => exact Or.inl (by simp)
        | cons c tail =>
          obtain ⟨rfl, _⟩ := List.cons_prefix_cons.mp htail
          exact Or.inr ⟨tail, by simp⟩

theorem orRoot_eq {rest : List Char} (h : Rooted '/' rest) : orRoot '/' rest = leadingSlash rest := by
  obtain rfl | ⟨rest, rfl⟩ := h.cases <;> simp [orRoot, leadingSlash]

/-- A prefix that is removed from a path with two slashes behind `x` leaves the slashes only if it
is `x`. -/
theorem leadingSlash_append {t : List Char} (h : leadingSlash (t ++ ['/', '/']) = ['/', '/']) :
    t = [] := by
  unfold leadingSlash at h
  have hlength := congrArg List.length h
  split at hlength
  · simpa using hlength
  · simp at hlength

section Strips
variable {prefixes : List (List Char)} {x : List Char}

/-- What is removed from a path that the first prefix to meet `x` starts. -/
theorem stripFirst_met {pre : List Char} (h : prefixes.find? (meets x) = some pre)
    {rest : List Char} (hrest : Rooted '/' rest) (hstarts : pre <+: x ++ rest) :
    stripFirst prefixes (x ++ rest) = leadingSlash ((x ++ rest).drop pre.length) := by
  obtain ⟨_, before, behind, rfl, hbefore⟩ := List.find?_eq_some_iff_append.mp h
  have hfind : (before ++ pre :: behind).find? (fun pre => pre.isPrefixOf (x ++ rest)) =
      some pre := by
    refine List.find?_eq_some_iff_append.mpr
      ⟨List.isPrefixOf_iff_prefix.mpr hstarts, before, behind, rfl, ?_⟩
    intro earlier hearlier
    have hmeets := hbefore earlier hearlier
    rw [Bool.not_eq_true'] at hmeets ⊢
    rw [← Bool.not_eq_true, meets_iff] at hmeets
    rw [← Bool.not_eq_true, List.isPrefixOf_iff_prefix]
    exact fun hstarts' => hmeets ⟨rest, hrest, hstarts'⟩
  rw [stripFirst, hfind, Option.elim_some]

theorem stripFirst_under (h : prefixes.find? (meets x) = some x) {rest : List Char}
    (hrest : Rooted '/' rest) : stripFirst prefixes (x ++ rest) = leadingSlash rest := by
  rw [stripFirst_met h hrest (List.prefix_append x rest), List.drop_left]

/-- Removing the first prefix leaves the rest behind `x` of every path exactly when `x` is the first
prefix that some of these paths start with. -/
theorem stripFirst_rest_iff (hne : prefixes ≠ [])
    (hslash : ∀ pre ∈ prefixes, pre.head? = some '/') :
    (∀ rest, Rooted '/' rest → x ++ rest ≠ [] → orRoot '/' rest = stripFirst prefixes (x ++ rest)) ↔
      prefixes.find? (meets x) = some x := by
  constructor
  · intro h
    have hslashes := h ['/', '/'] (by simp) (by simp)
    cases hfind : prefixes.find? (meets x) with
    | none =>
      -- no path is changed, so `x` is empty, and then every prefix starts some path
      have hnone : prefixes.find? (fun pre => pre.isPrefixOf (x ++ ['/', '/'])) = none := by
        rw [List.find?_eq_none] at hfind ⊢
        intro pre hpre hstarts
        exact hfind pre hpre
          (meets_iff.mpr ⟨['/', '/'], by simp, List.isPrefixOf_iff_prefix.mp hstarts⟩)
      rw [stripFirst, hnone] at hslashes
      have hx : x = [] := by
        have hlength := congrArg List.length hslashes
        simpa [orRoot] using hlength
      obtain ⟨pre, hpre⟩ := List.exists_mem_of_ne_nil _ hne
      refine absurd (meets_iff.mpr ⟨pre, ?_, ?_⟩) (List.find?_eq_none.mp hfind pre hpre)
      · simp [Rooted, hslash pre hpre]
      · rw [hx, List.nil_append]
    | some pre =>
      have hmeets := List.find?_some hfind
      unfold meets at hmeets
      rw [Bool.or_eq_true, List.isPrefixOf_iff_prefix, List.isPrefixOf_iff_prefix] at hmeets
      obtain ⟨t, rfl⟩ | ⟨t, rfl⟩ := hmeets
      · rw [stripFirst_met hfind (by simp) (List.prefix_append_of_prefix (List.prefix_append pre t)),
          List.append_assoc, List.drop_left] at hslashes
        rw [leadingSlash_append hslashes.symm, List.append_nil]
      · -- the path that is the prefix and a slash is left with the slash alone
        have hlong := h ('/' :: (t ++ ['/'])) (by simp) (by simp)
        have hpath : x ++ '/' :: (t ++ ['/']) = x ++ ['/'] ++ t ++ ['/'] := by simp
        rw [stripFirst_met hfind (by simp) (by rw [hpath]; exact List.prefix_append _ _), hpath,
          List.drop_left] at hlong
        simp [orRoot, leadingSlash] at hlong
  · intro h rest hrest _
    rw [stripFirst_under h hrest, orRoot_eq hrest]

end Strips

variable [DefaultHasher]

theorem BuildsRoute.strips_iff {cfg : Config} {dynConfig : TraefikDynamicConfig}
    {backends : BackendIndex} {routerName : String} {router : Router} {route : HTTPRoute}
    (h : BuildsRoute cfg dynConfig backends routerName router route)
    (hpre : (parse router.rule).HasPrefixOnly) {mw : Middleware} {prefixes : List String}
    (honly : resolvedMiddlewares dynConfig router = [mw])
    (hstrip : strippedPrefixes mw = some prefixes) (hne : prefixes ≠ [])
    (hslash : ∀ pre ∈ prefixes, pre.toList.head? = some '/') :
    (∀ (regex : RegexMatch) (p : RequestPath) (seen : List Char),
        route.Forwards regex p seen → seen = stripFirst (prefixes.map String.toList) p.text) ↔
      (prefixes.map String.toList).find? (meets (parse router.rule).comparedPrefix) =
        some (parse router.rule).comparedPrefix := by
  have hcompared := ParsedRule.comparedPrefix_rooted (parse_rooted h.usable) hpre
  have hforwards : ∀ (regex : RegexMatch) (p : RequestPath) (seen : List Char),
      route.Forwards regex p seen ↔ ∃ rest, Rooted '/' rest ∧
        p.text = (parse router.rule).comparedPrefix ++ rest ∧ seen = orRoot '/' rest := by
    intro regex p seen
    rw [h.forwards_iff hpre honly (translate_stripPrefix hstrip hne) (by simp)]
    rfl
  rw [← stripFirst_rest_iff (by simpa using hne) (by simpa using hslash)]
  constructor
  · intro hstrips rest hrest hpath
    exact hstrips (fun _ _ => True) ⟨_, hcompared.append hrest, hpath⟩ _
      ((hforwards _ _ _).mpr ⟨rest, hrest, rfl, rfl⟩)
  · intro hrest regex p seen hforward
    obtain ⟨rest, hrooted, htext, rfl⟩ := (hforwards regex p seen).mp hforward
    rw [htext]
    exact hrest rest hrooted (by rw [← htext]; exact p.nonempty)

variable [UrlCrate]

/-- With `stripPrefix` alone, backends see the request path without the first prefix it starts with
exactly when the prefix that the rule asks for, without a slash at its end, is the first of the list
that some matching path starts with. -/
theorem strip_prefix_removed (cfg : Config) (dynConfig : TraefikDynamicConfig) (name : String)
    (route : HTTPRoute) (entry : String × Router) (mw : Middleware) (prefixes : List String)
    (hroute : (buildDesired cfg dynConfig).httpRoutes[name]? = some route)
    (hrouter : RouterOf cfg dynConfig name entry)
    (honly : resolvedMiddlewares dynConfig entry.2 = [mw])
    (hstrip : strippedPrefixes mw = some prefixes) (hne : prefixes ≠ [])
    (hslash : ∀ pre ∈ prefixes, pre.toList.head? = some '/')
    (hpre : (parse entry.2.rule).HasPrefixOnly) :
    (∀ (regex : RegexMatch) (p : RequestPath) (seen : List Char),
        route.Forwards regex p seen → seen = stripFirst (prefixes.map String.toList) p.text) ↔
      (prefixes.map String.toList).find? (meets (parse entry.2.rule).comparedPrefix) =
        some (parse entry.2.rule).comparedPrefix :=
  (hrouter.builds hroute).strips_iff hpre honly hstrip hne hslash

def apiStripped : Middleware :=
  .object [("stripPrefix", .object [("prefixes", .array [.string "/api"])])]

omit [DefaultHasher] [UrlCrate] in
theorem apiStripped_prefixes : strippedPrefixes apiStripped = some ["/api"] := by decide

omit [DefaultHasher] [UrlCrate] in
theorem strip_prefix_removed_api : ∃ route : HTTPRoute,
    (@buildDesired sampleHasher sampleUrlCrate sampleConfig
      (pathConfig "Host(`a.b`) && PathPrefix(`/api`)" apiStripped)).httpRoutes["hr-app"]? = some route ∧
    ∀ (regex : RegexMatch) (p : RequestPath) (seen : List Char),
      route.Forwards regex p seen → seen = stripFirst ["/api".toList] p.text := by
  let _ := sampleHasher
  let _ := sampleUrlCrate
  have husable : (parse "Host(`a.b`) && PathPrefix(`/api`)").isUsable = true := by decide
  obtain ⟨route, hrouter, hroute⟩ := pathConfig_router husable apiStripped
  have hpath : (parse "Host(`a.b`) && PathPrefix(`/api`)").path = some ⟨.pathPrefix, "/api"⟩ := by
    decide
  refine ⟨route, hroute, (strip_prefix_removed sampleConfig _ "hr-app" route _ apiStripped ["/api"]
    hroute hrouter (pathConfig_only _ _) apiStripped_prefixes (by decide) (by decide) ?_).mpr ?_⟩
  · intro m hm
    rw [pathRouter, hpath] at hm
    rw [← Option.some.inj hm]
  · simp only [pathRouter, ParsedRule.comparedPrefix, hpath]
    decide

omit [DefaultHasher] [UrlCrate] in
/-- A rule without a path matches no element, and nothing is removed. -/
theorem stripped_prefix_stays :
    ¬ ∀ (cfg : Config) (dynConfig : TraefikDynamicConfig) (name : String) (route : HTTPRoute)
      (entry : String × Router) (mw : Middleware) (prefixes : List String),
      (@buildDesired sampleHasher sampleUrlCrate cfg dynConfig).httpRoutes[name]? = some route →
      @RouterOf sampleHasher sampleUrlCrate cfg dynConfig name entry →
      resolvedMiddlewares dynConfig entry.2 = [mw] → strippedPrefixes mw = some prefixes →
      prefixes ≠ [] → (∀ pre ∈ prefixes, pre.toList.head? = some '/') →
      (parse entry.2.rule).HasPrefixOnly →
        ∀ (regex : RegexMatch) (p : RequestPath) (seen : List Char),
          route.Forwards regex p seen → seen = stripFirst (prefixes.map String.toList) p.text := by
  let _ := sampleHasher
  let _ := sampleUrlCrate
  intro h
  have husable : (parse "Host(`a.b`)").isUsable = true := by decide
  obtain ⟨route, hrouter, hroute⟩ := pathConfig_router husable apiStripped
  have hpath : (parse "Host(`a.b`)").path = none := by decide
  have hpre : (parse "Host(`a.b`)").HasPrefixOnly := by
    intro m hm
    simp [hpath] at hm
  have hstrips := h sampleConfig _ "hr-app" route _ apiStripped ["/api"] hroute hrouter
    (pathConfig_only _ _) apiStripped_prefixes (by decide) (by decide) hpre
  rw [(hrouter.builds hroute).strips_iff hpre (pathConfig_only _ _) apiStripped_prefixes
    (by decide) (by decide)] at hstrips
  simp only [pathRouter, ParsedRule.comparedPrefix, hpath] at hstrips
  revert hstrips
  decide

end PangolinGateway
