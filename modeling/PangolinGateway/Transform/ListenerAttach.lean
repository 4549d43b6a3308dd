import PangolinGateway.Transform.AuthGate

/-! # Routes on the HTTPS listeners of their hosts

A route names its ListenerSet without a section, so it is attached to every listener of its hosts.
One router that asks for TLS opens an HTTPS listener for all routes of its host. -/
namespace PangolinGateway
set_option autoImplicit false

def RouteParentRef.RefersTo (ref : RouteParentRef) (ls : ListenerSet) : Prop :=
  ref.group = some gatewayGroup ∧ ref.kind = some "ListenerSet" ∧
    ls.metadata.name = some ref.name ∧ ls.metadata.ns = ref.ns

/-- A reference without a section name attaches a route to every HTTP/HTTPS listener of the set
whose hostname is among the route's. -/
def Attached (desired : Desired) (route : HTTPRoute) (listener : ListenerSetListener) : Prop :=
  ∃ ref ∈ route.spec.parentRefs.getD [], ∃ (name : String) (ls : ListenerSet),
    desired.listenerSets[name]? = some ls ∧ ref.RefersTo ls ∧ listener ∈ ls.spec.listeners ∧
      (listener.protocol = "HTTP" ∨ listener.protocol = "HTTPS") ∧
      (ref.sectionName = none ∨ ref.sectionName = some listener.name) ∧
      ∃ host ∈ route.spec.hostnames.getD [], listener.hostname = some host

variable [DefaultHasher]

theorem mem_httpsListeners {cfg : Config} {routes : RouteIndex} {listener : ListenerSetListener} :
    listener ∈ httpsListeners cfg routes ↔
      ∃ template, cfg.tlsSecretTemplate = some template ∧ cfg.enableHttpsListeners = true ∧
        ∃ host ∈ routes.httpsHosts, httpsListener cfg template host = listener := by
  unfold httpsListeners
  cases cfg.tlsSecretTemplate with
  | none => simp
  | some template =>
    cases cfg.enableHttpsListeners with
    | false => simp
    | true => simp [Std.ExtTreeSet.mem_toList]

variable [UrlCrate]

theorem httpsHosts_iff {cfg : Config} {dynConfig : TraefikDynamicConfig} {host : String} :
    host ∈ (routesStage cfg dynConfig).1.httpsHosts ↔
      cfg.enableHttpsListeners = true ∧ ∃ routerName router,
        Translated cfg dynConfig routerName router ∧ router.requestsTls = true ∧
          host ∈ (parse router.rule).hosts := by
  rw [routesStage, buildRoutes_httpsHosts]
  apply and_congr_right
  intro _
  constructor
  · rintro ⟨entry, hmem, hroute, htls, hhost⟩
    refine ⟨entry.1, entry.2, ⟨Std.ExtTreeMap.mem_toList_iff_getElem?_eq_some.mp hmem, ?_⟩, htls,
      hhost⟩
    simpa [routeEntry] using hroute
  · rintro ⟨routerName, router, ⟨hrouter, hroute⟩, htls, hhost⟩
    exact ⟨(routerName, router), Std.ExtTreeMap.mem_toList_iff_getElem?_eq_some.mpr hrouter,
      by simpa [routeEntry] using hroute, htls, hhost⟩

theorem l4Listeners_hostname (cfg : Config) (dynConfig : TraefikDynamicConfig) :
    ∀ listener ∈ (tcpStage cfg dynConfig).1 ++ (udpStage cfg dynConfig).1,
      listener.hostname = none := by
  have hfamily : ∀ (block : Option L4Config) (proto : L4Protocol) (enabled : Bool)
      (desired : Desired), ∀ listener ∈ (buildL4Family cfg block proto enabled desired).1,
        listener.hostname = none := by
    intro block proto enabled desired
    unfold buildL4Family
    cases block with
    | none => simp
    | some block =>
      cases enabled with
      | false => simp
      | true => exact buildL4_hostname cfg block proto desired
  intro listener hmem
  rcases List.mem_append.mp hmem with hmem | hmem
  · exact hfamily _ _ _ _ listener hmem
  · exact hfamily _ _ _ _ listener hmem

/-- A route is attached to an HTTPS listener exactly when its reference finds the ListenerSet and one
of its hosts has such a listener. -/
theorem attached_https {cfg : Config} {dynConfig : TraefikDynamicConfig} {routerName : String}
    {router : Router} {route : HTTPRoute}
    (hroute : buildRoute cfg dynConfig (backendIndex cfg dynConfig) routerName router = some route) :
    (∃ listener, Attached (buildDesired cfg dynConfig) route listener ∧
        listener.protocol = "HTTPS") ↔
      dnsLabel cfg.listenerSetName = cfg.listenerSetName ∧ cfg.tlsSecretTemplate.isSome = true ∧
        ∃ host ∈ (parse router.rule).hosts, host ∈ (routesStage cfg dynConfig).1.httpsHosts := by
  have hhostnames := (buildRoute_builds hroute).hostnames
  have hrefs := (buildRoute_builds hroute).parentRefs
  constructor
  · rintro ⟨listener, ⟨ref, href, name, ls, hlookup, hrefers, hlistener, _, _, host, hhost, heq⟩,
      hprotocol⟩
    rw [hrefs, Option.getD_some, List.mem_singleton] at href
    rw [hhostnames, Option.getD_some] at hhost
    subst href
    rw [buildDesired_listenerSets, Std.ExtTreeMap.getElem?_insert] at hlookup
    split at hlookup
    · obtain rfl := Option.some.inj hlookup
      have hname : dnsLabel cfg.listenerSetName = cfg.listenerSetName :=
        Option.some.inj hrefers.2.2.1
      rcases List.mem_append.mp hlistener with hlistener | hl4
      · rcases List.mem_append.mp hlistener with hhttp | hhttps
        · obtain ⟨host', _, rfl⟩ := List.mem_map.mp hhttp
          simp [httpListener] at hprotocol
        · obtain ⟨template, htemplate, _, host', hhost', rfl⟩ := mem_httpsListeners.mp hhttps
          obtain rfl : host' = host := Option.some.inj heq
          exact ⟨hname, by simp [htemplate], host', hhost, hhost'⟩
      · rw [l4Listeners_hostname cfg dynConfig listener hl4] at heq
        simp at heq
    · simp at hlookup
  · rintro ⟨hname, htemplate, host, hhost, hhttps⟩
    obtain ⟨template, htemplate⟩ := Option.isSome_iff_exists.mp htemplate
    have henabled := (httpsHosts_iff.mp hhttps).1
    refine ⟨httpsListener cfg template host, ⟨⟨some gatewayGroup, some "ListenerSet",
      cfg.listenerSetName, some cfg.ns, none⟩, ?_, dnsLabel cfg.listenerSetName,
      listenerSet cfg (routesStage cfg dynConfig).1
        ((tcpStage cfg dynConfig).1 ++ (udpStage cfg dynConfig).1),
      ?_, ⟨rfl, rfl, congrArg some hname, rfl⟩, ?_, Or.inr rfl, Or.inl rfl, host, ?_, rfl⟩, rfl⟩
    · rw [hrefs]
      exact List.mem_cons_self
    · rw [buildDesired_listenerSets, Std.ExtTreeMap.getElem?_insert_self]
    · refine List.mem_append_left _ (List.mem_append_right _ ?_)
      exact mem_httpsListeners.mpr ⟨template, htemplate, henabled, host, hhttps, rfl⟩
    · rwa [hhostnames]

/-! ## Plaintext routers on HTTPS listeners -/

/-- A route is attached to an HTTPS listener only when its own router asked for TLS. -/
def HttpsOnRequest (cfg : Config) (dynConfig : TraefikDynamicConfig) : Prop :=
  ∀ name route, (buildDesired cfg dynConfig).httpRoutes[name]? = some route →
    ∀ listener, Attached (buildDesired cfg dynConfig) route listener →
      listener.protocol = "HTTPS" →
        ∃ entry, RouterOf cfg dynConfig name entry ∧ entry.2.requestsTls = true

/-- The router of some route did not ask for TLS and has a host in common with one that did. -/
def PlainSharesTlsHost (cfg : Config) (dynConfig : TraefikDynamicConfig) : Prop :=
  ∃ name entry, RouterOf cfg dynConfig name entry ∧ entry.2.requestsTls = false ∧
    ∃ routerName router, Translated cfg dynConfig routerName router ∧ router.requestsTls = true ∧
      ∃ host ∈ (parse entry.2.rule).hosts, host ∈ (parse router.rule).hosts

theorem not_httpsOnRequest {cfg : Config} {dynConfig : TraefikDynamicConfig}
    (henabled : cfg.enableHttpsListeners = true) (htemplate : cfg.tlsSecretTemplate.isSome = true)
    (hname : dnsLabel cfg.listenerSetName = cfg.listenerSetName)
    (hshared : PlainSharesTlsHost cfg dynConfig) : ¬HttpsOnRequest cfg dynConfig := by
  obtain ⟨name, entry, hentry, hplain, routerName, router, htrans, htls, host, hhost, hhost'⟩ :=
    hshared
  obtain ⟨route, hroute⟩ := Option.isSome_iff_exists.mp hentry.translated.2
  have hhttps : host ∈ (routesStage cfg dynConfig).1.httpsHosts :=
    httpsHosts_iff.mpr ⟨henabled, routerName, router, htrans, htls, hhost'⟩
  obtain ⟨listener, hattached, hprotocol⟩ :=
    (attached_https hroute).mpr ⟨hname, htemplate, host, hhost, hhttps⟩
  intro h
  obtain ⟨entry', hentry', htls'⟩ :=
    h name route (httpRoutes_routerOf.mpr ⟨entry, hentry, hroute⟩) listener hattached hprotocol
  obtain rfl : entry = entry' := Option.some.inj (hentry.symm.trans hentry')
  simp [hplain] at htls'

/-- Routes stay off the HTTPS listeners they did not ask for exactly when there are none, the routes
miss the ListenerSet, or no plaintext router shares a host with a TLS router. -/
theorem httpsOnRequest_iff (cfg : Config) (dynConfig : TraefikDynamicConfig) :
    HttpsOnRequest cfg dynConfig ↔
      cfg.enableHttpsListeners = false ∨ cfg.tlsSecretTemplate = none ∨
        dnsLabel cfg.listenerSetName ≠ cfg.listenerSetName ∨ ¬PlainSharesTlsHost cfg dynConfig := by
  constructor
  · intro h
    by_contra hno
    simp only [not_or, Bool.not_eq_false, not_not, ← ne_eq, ← Option.isSome_iff_ne_none] at hno
    exact not_httpsOnRequest hno.1 hno.2.1 hno.2.2.1 hno.2.2.2 h
  · intro h name route hlookup listener hattached hprotocol
    obtain ⟨entry, hentry, hroute⟩ := httpRoutes_routerOf.mp hlookup
    refine ⟨entry, hentry, ?_⟩
    obtain ⟨hname, htemplate, host, hhost, hhttps⟩ :=
      (attached_https hroute).mp ⟨listener, hattached, hprotocol⟩
    obtain ⟨henabled, routerName, router, htrans, htls, hhost'⟩ := httpsHosts_iff.mp hhttps
    rcases h with hdisabled | hnone | hmissed | hapart
    · simp [hdisabled] at henabled
    · simp [hnone] at htemplate
    · exact absurd hname hmissed
    · by_contra hplain
      exact hapart ⟨name, entry, hentry, by simpa using hplain, routerName, router, htrans, htls,
        host, hhost, hhost'⟩

omit [DefaultHasher] [UrlCrate] in
/-- The redirect of the sample answers on the HTTPS listener of its host. -/
theorem redirect_on_https :
    ¬@HttpsOnRequest sampleHasher sampleUrlCrate sampleConfig (sampleDynConfig sampleRouters) := by
  let _ := sampleHasher
  let _ := sampleUrlCrate
  apply not_httpsOnRequest rfl rfl (by decide)
  refine ⟨"hr-app-redirect", ("app-redirect", ⟨"Host(`a.b`)", "app", ["redirect"], ["http"], none,
    none⟩), ?_, by decide, "app", _, sample_translated, by decide, "a.b", by decide,
    by decide⟩
  rfl

end PangolinGateway
