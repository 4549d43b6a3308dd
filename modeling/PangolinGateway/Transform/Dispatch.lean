import PangolinGateway.Transform.DataPlane
import PangolinGateway.Transform.ListenerNames
import PangolinGateway.Transform.PortRange
import PangolinGateway.Transform.RuleMeaning

/-! # What a gateway does with the desired set

The meaning of the transform: a request or a connection can reach an upstream through the emitted
objects exactly when a router of the dynamic config sends it to one of the servers that its service
is emitted for. Where several routes match, which one a gateway prefers is left open, as is how it
compares paths. -/
namespace PangolinGateway
set_option autoImplicit false

/-- A request for the host can arrive at the route on this port. -/
def Arrives (d : Desired) (route : HTTPRoute) (protocol : String) (port : ℤ) (host : String) : Prop :=
  ∃ listener, Attached d route listener ∧ listener.protocol = protocol ∧ listener.port = port ∧
    listener.hostname = some host

/-- The route takes the request and has a reference that leads to the upstream. -/
def RouteForwards (d : Desired) (cmp : PathComparison) (protocol : String) (port : ℤ)
    (host path : String) (u : Upstream) (route : HTTPRoute) : Prop :=
  Arrives d route protocol port host ∧ host ∈ route.spec.hostnames.getD [] ∧
    ∃ rule ∈ route.spec.rules.getD [], rule.MatchesBy cmp path ∧
      ∃ ref ∈ rule.backendRefs.getD [], Sends d.entries ref u

/-- Some route of the set forwards the request to the upstream. -/
def Forwards (d : Desired) (cmp : PathComparison) (protocol : String) (port : ℤ)
    (host path : String) (u : Upstream) : Prop :=
  ∃ (name : String) (route : HTTPRoute), d.httpRoutes[name]? = some route ∧
    RouteForwards d cmp protocol port host path u route

/-- The route is attached by name to a listener of its family on this port. -/
def ListensOn (d : Desired) (proto : L4Protocol) (route : (Block.l4 proto).routeKind.Obj) (port : ℤ) :
    Prop :=
  ∃ ref ∈ (Block.l4 proto).routeKind.parentRefs route, ∃ (name : String) (ls : ListenerSet),
    d.listenerSets[name]? = some ls ∧ ref.RefersTo ls ∧ ∃ listener ∈ ls.spec.listeners,
      ref.sectionName = some listener.name ∧ listener.protocol = proto.k8sProtocol ∧
        listener.port = port

/-- Some TCP or UDP route of the set forwards what arrives at the port to the upstream. -/
def ForwardsPort (d : Desired) (proto : L4Protocol) (port : ℤ) (u : Upstream) : Prop :=
  ∃ (name : String) (route : (Block.l4 proto).routeKind.Obj),
    d.find (Block.l4 proto).routeKind name = some route ∧ ListensOn d proto route port ∧
      ∃ ref ∈ (Block.l4 proto).routeKind.backendRefs route, Sends d.entries ref u

/-- The request satisfies the rule of the router, as the controller reads it. -/
def Router.Takes (cmp : PathComparison) (router : Router) (host path : String) : Prop :=
  host ∈ (parse router.rule).hosts ∧ ∀ m, (parse router.rule).path = some m → m.MatchesBy cmp path

variable [DefaultHasher] [UrlCrate]

/-- A listener is opened for the host: an HTTP one for every host, an HTTPS one on request. -/
def Opened (cfg : Config) (dynConfig : TraefikDynamicConfig) (protocol : String) (port : ℤ)
    (host : String) : Prop :=
  (protocol = "HTTP" ∧ port = cfg.httpPort) ∨
    (protocol = "HTTPS" ∧ port = cfg.httpsPort ∧ cfg.enableHttpsListeners = true ∧
      cfg.tlsSecretTemplate.isSome = true ∧ TlsHost cfg dynConfig host)

/-- One of the servers that the service is emitted for is the upstream. In service mode their IP
addresses must all be IPv4, the type of the slice that they are emitted in. -/
def Serves (cfg : Config) (dynConfig : TraefikDynamicConfig) (b : Block) (service : String)
    (u : Upstream) : Prop :=
  FitsSlice cfg (blockServers cfg dynConfig b service) ∧
    ∃ e ∈ blockServers cfg dynConfig b service, e.upstream = u

/-- A listener is opened for the host, and the translated router takes the request, does not redirect
it, and has a service with the upstream among its servers. Routes refer to the ListenerSet by the
name of the configuration, so it must be the label that the set is emitted under. -/
structure ProxiedBy (cfg : Config) (dynConfig : TraefikDynamicConfig) (cmp : PathComparison)
    (protocol : String) (port : ℤ) (host path : String) (u : Upstream) (routerName : String)
    (router : Router) : Prop where
  listenerSet : dnsLabel cfg.listenerSetName = cfg.listenerSetName
  opened : Opened cfg dynConfig protocol port host
  translated : Translated cfg dynConfig routerName router
  takes : router.Takes cmp host path
  proxies : (resolvedMiddlewares dynConfig router).any asksRedirect = false
  serves : Serves cfg dynConfig .http router.service u

def Proxies (cfg : Config) (dynConfig : TraefikDynamicConfig) (cmp : PathComparison)
    (protocol : String) (port : ℤ) (host path : String) (u : Upstream) : Prop :=
  ∃ routerName router, ProxiedBy cfg dynConfig cmp protocol port host path u routerName router

/-- The ListenerSet has the name that routes refer to, and the first router that offers the port has
a service with the upstream among its servers. -/
def ProxiesPort (cfg : Config) (dynConfig : TraefikDynamicConfig) (proto : L4Protocol) (port : ℤ)
    (u : Upstream) : Prop :=
  dnsLabel cfg.listenerSetName = cfg.listenerSetName ∧
    ∃ entry, FirstClaim.First (Offers cfg (l4Block cfg dynConfig proto) proto · port)
        (l4Block cfg dynConfig proto).routers.toList entry ∧
      Serves cfg dynConfig (.l4 proto) entry.2.service u

variable {cfg : Config} {dynConfig : TraefikDynamicConfig}

theorem NamesApart.route_sends (h : NamesApart cfg dynConfig) {b : Block}
    {routerName service : String} {entry : Entry}
    (hroute : RoutesTo cfg dynConfig b routerName service entry) {u : Upstream} :
    (∃ ref ∈ entry.1.backendRefs entry.2, Sends (buildDesired cfg dynConfig).entries ref u) ↔
      ¬Redirecting dynConfig b routerName ∧ Serves cfg dynConfig b service u := by
  obtain ⟨backend, d, hservice, hrefs⟩ := hroute.backendRefs_eq
  rcases hrefs with ⟨hredirects, hnil⟩ | ⟨hproxies, hone⟩
  · simp [hnil, hredirects]
  · rw [hone, Serves, ← h.sends_iff hservice]
    simp [hproxies]

/-! ## HTTP -/

theorem mem_emitted_http {listener : ListenerSetListener} {host protocol : String} {port : ℤ}
    (hprotocol : listener.protocol = protocol) (hport : listener.port = port)
    (hhost : listener.hostname = some host)
    (h : listener ∈ (emittedListenerSet cfg dynConfig).spec.listeners) :
    Opened cfg dynConfig protocol port host := by
  rcases List.mem_append.mp h with h | hl4
  · rcases List.mem_append.mp h with hhttp | hhttps
    · obtain ⟨host', _, rfl⟩ := List.mem_map.mp hhttp
      exact Or.inl ⟨hprotocol.symm, hport.symm⟩
    · obtain ⟨template, htemplate, henabled, host', hhost', rfl⟩ := mem_httpsListeners.mp hhttps
      obtain rfl : host' = host := Option.some.inj hhost
      exact Or.inr ⟨hprotocol.symm, hport.symm, henabled, by rw [htemplate]; rfl,
        (httpsHosts_iff.mp hhost').2⟩
  · rw [l4Listeners_hostname cfg dynConfig listener hl4] at hhost
    simp at hhost

/-- The route of a router is reached through the listeners of its hosts. -/
theorem arrives_iff {routerName : String} {router : Router} {route : HTTPRoute}
    (hrouter : dynConfig.http.routers[routerName]? = some router)
    (hroute : buildRoute cfg dynConfig (backendIndex cfg dynConfig) routerName router = some route)
    {protocol : String} {port : ℤ} {host : String} (hhost : host ∈ (parse router.rule).hosts) :
    Arrives (buildDesired cfg dynConfig) route protocol port host ↔
      dnsLabel cfg.listenerSetName = cfg.listenerSetName ∧
        Opened cfg dynConfig protocol port host := by
  have hbuilds := buildRoute_builds hroute
  constructor
  · rintro ⟨listener, ⟨ref, href, name, ls, hlookup, hrefers, hlistener, -⟩, hprotocol, hport, hname⟩
    obtain ⟨-, rfl⟩ := listenerSets_iff.mp hlookup
    rw [hbuilds.parentRefs, Option.getD_some, List.mem_singleton] at href
    subst href
    exact ⟨Option.some.inj hrefers.2.2.1, mem_emitted_http hprotocol hport hname hlistener⟩
  · rintro ⟨hname, hopened⟩
    have hattached : ∀ listener ∈ (emittedListenerSet cfg dynConfig).spec.listeners,
        (listener.protocol = "HTTP" ∨ listener.protocol = "HTTPS") → listener.hostname = some host →
          Attached (buildDesired cfg dynConfig) route listener := by
      intro listener hlistener hprotocol hlistens
      refine ⟨_, by rw [hbuilds.parentRefs]; exact List.mem_cons_self, _, _,
        listenerSets_iff.mpr ⟨rfl, rfl⟩, ⟨rfl, rfl, congrArg some hname, rfl⟩, hlistener, hprotocol,
        Or.inl rfl, host, by rwa [hbuilds.hostnames], hlistens⟩
    rcases hopened with ⟨rfl, rfl⟩ | ⟨rfl, rfl, henabled, htemplate, htls⟩
    · have hrouted : RoutedHost cfg dynConfig host :=
        ⟨routerName, router, ⟨hrouter, by rw [hroute]; rfl⟩, hhost⟩
      refine ⟨httpListener cfg host, hattached _ ?_ (Or.inl rfl) rfl, rfl, rfl, rfl⟩
      refine List.mem_append_left _ (List.mem_append_left _ (List.mem_map.mpr ⟨host, ?_, rfl⟩))
      exact Std.ExtTreeSet.mem_toList.mpr (hostnames_iff.mpr hrouted)
    · obtain ⟨template, htemplate⟩ := Option.isSome_iff_exists.mp htemplate
      refine ⟨httpsListener cfg template host, hattached _ ?_ (Or.inr rfl) rfl, rfl, rfl, rfl⟩
      refine List.mem_append_left _ (List.mem_append_right _ ?_)
      exact mem_httpsListeners.mpr
        ⟨template, htemplate, henabled, host, httpsHosts_iff.mpr ⟨henabled, htls⟩, rfl⟩

omit [UrlCrate] in
/-- The one rule of a route has its path match and its references. -/
theorem BuildsRoute.rule_iff {backends : BackendIndex} {routerName : String} {router : Router}
    {route : HTTPRoute} (h : BuildsRoute cfg dynConfig backends routerName router route)
    (cmp : PathComparison) (path : String) (P : RouteBackendRef → Prop) :
    (∃ rule ∈ route.spec.rules.getD [], rule.MatchesBy cmp path ∧
        ∃ ref ∈ rule.backendRefs.getD [], P ref) ↔
      (∀ m, (parse router.rule).path = some m → m.MatchesBy cmp path) ∧
        ∃ ref ∈ Kind.httpRoute.backendRefs route, P ref := by
  obtain ⟨backend, _, hrules⟩ := h.rules
  rw [Kind.backendRefs, hrules]
  simp only [Option.getD_some, List.mem_singleton, exists_eq_left, List.flatMap_singleton,
    routeRule_matches]

section
variable {cmp : PathComparison} {protocol host path : String} {port : ℤ} {u : Upstream}

theorem NamesApart.routeForwards_iff (h : NamesApart cfg dynConfig) {routerName : String}
    {router : Router} {route : HTTPRoute}
    (hrouter : dynConfig.http.routers[routerName]? = some router)
    (hroute : buildRoute cfg dynConfig (backendIndex cfg dynConfig) routerName router = some route) :
    RouteForwards (buildDesired cfg dynConfig) cmp protocol port host path u route ↔
      ProxiedBy cfg dynConfig cmp protocol port host path u routerName router := by
  have hbuilds := buildRoute_builds hroute
  have hredirecting : Redirecting dynConfig .http routerName ↔
      (resolvedMiddlewares dynConfig router).any asksRedirect = true := by
    constructor
    · rintro ⟨-, router', hrouter', hredirects⟩
      obtain rfl := Option.some.inj (hrouter.symm.trans hrouter')
      exact hredirects
    · exact fun hredirects => ⟨rfl, router, hrouter, hredirects⟩
  unfold RouteForwards
  rw [hbuilds.hostnames, Option.getD_some, hbuilds.rule_iff cmp path,
    h.route_sends (.http hrouter hroute), hredirecting, Bool.not_eq_true]
  constructor
  · rintro ⟨harrives, hhost, hmatches, hproxies, hserves⟩
    obtain ⟨hname, hopened⟩ := (arrives_iff hrouter hroute hhost).mp harrives
    exact ⟨hname, hopened, ⟨hrouter, by rw [hroute]; rfl⟩, ⟨hhost, hmatches⟩, hproxies, hserves⟩
  · intro hby
    obtain ⟨hhost, hmatches⟩ := hby.takes
    exact ⟨(arrives_iff hrouter hroute hhost).mpr ⟨hby.listenerSet, hby.opened⟩, hhost, hmatches,
      hby.proxies, hby.serves⟩

theorem NamesApart.forwards_iff (h : NamesApart cfg dynConfig) :
    Forwards (buildDesired cfg dynConfig) cmp protocol port host path u ↔
      Proxies cfg dynConfig cmp protocol port host path u := by
  constructor
  · rintro ⟨name, route, hlookup, hforwards⟩
    obtain ⟨routerName, router, hrouter, hroute, -⟩ := httpRoutes_origin hlookup
    exact ⟨routerName, router, (h.routeForwards_iff hrouter hroute).mp hforwards⟩
  · rintro ⟨routerName, router, hby⟩
    obtain ⟨hrouter, hsome⟩ := hby.translated
    obtain ⟨route, hroute⟩ := Option.isSome_iff_exists.mp hsome
    exact ⟨prefixedLabel "hr" routerName, route, h.find_route (.http hrouter hroute),
      (h.routeForwards_iff hrouter hroute).mpr hby⟩

end

/-- A request reaches an upstream through the emitted objects exactly when the dynamic config has it
proxied there. -/
theorem http_dispatch (cfg : Config) (dynConfig : TraefikDynamicConfig)
    (hapart : NamesApart cfg dynConfig) (cmp : PathComparison) (protocol : String) (port : ℤ)
    (host path : String) (u : Upstream) :
    Forwards (buildDesired cfg dynConfig) cmp protocol port host path u ↔
      Proxies cfg dynConfig cmp protocol port host path u :=
  hapart.forwards_iff

/-! ## TCP and UDP -/

/-- The listeners of a family are those of its claims. -/
theorem mem_emitted_l4 {proto : L4Protocol} {listener : ListenerSetListener}
    (hprotocol : listener.protocol = proto.k8sProtocol) :
    listener ∈ (emittedListenerSet cfg dynConfig).spec.listeners ↔
      listener ∈ (finalClaims cfg dynConfig proto).listeners := by
  refine ⟨fun h => ?_, finalClaims_listed cfg dynConfig proto⟩
  rcases List.mem_append.mp h with h | hl4
  · rcases List.mem_append.mp h with hhttp | hhttps
    · obtain ⟨host, _, rfl⟩ := List.mem_map.mp hhttp
      cases proto <;> simp [httpListener, L4Protocol.k8sProtocol] at hprotocol
    · obtain ⟨_, _, _, host, _, rfl⟩ := mem_httpsListeners.mp hhttps
      cases proto <;> simp [httpsListener, L4Protocol.k8sProtocol] at hprotocol
  · rw [tcpStage_writes, udpStage_writes] at hl4
    have hother : ∀ proto', listener ∈ (finalClaims cfg dynConfig proto').listeners →
        proto' = proto := by
      intro proto' hmem
      have hown := (mem_l4Claims hmem).1
      rw [hown] at hprotocol
      cases proto <;> cases proto' <;> first | rfl | simp [l4Listener, L4Protocol.k8sProtocol] at hprotocol
    rcases List.mem_append.mp hl4 with htcp | hudp
    · exact hother .tcp htcp ▸ htcp
    · exact hother .udp hudp ▸ hudp

omit [DefaultHasher] [UrlCrate] in
theorem mem_sections_iff {e : Entry} {section_ : String} :
    section_ ∈ e.sections ↔ ∃ ref ∈ e.1.parentRefs e.2, ref.sectionName = some section_ :=
  List.mem_filterMap

/-- A route listens on the ports that its router was the first to offer. -/
theorem listensOn_iff {proto : L4Protocol} {entry : String × L4Router}
    {route : (Block.l4 proto).routeKind.Obj}
    (hroute : EmitsRoute cfg (l4Block cfg dynConfig proto) proto entry
      ⟨(Block.l4 proto).routeKind, route⟩) {port : ℤ} :
    ListensOn (buildDesired cfg dynConfig) proto route port ↔
      dnsLabel cfg.listenerSetName = cfg.listenerSetName ∧
        FirstClaim.First (Offers cfg (l4Block cfg dynConfig proto) proto · port)
          (l4Block cfg dynConfig proto).routers.toList entry := by
  have hroutes : RoutesTo cfg dynConfig (.l4 proto) entry.1 entry.2.service
      ⟨(Block.l4 proto).routeKind, route⟩ := by
    obtain ⟨claims, hvisit, hentry⟩ := hroute
    exact .l4 hvisit hentry
  constructor
  · rintro ⟨ref, href, name, ls, hlookup, hrefers, listener, hlistener, hsection, hprotocol, rfl⟩
    obtain ⟨-, rfl⟩ := listenerSets_iff.mp hlookup
    have hname := hrefers.2.2.1
    rw [(hroutes.routeOf.parents ref href).2.2.1] at hname
    refine ⟨Option.some.inj hname, ?_⟩
    obtain ⟨hown, first, hfirst⟩ := mem_l4Claims ((mem_emitted_l4 hprotocol).mp hlistener)
    obtain ⟨port, hclaimed, hport⟩ := hroute.sections (mem_sections_iff.mpr ⟨ref, href, hsection⟩)
    -- the listener's name tells its port
    obtain ⟨_, _, hopens, _⟩ := hfirst.holds.2.entrypoint
    obtain ⟨_, _, hopens', _⟩ := hclaimed.holds.2.entrypoint
    obtain ⟨m, hm, hlt⟩ := parseEntrypointPort_range hopens
    obtain ⟨n, rfl, hlt'⟩ := parseEntrypointPort_range hopens'
    rw [hown, hm] at hport
    rw [hm, l4Listener_name_injective hlt hlt' hport]
    exact hclaimed
  · rintro ⟨hname, hfirst⟩
    obtain ⟨e, hemits, hsection⟩ := emitsRoute_of_first hfirst
    obtain rfl := hemits.unique hroute
    obtain ⟨ref, href, hsection⟩ := mem_sections_iff.mp hsection
    obtain ⟨hgroup, hkind, hrefName, hns⟩ := hroutes.routeOf.parents ref href
    obtain ⟨listener, hlistener, hport⟩ := l4Claims_port.mpr ⟨entry, hfirst.holds.1, hfirst.holds.2⟩
    have hown := (mem_l4Claims hlistener).1
    rw [hport] at hown
    have hprotocol : listener.protocol = proto.k8sProtocol := by rw [hown]; rfl
    refine ⟨ref, href, _, _, listenerSets_iff.mpr ⟨rfl, rfl⟩, ⟨hgroup, hkind, ?_, ?_⟩, listener,
      (mem_emitted_l4 hprotocol).mpr hlistener, ?_, hprotocol, hport⟩
    · rw [hrefName]
      exact congrArg some hname
    · rw [hns]
      rfl
    · rw [hsection, hown]

section
variable {proto : L4Protocol} {port : ℤ} {u : Upstream}

theorem NamesApart.proxiesPort (h : NamesApart cfg dynConfig)
    (hforwards : ForwardsPort (buildDesired cfg dynConfig) proto port u) :
    ProxiesPort cfg dynConfig proto port u := by
  obtain ⟨name, route, hfind, hlistens, hsends⟩ := hforwards
  obtain ⟨b, routerName, service, hroutes⟩ :=
    (find_buildDesired_origin hfind).1.of_isRoute (Block.routeKind_isRoute _)
  obtain rfl : b = .l4 proto := Block.routeKind_injective hroutes.routeOf.kind.symm
  have hserves := ((h.route_sends hroutes).mp hsends).2
  generalize hentry : (⟨(Block.l4 proto).routeKind, route⟩ : Entry) = entry at hroutes
  cases hroutes with
  | @l4 _ claims _ router _ hvisit hroute =>
    have hemits : EmitsRoute cfg (l4Block cfg dynConfig proto) proto (routerName, router)
        ⟨(Block.l4 proto).routeKind, route⟩ := ⟨claims, hvisit, hentry ▸ hroute⟩
    obtain ⟨hname, hfirst⟩ := (listensOn_iff hemits).mp hlistens
    exact ⟨hname, _, hfirst, hserves⟩

theorem NamesApart.forwardsPort (h : NamesApart cfg dynConfig)
    (hproxies : ProxiesPort cfg dynConfig proto port u) :
    ForwardsPort (buildDesired cfg dynConfig) proto port u := by
  obtain ⟨hname, entry, hfirst, hserves⟩ := hproxies
  obtain ⟨⟨k, route⟩, hemits, -⟩ := emitsRoute_of_first hfirst
  have hroutes : RoutesTo cfg dynConfig (.l4 proto) entry.1 entry.2.service ⟨k, route⟩ := by
    obtain ⟨claims, hvisit, hentry⟩ := hemits
    exact .l4 hvisit hentry
  obtain rfl : k = (Block.l4 proto).routeKind := hroutes.routeOf.kind
  refine ⟨_, route, h.find_route hroutes, (listensOn_iff hemits).mpr ⟨hname, hfirst⟩, ?_⟩
  refine (h.route_sends hroutes).mpr ⟨?_, hserves⟩
  rintro ⟨hblock, -⟩
  cases hblock

end

/-- What arrives at a TCP or UDP port reaches an upstream through the emitted objects exactly when
the first router that offers the port is for a service with that upstream. -/
theorem l4_dispatch (cfg : Config) (dynConfig : TraefikDynamicConfig)
    (hapart : NamesApart cfg dynConfig) (proto : L4Protocol) (port : ℤ) (u : Upstream) :
    ForwardsPort (buildDesired cfg dynConfig) proto port u ↔
      ProxiesPort cfg dynConfig proto port u :=
  ⟨hapart.proxiesPort, hapart.forwardsPort⟩

/-! ## A web application and a raw port -/

/-- The server of the web application, and where pangolin is asked about its sessions. -/
@[reducible] def dispatchUrlCrate : UrlCrate where
  parse s :=
    if s = "http://10.0.0.7:8080" then
      some ⟨"http://10.0.0.7:8080/", "http", some "10.0.0.7", some 8080⟩
    else if s = "http://pangolin:3001/api/v1/badger/verify-session" then
      some ⟨"http://pangolin:3001/api/v1/badger/verify-session", "http", some "pangolin", some 3001⟩
    else none
  formUrlencodedParse _ := []
  formUrlencodedSerialize _ := ""

def webRouter : Router := ⟨"Host(`a.b`)", "app", ["badger"], ["https"], none, none⟩

def rawRouter : L4Router := ⟨none, "raw", ["tcp-9000"], none⟩

def dispatchConfig : TraefikDynamicConfig where
  http := (sampleDynConfig [("app", webRouter)]).http
  tcp := some ⟨Std.ExtTreeMap.ofList [("raw", rawRouter)],
    Std.ExtTreeMap.ofList [("raw", rawService "10.0.0.8:9000")]⟩
  udp := none

omit [DefaultHasher] [UrlCrate] in
/-- The one service of each block. -/
theorem dispatch_synthesises {b : Block} {name : String} {k : Kind}
    (h : @SynthesisesKind sampleHasher dispatchUrlCrate sampleConfig dispatchConfig b name k) :
    (b = .http ∧ name = "app") ∨ (b = .l4 .tcp ∧ name = "raw") := by
  obtain ⟨obj, backend, d, hservice, -⟩ := h
  cases b with
  | http =>
    obtain ⟨svc, hsvc, -⟩ := Option.bind_eq_some_iff.mp hservice
    have hmem := Std.ExtTreeMap.mem_toList_iff_getElem?_eq_some.mpr hsvc
    rw [show dispatchConfig.http.services.toList = sampleServices by rfl, sampleServices,
      List.mem_singleton] at hmem
    exact Or.inl ⟨rfl, congrArg Prod.fst hmem⟩
  | l4 proto =>
    obtain ⟨svc, hsvc, -⟩ := Option.bind_eq_some_iff.mp hservice
    cases proto with
    | tcp =>
      have hmem := Std.ExtTreeMap.mem_toList_iff_getElem?_eq_some.mpr hsvc
      rw [show (l4Block sampleConfig dispatchConfig .tcp).services.toList =
        [("raw", rawService "10.0.0.8:9000")] by rfl, List.mem_singleton] at hmem
      exact Or.inr ⟨rfl, congrArg Prod.fst hmem⟩
    | udp => simp [l4Block, dispatchConfig, sampleConfig] at hsvc

omit [DefaultHasher] [UrlCrate] in
theorem dispatch_routed {b : Block} {name : String}
    (h : @Routed sampleHasher dispatchUrlCrate sampleConfig dispatchConfig b name) :
    name = if b = .http then "app" else "raw" := by
  let _ := sampleHasher
  let _ := dispatchUrlCrate
  obtain ⟨service, entry, hroute⟩ := h
  cases hroute with
  | http hrouter _ =>
    have hmem := Std.ExtTreeMap.mem_toList_iff_getElem?_eq_some.mpr hrouter
    rw [show dispatchConfig.http.routers.toList = [("app", webRouter)] by rfl,
      List.mem_singleton] at hmem
    exact congrArg Prod.fst hmem
  | @l4 proto _ _ router _ hvisit _ =>
    obtain ⟨front, back, hsplit, -⟩ := WriteLog.mem_visits.mp hvisit
    cases proto with
    | tcp =>
      rw [show (l4Block sampleConfig dispatchConfig .tcp).routers.toList = [("raw", rawRouter)] by rfl]
        at hsplit
      have hmem : (name, router) ∈ [("raw", rawRouter)] := by
        rw [hsplit]
        exact List.mem_append_right _ List.mem_cons_self
      exact congrArg Prod.fst (List.mem_singleton.mp hmem)
    | udp =>
      rw [show (l4Block sampleConfig dispatchConfig .udp).routers.toList = [] by rfl] at hsplit
      simp at hsplit

omit [DefaultHasher] [UrlCrate] in
theorem dispatch_apart :
    @NamesApart sampleHasher dispatchUrlCrate sampleConfig dispatchConfig := by
  let _ := sampleHasher
  let _ := dispatchUrlCrate
  constructor
  · intro b name name' h h' hne
    exact absurd ((dispatch_routed h).trans (dispatch_routed h').symm) hne
  · intro k b name b' name' h h' hne hclash
    have hapart : ∀ k, ¬ServiceClash k .http "app" (.l4 .tcp) "raw" ∧
        ¬ServiceClash k (.l4 .tcp) "raw" .http "app" := by
      intro k
      constructor <;> rintro ⟨base, hbase, hclash⟩ <;> cases k <;>
        simp only [Kind.backendPrefix, Option.some.injEq, reduceCtorEq] at hbase <;> subst hbase <;>
        revert hclash <;> decide
    rcases dispatch_synthesises h with ⟨rfl, rfl⟩ | ⟨rfl, rfl⟩ <;>
      rcases dispatch_synthesises h' with ⟨rfl, rfl⟩ | ⟨rfl, rfl⟩
    · exact hne rfl
    · exact (hapart k).1 hclash
    · exact (hapart k).2 hclash
    · exact hne rfl

omit [DefaultHasher] [UrlCrate] in
theorem dispatch_serves :
    @Serves dispatchUrlCrate sampleConfig dispatchConfig .http "app" (.address "10.0.0.7" 8080) ∧
      @Serves dispatchUrlCrate sampleConfig dispatchConfig (.l4 .tcp) "raw"
        (.address "10.0.0.8" 9000) := by
  let _ := dispatchUrlCrate
  have hserves : ∀ (b : Block) (service : String) (ip : Vector ℕ 4) (u : Upstream),
      (blockServers sampleConfig dispatchConfig b service).map (fun e => (e.ip, e.upstream)) =
        [(some (.v4 ip), u)] → Serves sampleConfig dispatchConfig b service u := by
    intro b service ip u hservers
    obtain ⟨e, he, hpair⟩ := List.map_eq_singleton_iff.mp hservers
    obtain ⟨hip, hupstream⟩ := Prod.mk.inj hpair
    rw [Serves, he]
    refine ⟨fun _ e' he' ip' hip' => ?_, e, List.mem_singleton_self _, hupstream⟩
    rw [List.mem_singleton.mp he', hip] at hip'
    rw [← Option.some.inj hip']
    rfl
  exact ⟨hserves .http "app" #v[10, 0, 0, 7] _ (by decide),
    hserves (.l4 .tcp) "raw" #v[10, 0, 0, 8] _ (by decide)⟩

omit [DefaultHasher] [UrlCrate] in
/-- The host asks for TLS, so its requests arrive on the HTTPS port. -/
theorem dispatch_proxiedBy (path : String) :
    @ProxiedBy sampleHasher dispatchUrlCrate sampleConfig dispatchConfig
      (byElements fun _ _ => False) "HTTPS" 443 "a.b" path (.address "10.0.0.7" 8080) "app" webRouter := by
  let _ := sampleHasher
  let _ := dispatchUrlCrate
  have htranslated : Translated sampleConfig dispatchConfig "app" webRouter := ⟨by rfl, by decide⟩
  refine ⟨by decide,
    Or.inr ⟨rfl, rfl, rfl, rfl, "app", webRouter, htranslated, by decide, by decide⟩, htranslated,
    ⟨by decide, ?_⟩, by decide, dispatch_serves.1⟩
  intro m hm
  rw [show (parse webRouter.rule).path = none by decide] at hm
  simp at hm

omit [DefaultHasher] [UrlCrate] in
theorem dispatch_proxiesPort :
    @ProxiesPort sampleHasher dispatchUrlCrate sampleConfig dispatchConfig .tcp 9000
      (.address "10.0.0.8" 9000) := by
  let _ := sampleHasher
  let _ := dispatchUrlCrate
  refine ⟨by decide, ("raw", rawRouter), ⟨[], [], by rfl, ⟨by decide, ?_, ?_⟩, by simp⟩,
    dispatch_serves.2⟩
  · exact (@l4Index_isSome _ _ _ .tcp _).mp (by decide)
  · exact ⟨"tcp-9000", List.mem_singleton_self _, by decide, by decide⟩

omit [DefaultHasher] [UrlCrate] in
theorem http_dispatch_sample :
    Forwards (@buildDesired sampleHasher dispatchUrlCrate sampleConfig dispatchConfig)
      (byElements fun _ _ => False) "HTTPS" 443 "a.b" "/" (.address "10.0.0.7" 8080) := by
  let _ := sampleHasher
  let _ := dispatchUrlCrate
  exact (http_dispatch sampleConfig dispatchConfig dispatch_apart _ _ _ _ _ _).mpr
    ⟨"app", webRouter, dispatch_proxiedBy "/"⟩

omit [DefaultHasher] [UrlCrate] in
theorem l4_dispatch_sample :
    ForwardsPort (@buildDesired sampleHasher dispatchUrlCrate sampleConfig dispatchConfig) .tcp 9000
      (.address "10.0.0.8" 9000) := by
  let _ := sampleHasher
  let _ := dispatchUrlCrate
  exact (l4_dispatch sampleConfig dispatchConfig dispatch_apart _ _ _).mpr dispatch_proxiesPort

end PangolinGateway
