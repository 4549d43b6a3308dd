import PangolinGateway.Transform.AddressFamily
import PangolinGateway.Transform.BackendTls
import PangolinGateway.Transform.LastWrites
import PangolinGateway.Transform.RedirectOnly

/-! # The ports of what is built

A port comes from a server, through either parser, and reaches up to four objects, or from the
ext-authz settings. Both parsers keep it below 65536 and let zero through. -/
namespace PangolinGateway
set_option autoImplicit false

/-! ## The ports of an object -/

def Service.ports (svc : Service) : List ℤ :=
  ((svc.spec.bind ServiceSpec.ports).getD []).flatMap fun port => port.port :: port.targetPort.toList

def EndpointSlice.portNumbers (slice : EndpointSlice) : List ℤ :=
  (slice.ports.getD []).filterMap EndpointPort.port

def BackendEndpoint.ports (endpoint : BackendEndpoint) : List ℤ :=
  (endpoint.ip.map BackendIp.port).toList ++ (endpoint.fqdn.map BackendFqdn.port).toList

def SecurityPolicy.ports (sp : SecurityPolicy) : List ℤ :=
  (sp.spec.extAuth.bind ExtAuth.http).elim [] fun http => http.backendRefs.filterMap ExtAuthBackendRef.port

/-- The ports of a Service, an EndpointSlice and the endpoints of a Backend, and those of the
backend references of a route and of a policy. -/
def Kind.ports : (k : Kind) → k.Obj → List ℤ
  | .service, svc => svc.ports
  | .endpointSlice, slice => slice.portNumbers
  | .envoyBackend, be => be.spec.endpoints.flatMap BackendEndpoint.ports
  | .securityPolicy, sp => sp.ports
  | k, obj => (k.backendRefs obj).filterMap RouteBackendRef.port

def InRange (port : ℤ) : Prop := 1 ≤ port ∧ port ≤ 65535

def PortsInRange (desired : Desired) : Prop :=
  ∀ (k : Kind) (name : String) (obj : k.Obj), desired.find k name = some obj →
    ∀ port ∈ k.ports obj, InRange port

/-! ## The ports that are parsed -/

theorem parseUrlServer_port [UrlCrate] {server : LoadBalancerServer} {e : HostPort}
    (h : parseUrlServer server = some e) : 0 ≤ e.port ∧ e.port ≤ 65535 := by
  unfold parseUrlServer at h
  obtain ⟨url, _, h⟩ := Option.bind_eq_some_iff.mp h
  obtain ⟨host, _, h⟩ := Option.bind_eq_some_iff.mp h
  obtain ⟨port, _, h⟩ := Option.bind_eq_some_iff.mp h
  have hbound := port.toNat_lt
  rw [← Option.some.inj h]
  simp only
  omega

theorem parseL4Address_port {address : String} {e : HostPort}
    (h : parseL4Address address = some e) : 0 ≤ e.port ∧ e.port ≤ 65535 := by
  obtain ⟨host, port, n, _, hport, _, rfl⟩ := parseL4Address_iff.mp h
  have hbound : n ≤ 65535 := by
    rcases parseU16_iff.mp hport with hdecimal | ⟨_, _, hdecimal⟩
    · exact hdecimal.bound
    · exact hdecimal.bound
  simp only
  omega

theorem blockServers_port [UrlCrate] {cfg : Config} {dynConfig : TraefikDynamicConfig} {b : Block}
    {name : String} {e : HostPort} (h : e ∈ blockServers cfg dynConfig b name) :
    0 ≤ e.port ∧ e.port ≤ 65535 := by
  rcases mem_blockTargets (selected_subset h) with ⟨server, hparse⟩ | ⟨address, hparse⟩
  · exact parseUrlServer_port hparse
  · exact parseL4Address_port hparse

/-! ## What one service is emitted with -/

section Emitters
variable [DefaultHasher]

/-- Apart from TLS policies, which have no port, every object has this port and no other. -/
def AllAt (port : ℤ) (entries : List Entry) : Prop :=
  ∀ entry ∈ entries, entry.1 ≠ .backendTlsPolicy → ∀ p, p ∈ entry.1.ports entry.2 ↔ p = port

/-- The service resolves to this port, and all its objects are at it. -/
structure MadeAt (port : ℤ) (made : ResolvedBackend × Desired) : Prop where
  backend : made.1.port = port
  objects : AllAt port made.2.entries

omit [DefaultHasher] in
theorem allAt_nil (port : ℤ) : AllAt port [] := by
  intro entry hentry
  cases hentry

theorem allAt_policies {cfg : Config} {pangName infx : String} {policies : List Entry}
    (h : TlsPolicies cfg pangName infx policies) (port : ℤ) : AllAt port policies := by
  rcases h with rfl | ⟨policy, _, rfl⟩
  · exact allAt_nil port
  · intro entry hentry hkind
    rw [List.mem_singleton.mp hentry] at hkind
    exact absurd rfl hkind

theorem emitEnvoyBackend_madeAt (cfg : Config) (pangName : String) {endpoints : List BackendEndpoint}
    {port : ℤ} (infx : String) (tls : Option BackendTlsSettings) (hne : endpoints ≠ [])
    (hports : ∀ endpoint ∈ endpoints, endpoint.ports = [port]) :
    MadeAt port (emitEnvoyBackend cfg pangName endpoints port infx tls .empty) := by
  refine ⟨rfl, ?_⟩
  intro entry hentry _ p
  obtain ⟨endpoint, hendpoint⟩ := List.exists_mem_of_ne_nil endpoints hne
  rw [List.mem_singleton.mp hentry]
  change p ∈ endpoints.flatMap BackendEndpoint.ports ↔ p = port
  rw [List.mem_flatMap]
  constructor
  · rintro ⟨other, hother, hp⟩
    rw [hports other hother] at hp
    exact List.mem_singleton.mp hp
  · rintro rfl
    exact ⟨endpoint, hendpoint, by rw [hports endpoint hendpoint]; exact List.mem_singleton_self _⟩

theorem emitIpBackend_madeAt (cfg : Config) (pangName : String) {ips : List Str.IpAddr} (hne : ips ≠ [])
    (port : ℤ) (infx protocol : String) (tls : Option Bool) :
    MadeAt port (emitIpBackend cfg pangName ips port infx protocol tls .empty) := by
  unfold emitIpBackend
  cases cfg.backendKind with
  | envoyBackend =>
    apply emitEnvoyBackend_madeAt
    · simpa using hne
    · intro endpoint hendpoint
      obtain ⟨ip, _, rfl⟩ := List.mem_map.mp hendpoint
      rfl
  | service =>
    have hpair : ∀ (svc : Service) (slice : EndpointSlice) (policies : List Entry),
        svc.ports = [port, port] → slice.portNumbers = [port] →
        TlsPolicies cfg pangName infx policies →
        AllAt port (⟨.service, svc⟩ :: ⟨.endpointSlice, slice⟩ :: policies) := by
      intro svc slice policies hsvc hslice hpolicies entry hentry hkind p
      rcases List.mem_cons.mp hentry with rfl | hentry
      · simp [Kind.ports, hsvc]
      · rcases List.mem_cons.mp hentry with rfl | hentry
        · simp [Kind.ports, hslice]
        · exact allAt_policies hpolicies port entry hentry hkind p
    cases tls with
    | none => exact ⟨rfl, hpair _ _ [] rfl rfl (Or.inl rfl)⟩
    | some skipVerify =>
      cases ips with
      | nil => exact absurd rfl hne
      | cons ip ips => exact ⟨rfl, hpair _ _ _ rfl rfl (Or.inr ⟨_, rfl, rfl⟩)⟩

theorem emitFqdnBackend_madeAt (cfg : Config) (pangName hostname : String) (port : ℤ) (infx : String)
    (tls : Option Bool) :
    MadeAt port (emitFqdnBackend cfg pangName hostname port infx tls .empty) := by
  apply emitEnvoyBackend_madeAt
  · simp
  · intro endpoint hendpoint
    rw [List.mem_singleton.mp hendpoint]
    rfl

theorem emitClusterDnsBackend_madeAt (cfg : Config) (pangName service ns : String) (port : ℤ)
    (infx : String) (tls : Option Bool) :
    MadeAt port (emitClusterDnsBackend cfg pangName service ns port infx tls .empty) := by
  unfold emitClusterDnsBackend
  cases tls with
  | none => exact ⟨rfl, allAt_nil port⟩
  | some skipVerify =>
    cases cfg.backendKind with
    | envoyBackend => exact emitFqdnBackend_madeAt cfg pangName _ port infx _
    | service =>
      simp only
      split
      · exact ⟨rfl, allAt_policies (emitBackendTlsPolicy_policies cfg pangName infx _ _) port⟩
      · exact ⟨rfl, allAt_nil port⟩

variable [UrlCrate]

/-- The selected servers of a service share one port, and whatever is made for it is at that port. -/
theorem serviceBackend_madeAt {cfg : Config} {dynConfig : TraefikDynamicConfig} {b : Block}
    {name : String} {made : ResolvedBackend × Desired}
    (h : serviceBackend cfg dynConfig b name = some made) :
    blockServers cfg dynConfig b name ≠ [] ∧
      ∃ port, (∀ e ∈ blockServers cfg dynConfig b name, e.port = port) ∧ MadeAt port made := by
  obtain ⟨c, hc, hemit⟩ := serviceBackend_of h
  cases c with
  | empty => cases hemit
  | ips addresses port tls =>
    obtain rfl := Option.some.inj hemit
    obtain ⟨hne, haddresses, hports⟩ := hc
    have hips : addresses ≠ [] := by
      rintro rfl
      exact hne (List.map_eq_nil_iff.mp haddresses)
    exact ⟨hne, port, fun e he => (hports e he).1, emitIpBackend_madeAt cfg name hips port _ _ _⟩
  | fqdn hostname port tls =>
    obtain rfl := Option.some.inj hemit
    obtain ⟨e, hservers, _, _, hport, _⟩ := hc
    rw [hservers]
    refine ⟨by simp, port, ?_, emitFqdnBackend_madeAt cfg name hostname port _ _⟩
    intro e' he'
    rw [List.mem_singleton.mp he', hport]
  | clusterDns service ns port tls =>
    obtain rfl := Option.some.inj hemit
    obtain ⟨e, hservers, _, hport, _⟩ := hc
    rw [hservers]
    refine ⟨by simp, port, ?_, emitClusterDnsBackend_madeAt cfg name service ns port _ _⟩
    intro e' he'
    rw [List.mem_singleton.mp he', hport]

end Emitters

/-! ## What is left with a port -/

variable [DefaultHasher] [UrlCrate]

/-- The ports of an object made for a service are those of the servers it was made for. -/
theorem Synthesises.port_iff {cfg : Config} {dynConfig : TraefikDynamicConfig} {b : Block}
    {name : String} {k : Kind} {obj : k.Obj} (h : Synthesises cfg dynConfig b name ⟨k, obj⟩)
    (hk : k ≠ .backendTlsPolicy) {p : ℤ} :
    p ∈ k.ports obj ↔ ∃ e ∈ blockServers cfg dynConfig b name, e.port = p := by
  obtain ⟨backend, d, hservice, hmem⟩ := h
  obtain ⟨hne, port, hports, hmade⟩ := serviceBackend_madeAt hservice
  obtain ⟨first, hfirst⟩ := List.exists_mem_of_ne_nil _ hne
  rw [hmade.objects _ hmem hk]
  constructor
  · rintro rfl
    exact ⟨first, hfirst, hports first hfirst⟩
  · rintro ⟨e, he, rfl⟩
    exact hports e he

omit [DefaultHasher] [UrlCrate] in
theorem routeRule_backendRefs (parsed : ParsedRule) (filters : List HttpRouteFilter)
    (backend : ResolvedBackend) (h : ∀ f ∈ filters, f.type ≠ .requestRedirect) :
    (routeRule parsed filters backend).backendRefs = some [backend.ref] := by
  have hnone : filters.any (·.type == .requestRedirect) = false := by simpa using h
  simp [routeRule, hnone, thenSome, ResolvedBackend.ref]

/-- The router redirects, so that its route has no backend. -/
def Redirecting (dynConfig : TraefikDynamicConfig) (b : Block) (routerName : String) : Prop :=
  b = .http ∧ ∃ router, dynConfig.http.routers[routerName]? = some router ∧
    (resolvedMiddlewares dynConfig router).any asksRedirect = true

theorem RoutesTo.backendRefs_eq {cfg : Config} {dynConfig : TraefikDynamicConfig} {b : Block}
    {routerName service : String} {entry : Entry}
    (h : RoutesTo cfg dynConfig b routerName service entry) :
    ∃ backend d, serviceBackend cfg dynConfig b service = some (backend, d) ∧
      ((Redirecting dynConfig b routerName ∧ entry.1.backendRefs entry.2 = []) ∨
        (¬Redirecting dynConfig b routerName ∧ entry.1.backendRefs entry.2 = [backend.ref])) := by
  cases h with
  | @http _ router route hrouter hroute =>
    obtain ⟨backend, hbackend, hrules⟩ := (buildRoute_builds hroute).rules
    have hindex : (blockIndex cfg dynConfig .http)[router.service]? = some backend := hbackend
    obtain ⟨d, hservice⟩ := blockIndex_iff.mp hindex
    refine ⟨backend, d, hservice, ?_⟩
    rw [buildFilters_resolved] at hrules
    have hredirects : Redirecting dynConfig .http routerName ↔
        (resolvedMiddlewares dynConfig router).any asksRedirect = true := by
      simp [Redirecting, hrouter]
    simp only [Kind.backendRefs, hrules, Option.getD_some, List.flatMap_singleton]
    rw [hredirects, ← exists_merged_redirect]
    by_cases hany : ∃ f ∈ mergeFilters ((resolvedMiddlewares dynConfig router).flatMap translate),
        f.type = .requestRedirect
    · obtain ⟨f, hf, htype⟩ := hany
      exact Or.inl ⟨⟨f, hf, htype⟩, routeRule_noBackend _ _ backend hf htype⟩
    · refine Or.inr ⟨hany, ?_⟩
      rw [routeRule_backendRefs _ _ backend fun f hf htype => hany ⟨f, hf, htype⟩]
      rfl
  | @l4 proto claims _ router _ hvisit hroute =>
    obtain ⟨_, _, backend, hbackend, rfl⟩ := l4RouteEntry_some hroute
    obtain ⟨d, hservice⟩ := blockIndex_iff.mp hbackend
    refine ⟨backend, d, hservice, Or.inr ⟨?_, (l4Route_route _ _ _ _ _).2.2.2.2.1⟩⟩
    rintro ⟨hblock, _⟩
    cases hblock

/-- A route has the ports of the servers of its service, or none when it redirects. -/
theorem RoutesTo.port_iff {cfg : Config} {dynConfig : TraefikDynamicConfig} {b : Block}
    {routerName service : String} {route : b.routeKind.Obj}
    (h : RoutesTo cfg dynConfig b routerName service ⟨b.routeKind, route⟩) {p : ℤ} :
    p ∈ b.routeKind.ports route ↔ ¬Redirecting dynConfig b routerName ∧
      ∃ e ∈ blockServers cfg dynConfig b service, e.port = p := by
  obtain ⟨backend, d, hservice, hrefs⟩ := h.backendRefs_eq
  obtain ⟨hne, port, hports, hmade⟩ := serviceBackend_madeAt hservice
  obtain ⟨first, hfirst⟩ := List.exists_mem_of_ne_nil _ hne
  have hbackend : backend.port = port := hmade.backend
  have hroute : b.routeKind.ports route =
      (b.routeKind.backendRefs route).filterMap RouteBackendRef.port := by
    rcases b with _ | _ | _ <;> rfl
  rw [hroute]
  rcases hrefs with ⟨hredirects, hnone⟩ | ⟨hproxies, hself⟩
  · rw [show b.routeKind.backendRefs route = [] from hnone]
    simp [hredirects]
  · rw [show b.routeKind.backendRefs route = [backend.ref] from hself]
    simp only [List.filterMap_cons, List.filterMap_nil, ResolvedBackend.ref, List.mem_singleton,
      hbackend]
    constructor
    · rintro rfl
      exact ⟨hproxies, first, hfirst, hports first hfirst⟩
    · rintro ⟨_, e, he, rfl⟩
      exact hports e he

omit [UrlCrate] in
theorem policy_port_iff {cfg : Config} {ea : ExtAuthzConfig} {routeName : String} {p : ℤ} :
    p ∈ (buildSecurityPolicy cfg ea routeName).ports ↔ p = ea.port :=
  List.mem_singleton

/-- The router of the block is translated to a route for this service. -/
def TranslatedTo (cfg : Config) (dynConfig : TraefikDynamicConfig) (b : Block)
    (routerName service : String) : Prop :=
  ∃ entry, RoutesTo cfg dynConfig b routerName service entry

/-- Port zero is nowhere left, and policies are built with a port that is one. -/
structure PortsUsable (cfg : Config) (dynConfig : TraefikDynamicConfig) : Prop where
  services : ∀ b name k, k ≠ .backendTlsPolicy → SynthesisesKind cfg dynConfig b name k →
    KeepsObject cfg dynConfig b name k → ∀ e ∈ blockServers cfg dynConfig b name, e.port ≠ 0
  routes : ∀ b routerName service, TranslatedTo cfg dynConfig b routerName service →
    ¬Redirecting dynConfig b routerName → KeepsRoute cfg dynConfig b routerName →
      ∀ e ∈ blockServers cfg dynConfig b service, e.port ≠ 0
  auth : ∀ ea routerName router, cfg.extAuthz = some ea →
    Translated cfg dynConfig routerName router → NeedsAuth dynConfig router → InRange ea.port

omit [DefaultHasher] in
theorem inRange_of_server {cfg : Config} {dynConfig : TraefikDynamicConfig} {b : Block}
    {name : String} {e : HostPort} (he : e ∈ blockServers cfg dynConfig b name)
    (hport : e.port ≠ 0) : InRange e.port := by
  have hbounds := blockServers_port he
  unfold InRange
  omega

theorem portsUsable_of_inRange {cfg : Config} {dynConfig : TraefikDynamicConfig}
    (h : PortsInRange (buildDesired cfg dynConfig)) : PortsUsable cfg dynConfig := by
  have hnonzero : ∀ {p : ℤ}, InRange p → p ≠ 0 := by
    intro p hp hzero
    have hlow := hp.1
    omega
  constructor
  · rintro b name k hk ⟨obj, hmade⟩ hkeeps e he
    obtain ⟨base, _, hbase, _⟩ := hmade.named
    obtain ⟨objName, hfind⟩ := (find_object_iff hbase).mpr ⟨b, name, hmade, hkeeps⟩
    exact hnonzero (h k objName obj hfind e.port ((hmade.port_iff hk).mpr ⟨e, he, rfl⟩))
  · rintro b routerName service ⟨⟨k, route⟩, hroute⟩ hproxies hkeeps e he
    obtain rfl : k = b.routeKind := hroute.routeOf.kind
    obtain ⟨routeName, hfind⟩ := find_route_iff.mpr ⟨routerName, service, hroute, hkeeps⟩
    exact hnonzero (h _ routeName route hfind e.port (hroute.port_iff.mpr ⟨hproxies, e, he, rfl⟩))
  · intro ea routerName router hea htrans hauth
    obtain ⟨sp, hfind⟩ := securityPolicies_of_protected hea htrans hauth
    obtain ⟨_, _, ea', _, _, hea', rfl, _⟩ := securityPolicies_origin hfind
    obtain rfl : ea = ea' := Option.some.inj (hea.symm.trans hea')
    exact h .securityPolicy _ _ hfind ea.port (policy_port_iff.mpr rfl)

theorem inRange_of_portsUsable {cfg : Config} {dynConfig : TraefikDynamicConfig}
    (h : PortsUsable cfg dynConfig) : PortsInRange (buildDesired cfg dynConfig) := by
  intro k name obj hfind port hport
  have hobject : ∀ base, k.backendPrefix = some base → k ≠ .backendTlsPolicy → InRange port := by
    intro base hbase hk
    obtain ⟨b, pangName, hmade, hkeeps⟩ := (find_object_iff hbase).mp ⟨name, hfind⟩
    obtain ⟨e, he, rfl⟩ := (hmade.port_iff hk).mp hport
    exact inRange_of_server he (h.services b pangName k hk ⟨obj, hmade⟩ hkeeps e he)
  have hroute : ∀ b : Block, b.routeKind = k → InRange port := by
    rintro b rfl
    obtain ⟨routerName, service, hroute, hkeeps⟩ := find_route_iff.mp ⟨name, hfind⟩
    obtain ⟨hproxies, e, he, rfl⟩ := hroute.port_iff.mp hport
    exact inRange_of_server he (h.routes b routerName service ⟨_, hroute⟩ hproxies hkeeps e he)
  cases k with
  | service => exact hobject "svc" rfl (by decide)
  | endpointSlice => exact hobject "eps" rfl (by decide)
  | envoyBackend => exact hobject "be" rfl (by decide)
  | backendTlsPolicy => cases hport
  | listenerSet => cases hport
  | httpRoute => exact hroute .http rfl
  | tcpRoute => exact hroute (.l4 .tcp) rfl
  | udpRoute => exact hroute (.l4 .udp) rfl
  | securityPolicy =>
    obtain ⟨routerName, router, ea, htrans, hauth, hea, rfl, _⟩ := securityPolicies_origin hfind
    rw [policy_port_iff.mp hport]
    exact h.auth ea routerName router hea htrans hauth

/-- Every port that is built lies in 1..65535 exactly when no service with port zero keeps an object
of its own, no kept route proxies to one, and ext-authz has such a port wherever it is used. -/
theorem ports_in_range (cfg : Config) (dynConfig : TraefikDynamicConfig) :
    PortsInRange (buildDesired cfg dynConfig) ↔ PortsUsable cfg dynConfig :=
  ⟨portsUsable_of_inRange, inRange_of_portsUsable⟩

omit [DefaultHasher] [UrlCrate] in
/-- A tcp server at port zero. -/
theorem port_zero_is_built : ¬ ∀ (cfg : Config) (dynConfig : TraefikDynamicConfig),
    PortsInRange (@buildDesired sampleHasher sampleUrlCrate cfg dynConfig) := by
  let _ := sampleHasher
  let _ := sampleUrlCrate
  intro h
  have hports : ((buildDesired sampleConfig (rawConfig "10.0.0.7:0")).services["svc-tcp-raw"]?).map
      Service.ports = some [0, 0] := by
    decide
  obtain ⟨svc, hfind, hzero⟩ := Option.map_eq_some_iff.mp hports
  have hrange : InRange 0 := h sampleConfig (rawConfig "10.0.0.7:0") .service "svc-tcp-raw" svc hfind 0
    (by rw [Kind.ports, hzero]; exact List.mem_cons_self)
  exact absurd hrange.1 (by decide)

end PangolinGateway
