import PangolinGateway.Transform.Classify
import PangolinGateway.Transform.Collisions
import PangolinGateway.Transform.L4Ports

/-! # The two ways to emit backends

The modes differ in the objects that stand for a service. Where every service has a server that both
can carry, they agree on which services resolve, so they translate the same routers, and the
addresses of a service are the same in an EndpointSlice as in a Backend. -/
namespace PangolinGateway
set_option autoImplicit false

def Config.withKind (cfg : Config) (kind : BackendKind) : Config := { cfg with backendKind := kind }

def l4Targets (svc : L4Service) : List HostPort :=
  svc.loadBalancer.elim [] fun lb => lb.servers.filterMap fun s => parseL4Address s.address

theorem mem_elim_nil {A B : Type} {o : Option A} {f : A → List B} {x : B} :
    x ∈ o.elim [] f ↔ ∃ a, o = some a ∧ x ∈ f a := by
  cases o <;> simp

theorem mem_l4Targets {svc : L4Service} {e : HostPort} (h : e ∈ l4Targets svc) :
    ∃ address, parseL4Address address = some e := by
  obtain ⟨lb, _, hmem⟩ := mem_elim_nil.mp h
  obtain ⟨server, _, hparse⟩ := List.mem_filterMap.mp hmem
  exact ⟨server.address, hparse⟩

/-- Some server is an IP or cluster DNS, or none parses at all. -/
def Carried (targets : List HostPort) : Prop :=
  targets = [] ∨ ∃ e ∈ targets, (Str.IpAddr.parse e.host.toList).isSome = true ∨
    (parseClusterDns e.host).isSome = true

/-- The addresses of an EndpointSlice, each with the port of the slice. -/
def EndpointSlice.targets (slice : EndpointSlice) : List (String × ℤ) :=
  slice.endpoints.flatMap fun endpoint => endpoint.addresses.flatMap fun address =>
    (slice.ports.getD []).filterMap fun port => port.port.map fun p => (address, p)

def Backend.targets (be : Backend) : List (String × ℤ) :=
  be.spec.endpoints.filterMap fun endpoint => endpoint.ip.map fun ip => (ip.address, ip.port)

section Classes
variable [UrlCrate]

def serviceTargets (svc : PangService) : List HostPort :=
  svc.loadBalancer.elim [] fun lb => parseUrlServers lb.servers

theorem mem_serviceTargets {svc : PangService} {e : HostPort} (h : e ∈ serviceTargets svc) :
    ∃ server, parseUrlServer server = some e := by
  obtain ⟨lb, _, hmem⟩ := mem_elim_nil.mp h
  obtain ⟨server, _, hparse⟩ := List.mem_filterMap.mp hmem
  exact ⟨server, hparse⟩

/-- Every service of every block is carried by both modes. -/
structure AllCarried (dynConfig : TraefikDynamicConfig) : Prop where
  http : ∀ (name : String) (svc : PangService), dynConfig.http.services[name]? = some svc →
    Carried (serviceTargets svc)
  l4 : ∀ block, dynConfig.tcp = some block ∨ dynConfig.udp = some block →
    ∀ (name : String) (svc : L4Service), block.services[name]? = some svc → Carried (l4Targets svc)

/-! ## What the services are classified as -/

/-- What a service of a block is classified as. -/
def blockClass (cfg : Config) (dynConfig : TraefikDynamicConfig) (b : Block) (name : String) :
    Option Classification :=
  match b with
  | .http => (dynConfig.http.services[name]?).map (classifyService cfg)
  | .l4 proto => ((l4Block cfg dynConfig proto).services[name]?).map (classifyL4Service cfg)

theorem classifyService_targets (cfg : Config) (svc : PangService) :
    classifyService cfg svc = classifyEntries (serviceTargets svc) cfg.backendKind := by
  unfold classifyService serviceTargets
  cases svc.loadBalancer with
  | none => rfl
  | some lb => cases hservers : lb.servers <;> simp [hservers, classifyEntries, parseUrlServers]

omit [UrlCrate] in
theorem classifyL4Service_targets (cfg : Config) (svc : L4Service) :
    classifyL4Service cfg svc = classifyEntries (l4Targets svc) cfg.backendKind := by
  unfold classifyL4Service l4Targets
  cases svc.loadBalancer with
  | none => rfl
  | some lb => cases hservers : lb.servers <;> simp [hservers, classifyEntries]

omit [UrlCrate] in
/-- Only a name that is neither IP nor cluster DNS is classified by the mode. -/
theorem Carried.classify {targets : List HostPort} (h : Carried targets) (kind kind' : BackendKind) :
    classifyEntries targets kind = classifyEntries targets kind' := by
  rw [classifyEntries_eq, classifyEntries_eq]
  unfold classifyReference
  cases hfirst : firstIp targets with
  | some first => rfl
  | none =>
    cases hcluster : firstCluster targets with
    | some made => rfl
    | none =>
      rcases h with rfl | ⟨e, he, hip | hdns⟩
      · cases kind <;> cases kind' <;> rfl
      · exact absurd hip (List.find?_eq_none.mp hfirst e he)
      · have hnone : e.ip.isSome = false := by simpa using List.find?_eq_none.mp hfirst e he
        have hmade := List.findSome?_eq_none_iff.mp hcluster e he
        have hother : parseClusterDns e.host = none := by
          simpa [HostPort.clusterDns, hnone] using hmade
        simp [hother] at hdns

omit [UrlCrate] in
theorem l4Block_service {cfg : Config} {dynConfig : TraefikDynamicConfig} {proto : L4Protocol}
    {name : String} {svc : L4Service}
    (h : (l4Block cfg dynConfig proto).services[name]? = some svc) :
    ∃ block, (dynConfig.tcp = some block ∨ dynConfig.udp = some block) ∧
      block.services[name]? = some svc := by
  have hempty : ∀ {block : Option L4Config},
      (block.getD ⟨∅, ∅⟩).services[name]? = some svc →
        ∃ b, block = some b ∧ b.services[name]? = some svc := by
    intro block hsvc
    cases block with
    | none => simp at hsvc
    | some b => exact ⟨b, rfl, hsvc⟩
  cases proto with
  | tcp =>
    simp only [l4Block] at h
    split at h
    · obtain ⟨block, hblock, hsvc⟩ := hempty h
      exact ⟨block, Or.inl hblock, hsvc⟩
    · simp at h
  | udp =>
    simp only [l4Block] at h
    split at h
    · obtain ⟨block, hblock, hsvc⟩ := hempty h
      exact ⟨block, Or.inr hblock, hsvc⟩
    · simp at h

theorem AllCarried.blockClass {dynConfig : TraefikDynamicConfig} (h : AllCarried dynConfig)
    (cfg : Config) (kind kind' : BackendKind) (b : Block) (name : String) :
    blockClass (cfg.withKind kind) dynConfig b name =
      blockClass (cfg.withKind kind') dynConfig b name := by
  cases b with
  | http =>
    simp only [PangolinGateway.blockClass]
    cases hsvc : dynConfig.http.services[name]? with
    | none => rfl
    | some svc =>
      simp only [Option.map_some, classifyService_targets, (h.http name svc hsvc).classify _ kind']
  | l4 proto =>
    have hblock : l4Block (cfg.withKind kind) dynConfig proto =
      l4Block (cfg.withKind kind') dynConfig proto := by cases proto <;> rfl
    simp only [PangolinGateway.blockClass, hblock]
    cases hsvc : (l4Block (cfg.withKind kind') dynConfig proto).services[name]? with
    | none => rfl
    | some svc =>
      obtain ⟨block, hpresent, hsvc⟩ := l4Block_service hsvc
      simp only [Option.map_some, classifyL4Service_targets,
        (h.l4 block hpresent name svc hsvc).classify _ kind']

end Classes

variable [DefaultHasher] [UrlCrate]

/-! ## Which services resolve -/

theorem blockIndex_isSome {cfg : Config} {dynConfig : TraefikDynamicConfig} {b : Block}
    {name : String} : (blockIndex cfg dynConfig b)[name]?.isSome = true ↔
      ∃ c, blockClass cfg dynConfig b name = some c ∧ c ≠ .empty := by
  rw [Option.isSome_iff_exists]
  simp only [blockIndex_iff]
  cases b with
  | http =>
    simp only [serviceBackend, blockClass]
    cases dynConfig.http.services[name]? with
    | none => simp
    | some svc =>
      have h := emission_isSome cfg .http (httpRequest cfg dynConfig) (name, svc)
      rw [Option.isSome_iff_exists, Prod.exists] at h
      simpa [httpRequest] using h
  | l4 proto =>
    simp only [serviceBackend, blockClass]
    cases (l4Block cfg dynConfig proto).services[name]? with
    | none => simp
    | some svc =>
      have h := emission_isSome cfg (.l4 proto) (l4Request cfg) (name, svc)
      rw [Option.isSome_iff_exists, Prod.exists] at h
      simpa [l4Request] using h

theorem AllCarried.resolves {dynConfig : TraefikDynamicConfig} (h : AllCarried dynConfig)
    (cfg : Config) (kind kind' : BackendKind) (b : Block) (name : String) :
    (blockIndex (cfg.withKind kind) dynConfig b)[name]?.isSome =
      (blockIndex (cfg.withKind kind') dynConfig b)[name]?.isSome := by
  rw [Bool.eq_iff_iff, blockIndex_isSome, blockIndex_isSome, h.blockClass cfg kind kind']

/-! ## Which routers are translated -/

omit [UrlCrate] in
theorem buildRoute_isSome {cfg : Config} {dynConfig : TraefikDynamicConfig}
    {backends : BackendIndex} {routerName : String} {router : Router} :
    (buildRoute cfg dynConfig backends routerName router).isSome = true ↔
      (parse router.rule).isUsable = true ∧ passesAuthGate cfg
        (requiresBadgerAuth router.middlewares dynConfig.http.middlewares) = true ∧
        backends[router.service]?.isSome = true := by
  unfold buildRoute guard
  simp only
  cases (parse router.rule).isUsable with
  | false => simp
  | true =>
    cases passesAuthGate cfg (requiresBadgerAuth router.middlewares dynConfig.http.middlewares) with
    | false => simp
    | true => cases backends[router.service]? <;> simp

theorem AllCarried.translated {dynConfig : TraefikDynamicConfig} (h : AllCarried dynConfig)
    (cfg : Config) (kind kind' : BackendKind) (routerName : String) (router : Router) :
    Translated (cfg.withKind kind) dynConfig routerName router ↔
      Translated (cfg.withKind kind') dynConfig routerName router := by
  have hindex := h.resolves cfg kind kind' .http router.service
  simp only [blockIndex] at hindex
  unfold Translated
  rw [buildRoute_isSome, buildRoute_isSome, hindex]
  rfl

theorem AllCarried.nextClaims {dynConfig : TraefikDynamicConfig} (h : AllCarried dynConfig)
    (cfg : Config) (kind kind' : BackendKind) (proto : L4Protocol) :
    nextClaims (cfg.withKind kind) proto (blockIndex (cfg.withKind kind) dynConfig (.l4 proto)) =
      nextClaims (cfg.withKind kind') proto
        (blockIndex (cfg.withKind kind') dynConfig (.l4 proto)) := by
  funext claims entry
  rw [nextClaims_eq, nextClaims_eq]
  have hindex := h.resolves cfg kind kind' (.l4 proto) entry.2.service
  rw [if_congr (by rw [hindex]) rfl rfl]
  rfl

theorem AllCarried.finalClaims {dynConfig : TraefikDynamicConfig} (h : AllCarried dynConfig)
    (cfg : Config) (kind kind' : BackendKind) (proto : L4Protocol) :
    finalClaims (cfg.withKind kind) dynConfig proto =
      finalClaims (cfg.withKind kind') dynConfig proto := by
  unfold PangolinGateway.finalClaims
  rw [h.nextClaims cfg kind kind' proto]
  cases proto <;> rfl

theorem routed_http {cfg : Config} {dynConfig : TraefikDynamicConfig} {routerName : String} :
    Routed cfg dynConfig .http routerName ↔ ∃ router, Translated cfg dynConfig routerName router := by
  constructor
  · rintro ⟨service, entry, hroute⟩
    cases hroute with
    | http hrouter hroute => exact ⟨_, hrouter, by simp [hroute]⟩
  · rintro ⟨router, htrans⟩
    exact routed_of_translated htrans

theorem l4Routed {cfg : Config} {dynConfig : TraefikDynamicConfig} {proto : L4Protocol}
    {routerName : String} : Routed cfg dynConfig (.l4 proto) routerName ↔
      ∃ claims router, (claims, routerName, router) ∈ l4Visits cfg dynConfig proto ∧
        ruleIsSupported router proto = true ∧
        (blockIndex cfg dynConfig (.l4 proto))[router.service]?.isSome = true ∧
        (claimEntrypoints cfg proto (routerName, router) claims).2 ≠ [] := by
  constructor
  · rintro ⟨service, entry, hroute⟩
    cases hroute with
    | @l4 _ claims _ router _ hvisit hroute =>
      obtain ⟨hrule, hsections, backend, hbackend, _⟩ := l4RouteEntry_some hroute
      exact ⟨claims, router, hvisit, hrule, Option.isSome_iff_exists.mpr ⟨backend, hbackend⟩, hsections⟩
  · rintro ⟨claims, router, hvisit, hrule, hresolved, hsections⟩
    obtain ⟨backend, hbackend⟩ := Option.isSome_iff_exists.mp hresolved
    exact ⟨router.service, _, .l4 hvisit (l4RouteEntry_of hrule hbackend hsections)⟩

theorem AllCarried.routed {dynConfig : TraefikDynamicConfig} (h : AllCarried dynConfig)
    (cfg : Config) (kind kind' : BackendKind) (b : Block) (routerName : String) :
    Routed (cfg.withKind kind) dynConfig b routerName ↔
      Routed (cfg.withKind kind') dynConfig b routerName := by
  cases b with
  | http =>
    rw [routed_http, routed_http]
    exact exists_congr fun router => h.translated cfg kind kind' routerName router
  | l4 proto =>
    have hvisits : l4Visits (cfg.withKind kind) dynConfig proto =
        l4Visits (cfg.withKind kind') dynConfig proto := by
      unfold l4Visits
      rw [h.nextClaims cfg kind kind' proto]
      cases proto <;> rfl
    rw [l4Routed, l4Routed, hvisits]
    refine exists_congr fun claims => exists_congr fun router => and_congr_right fun _ => ?_
    rw [h.resolves cfg kind kind' (.l4 proto) router.service]
    rfl

/-! ## The keys of the desired set -/

theorem mem_routes {cfg : Config} {dynConfig : TraefikDynamicConfig} {b : Block} {name : String} :
    name ∈ (buildDesired cfg dynConfig).objects b.routeKind ↔
      ∃ routerName, Routed cfg dynConfig b routerName ∧ prefixedLabel b.routePrefix routerName = name := by
  rw [Std.ExtTreeMap.mem_iff_isSome_getElem?, Option.isSome_iff_exists]
  constructor
  · rintro ⟨route, hfind⟩
    obtain ⟨hwritten, hname⟩ := find_buildDesired_origin hfind
    obtain ⟨b', routerName, service, hroute⟩ := hwritten.of_isRoute b.routeKind_isRoute
    obtain rfl : b = b' := Block.routeKind_injective hroute.routeOf.kind
    exact ⟨routerName, ⟨service, _, hroute⟩, Option.some.inj (hroute.routeOf.name.symm.trans hname)⟩
  · rintro ⟨routerName, ⟨service, entry, hroute⟩, rfl⟩
    have hkind := hroute.routeOf.kind
    have hname := hroute.routeOf.name
    obtain ⟨k, obj⟩ := entry
    obtain rfl : k = b.routeKind := hkind
    exact find_buildDesired_written (.route hroute) hname

theorem mem_securityPolicies {cfg : Config} {dynConfig : TraefikDynamicConfig} {name : String} :
    name ∈ (buildDesired cfg dynConfig).securityPolicies ↔
      ∃ routerName router ea, Translated cfg dynConfig routerName router ∧
        NeedsAuth dynConfig router ∧ cfg.extAuthz = some ea ∧
        prefixedLabel "sp" (prefixedLabel "hr" routerName) = name := by
  rw [Std.ExtTreeMap.mem_iff_isSome_getElem?, Option.isSome_iff_exists]
  constructor
  · rintro ⟨sp, hfind⟩
    obtain ⟨routerName, router, ea, htrans, hauth, hea, _, hname⟩ := securityPolicies_origin hfind
    exact ⟨routerName, router, ea, htrans, hauth, hea, hname.symm⟩
  · rintro ⟨routerName, router, ea, htrans, hauth, hea, rfl⟩
    exact securityPolicies_of_protected hea htrans hauth

theorem AllCarried.listenerSets {dynConfig : TraefikDynamicConfig} (h : AllCarried dynConfig)
    (cfg : Config) (kind kind' : BackendKind) :
    (buildDesired (cfg.withKind kind) dynConfig).listenerSets =
      (buildDesired (cfg.withKind kind') dynConfig).listenerSets := by
  have hhosts : (routesStage (cfg.withKind kind) dynConfig).1.hostnames =
      (routesStage (cfg.withKind kind') dynConfig).1.hostnames := by
    apply Std.ExtTreeSet.ext_mem
    intro host
    rw [hostnames_iff, hostnames_iff]
    simp only [RoutedHost, h.translated cfg kind kind']
  have htlsHosts : (routesStage (cfg.withKind kind) dynConfig).1.httpsHosts =
      (routesStage (cfg.withKind kind') dynConfig).1.httpsHosts := by
    apply Std.ExtTreeSet.ext_mem
    intro host
    rw [httpsHosts_iff, httpsHosts_iff]
    simp only [h.translated cfg kind kind']
    rfl
  have hroutes : (routesStage (cfg.withKind kind) dynConfig).1 =
      (routesStage (cfg.withKind kind') dynConfig).1 := by
    rw [show (routesStage (cfg.withKind kind) dynConfig).1 = ⟨_, _⟩ from rfl, hhosts, htlsHosts]
  rw [buildDesired_listenerSets, buildDesired_listenerSets, hroutes, tcpStage_writes, tcpStage_writes,
    udpStage_writes, udpStage_writes, h.finalClaims cfg kind kind' .tcp,
    h.finalClaims cfg kind kind' .udp]
  rfl

/-! ## The addresses of a service -/

/-- What the servers of an IP service amount to, whatever object carries them. -/
def ipTargets (addresses : List Str.IpAddr) (port : ℤ) : List (String × ℤ) :=
  addresses.map fun ip => (String.ofList ip.print, port)

theorem serviceBackend_class {cfg : Config} {dynConfig : TraefikDynamicConfig} {b : Block}
    {name : String} {c : Classification} (h : blockClass cfg dynConfig b name = some c) :
    ∃ skipVerify, serviceBackend cfg dynConfig b name =
      emitBackend cfg name c b.infixTag b.k8sProtocol skipVerify .empty := by
  cases b with
  | http =>
    obtain ⟨svc, hsvc, rfl⟩ := Option.map_eq_some_iff.mp h
    exact ⟨_, by rw [serviceBackend, hsvc, Option.bind_some]; rfl⟩
  | l4 proto =>
    obtain ⟨svc, hsvc, rfl⟩ := Option.map_eq_some_iff.mp h
    exact ⟨_, by rw [serviceBackend, hsvc, Option.bind_some]; rfl⟩

omit [UrlCrate] in
theorem emitIpBackend_slice {cfg : Config} (hkind : cfg.backendKind = .service) (name : String)
    (addresses : List Str.IpAddr) (port : ℤ) (infx protocol : String) (tls : Option Bool) :
    ∃ slice, (emitIpBackend cfg name addresses port infx protocol tls .empty).2.endpointSlices.values =
      [slice] ∧ slice.targets = ipTargets addresses port := by
  have htargets : (addresses.map fun ip => (⟨[String.ofList ip.print]⟩ : Endpoint)).flatMap
      (fun endpoint => endpoint.addresses.flatMap fun address =>
        [(address, port)]) = ipTargets addresses port := by
    unfold ipTargets
    induction addresses with
    | nil => rfl
    | cons ip addresses ih => rw [List.map_cons, List.flatMap_cons, ih]; rfl
  unfold emitIpBackend
  rw [hkind]
  cases tls <;> cases addresses <;> exact ⟨_, rfl, htargets⟩

omit [UrlCrate] in
theorem emitIpBackend_backend {cfg : Config} (hkind : cfg.backendKind = .envoyBackend) (name : String)
    (addresses : List Str.IpAddr) (port : ℤ) (infx protocol : String) (tls : Option Bool) :
    ∃ be, (emitIpBackend cfg name addresses port infx protocol tls .empty).2.envoyBackends.values =
      [be] ∧ be.targets = ipTargets addresses port := by
  unfold emitIpBackend
  rw [hkind]
  refine ⟨_, rfl, ?_⟩
  simp [Backend.targets, ipTargets, List.filterMap_map]

/-- Where both modes can carry every service they write routes, policies and the ListenerSet under
the same keys, and the objects of an IP service carry the same targets. -/
theorem modes_agree (cfg : Config) (dynConfig : TraefikDynamicConfig) (h : AllCarried dynConfig) :
    (∀ (b : Block) (name : String),
      name ∈ (buildDesired (cfg.withKind .service) dynConfig).objects b.routeKind ↔
        name ∈ (buildDesired (cfg.withKind .envoyBackend) dynConfig).objects b.routeKind) ∧
    (∀ name : String, name ∈ (buildDesired (cfg.withKind .service) dynConfig).securityPolicies ↔
      name ∈ (buildDesired (cfg.withKind .envoyBackend) dynConfig).securityPolicies) ∧
    (buildDesired (cfg.withKind .service) dynConfig).listenerSets =
      (buildDesired (cfg.withKind .envoyBackend) dynConfig).listenerSets ∧
    (∀ b name addresses port tls,
      blockClass (cfg.withKind .service) dynConfig b name = some (.ips addresses port tls) →
        ∃ backend d backend' d' slice be,
          serviceBackend (cfg.withKind .service) dynConfig b name = some (backend, d) ∧
          serviceBackend (cfg.withKind .envoyBackend) dynConfig b name = some (backend', d') ∧
          d.endpointSlices.values = [slice] ∧ d'.envoyBackends.values = [be] ∧
          slice.targets = ipTargets addresses port ∧ be.targets = ipTargets addresses port) := by
  refine ⟨?_, ?_, h.listenerSets cfg .service .envoyBackend, ?_⟩
  · intro b name
    rw [mem_routes, mem_routes]
    simp only [h.routed cfg .service .envoyBackend]
  · intro name
    rw [mem_securityPolicies, mem_securityPolicies]
    simp only [h.translated cfg .service .envoyBackend]
    rfl
  · intro b name addresses port tls hclass
    have hclass' := hclass
    rw [h.blockClass cfg .service .envoyBackend] at hclass'
    obtain ⟨skip, hmade⟩ := serviceBackend_class hclass
    obtain ⟨skip', hmade'⟩ := serviceBackend_class hclass'
    obtain ⟨slice, hslice, htargets⟩ := @emitIpBackend_slice _ (cfg.withKind .service) rfl name
      addresses port b.infixTag b.k8sProtocol (thenSome tls skip)
    obtain ⟨be, hbe, htargets'⟩ := @emitIpBackend_backend _ (cfg.withKind .envoyBackend) rfl name
      addresses port b.infixTag b.k8sProtocol (thenSome tls skip')
    exact ⟨_, _, _, _, slice, be, hmade, hmade', hslice, hbe, htargets, htargets'⟩

omit [DefaultHasher] [UrlCrate] in
theorem sample_carried (routers : List (String × Router)) :
    @AllCarried sampleUrlCrate (sampleDynConfig routers) := by
  let _ := sampleUrlCrate
  constructor
  · intro name svc hsvc
    have hmem := Std.ExtTreeMap.mem_toList_iff_getElem?_eq_some.mpr hsvc
    have hlist : (sampleDynConfig routers).http.services.toList = sampleServices := by rfl
    rw [hlist, sampleServices, List.mem_singleton] at hmem
    obtain ⟨rfl, rfl⟩ := Prod.mk.inj hmem
    exact Or.inr ⟨⟨"10.0.0.7", 8080, false⟩, List.mem_cons_self, Or.inl (by decide)⟩
  · intro block hblock
    simp [sampleDynConfig] at hblock

omit [DefaultHasher] [UrlCrate] in
/-- The one service of the sample, as a slice and as a backend. -/
theorem modes_agree_sample :
    ("hr-app" ∈ (@buildDesired sampleHasher sampleUrlCrate (sampleConfig.withKind .service)
        (sampleDynConfig sampleRouters)).httpRoutes ↔
      "hr-app" ∈ (@buildDesired sampleHasher sampleUrlCrate (sampleConfig.withKind .envoyBackend)
        (sampleDynConfig sampleRouters)).httpRoutes) ∧
    ∃ (slice : EndpointSlice) (be : Backend),
      slice.targets = [("10.0.0.7", 8080)] ∧ be.targets = slice.targets := by
  let _ := sampleHasher
  let _ := sampleUrlCrate
  obtain ⟨hkeys, _, _, htargets⟩ := modes_agree sampleConfig (sampleDynConfig sampleRouters)
    (sample_carried sampleRouters)
  obtain ⟨_, _, _, _, slice, be, _, _, _, _, hslice, hbe⟩ :=
    htargets .http "app" [.v4 #v[10, 0, 0, 7]] 8080 false (by rfl)
  exact ⟨hkeys .http "hr-app", slice, be, hslice, hbe.trans hslice.symm⟩

end PangolinGateway
