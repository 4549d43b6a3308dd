import PangolinGateway.Transform.AddressFamily

/-! # Where a backend reference sends to

A gateway follows a reference to an Envoy `Backend`, to a `Service` and its slices, or to a
`Service` of a given namespace. Where no names clash, what it finds among all objects are the
servers that the service was emitted for. Whether TLS is spoken to them is left out here. -/
namespace PangolinGateway
set_option autoImplicit false

/-- The other end of a connection: an address, or a name that is resolved when connecting. -/
inductive Upstream where
  | address (ip : String) (port : ℤ)
  | name (hostname : String) (port : ℤ)
  deriving DecidableEq

/-- The upstream that a server of the dynamic config stands for. -/
def HostPort.upstream (e : HostPort) : Upstream :=
  match e.ip with
  | some ip => .address (String.ofList ip.print) e.port
  | none => match e.clusterDns with
    | some (service, ns) => .name (clusterHostname service ns) e.port
    | none => .name e.host e.port

def BackendEndpoint.upstreams (endpoint : BackendEndpoint) : List Upstream :=
  (endpoint.ip.map fun ip => .address ip.address ip.port).toList ++
    (endpoint.fqdn.map fun fqdn => .name fqdn.hostname fqdn.port).toList

def Service.portEntries (svc : Service) : List ServicePort := (svc.spec.bind ServiceSpec.ports).getD []

/-- The addresses of a slice, each with the ports of this name. -/
def EndpointSlice.upstreams (slice : EndpointSlice) (portName : Option String) : List Upstream :=
  slice.endpoints.flatMap fun endpoint => endpoint.addresses.flatMap fun address =>
    (slice.ports.getD []).filterMap fun target =>
      if target.name = portName then target.port.map (.address address) else none

/-- Following a reference among objects of one namespace. A slice counts if all its addresses are of
its type, and a `Service` of a given namespace is taken by its DNS name, whoever made it. -/
inductive Sends (objects : List Entry) (ref : RouteBackendRef) : Upstream → Prop
  | backend {be : Backend} {endpoint : BackendEndpoint} {u : Upstream}
      (group : ref.group = some "gateway.envoyproxy.io") (kind : ref.kind = some "Backend")
      (object : ⟨.envoyBackend, be⟩ ∈ objects) (name : be.metadata.name = some ref.name)
      (mem : endpoint ∈ be.spec.endpoints) (target : u ∈ endpoint.upstreams) : Sends objects ref u
  | slice {svc : Service} {port : ServicePort} {slice : EndpointSlice} {u : Upstream}
      (group : ref.group = some "") (kind : ref.kind = some "Service") (ns : ref.ns = none)
      (object : ⟨.service, svc⟩ ∈ objects) (name : svc.metadata.name = some ref.name)
      (port_mem : port ∈ svc.portEntries) (number : ref.port = some port.port)
      (endpoints : ⟨.endpointSlice, slice⟩ ∈ objects)
      (label : slice.metadata.label serviceNameLabel = some ref.name) (valid : slice.OneFamily)
      (target : u ∈ slice.upstreams port.name) : Sends objects ref u
  | cluster {ns : String} {port : ℤ} (group : ref.group = some "")
      (kind : ref.kind = some "Service") (inNs : ref.ns = some ns) (number : ref.port = some port) :
      Sends objects ref (.name (clusterHostname ref.name ns) port)

/-! ## The upstreams of a classification -/

def Classification.upstreams : Classification → List Upstream
  | .empty => []
  | .ips addresses port _ => addresses.map fun ip => .address (String.ofList ip.print) port
  | .fqdn hostname port _ => [.name hostname port]
  | .clusterDns service ns port _ => [.name (clusterHostname service ns) port]

theorem HostPort.ip_eq_none {e : HostPort} {svc : String × String} (h : e.clusterDns = some svc) :
    e.ip = none := by
  by_contra hip
  simp [clusterDns, Option.isSome_iff_ne_none.mpr hip] at h

/-- The selected servers have the upstreams of what they are classified as. -/
theorem Classification.Of.upstreams {servers : List HostPort} {c : Classification}
    (h : c.Of servers) : servers.map HostPort.upstream = c.upstreams := by
  cases c with
  | empty => rw [show servers = [] from h]; rfl
  | ips addresses port tls =>
    obtain ⟨_, hips, hshared⟩ := h
    have hmap : ∀ (servers : List HostPort) (addresses : List Str.IpAddr),
        servers.map HostPort.ip = addresses.map some → (∀ e ∈ servers, e.port = port) →
          servers.map HostPort.upstream =
            addresses.map fun ip => .address (String.ofList ip.print) port := by
      intro servers
      induction servers with
      | nil => intro addresses hips _; cases addresses <;> simp_all
      | cons e servers ih =>
        intro addresses hips hport
        cases addresses with
        | nil => simp at hips
        | cons ip addresses =>
          obtain ⟨hip, hrest⟩ := List.cons.inj hips
          rw [List.map_cons, List.map_cons, ih addresses hrest fun e he =>
            hport e (List.mem_cons_of_mem _ he), HostPort.upstream, hip, hport e List.mem_cons_self]
    exact hmap servers addresses hips fun e he => (hshared e he).1
  | fqdn hostname port tls =>
    obtain ⟨e, rfl, hremaining, rfl, rfl, _⟩ := h
    simp only [HostPort.remaining, Bool.and_eq_true, Option.isNone_iff_eq_none] at hremaining
    simp [Classification.upstreams, HostPort.upstream, hremaining]
  | clusterDns service ns port tls =>
    obtain ⟨e, rfl, hdns, rfl, _⟩ := h
    simp [Classification.upstreams, HostPort.upstream, HostPort.ip_eq_none hdns, hdns]

/-! ## The objects of one service -/

theorem sends_backend_iff {be : Backend} {name : String} {port : ℤ}
    (hname : be.metadata.name = some name) {u : Upstream} :
    Sends [⟨.envoyBackend, be⟩]
        (ResolvedBackend.ref ⟨"gateway.envoyproxy.io", "Backend", name, none, port⟩) u ↔
      u ∈ be.spec.endpoints.flatMap BackendEndpoint.upstreams := by
  rw [List.mem_flatMap]
  constructor
  · intro h
    cases h with
    | backend _ _ object _ mem target =>
      obtain rfl := eq_of_heq (Sigma.mk.inj (List.mem_singleton.mp object)).2
      exact ⟨_, mem, target⟩
    | slice _ kind => simp [ResolvedBackend.ref] at kind
    | cluster _ kind => simp [ResolvedBackend.ref] at kind
  · rintro ⟨endpoint, hmem, htarget⟩
    exact .backend rfl rfl (List.mem_singleton_self _) hname hmem htarget

theorem sends_slice_iff {svc : Service} {slice : EndpointSlice} {policies : List Entry}
    {name : String} {port : ServicePort} (hname : svc.metadata.name = some name)
    (hports : svc.portEntries = [port]) (hlabel : slice.metadata.label serviceNameLabel = some name)
    (hpolicies : ∀ entry ∈ policies, entry.1 = .backendTlsPolicy) {u : Upstream} :
    Sends (⟨.service, svc⟩ :: ⟨.endpointSlice, slice⟩ :: policies)
        (ResolvedBackend.ref ⟨"", "Service", name, none, port.port⟩) u ↔
      slice.OneFamily ∧ u ∈ slice.upstreams port.name := by
  constructor
  · intro h
    cases h with
    | backend _ kind => simp [ResolvedBackend.ref] at kind
    | slice _ _ _ object _ port_mem _ endpoints _ valid target =>
      simp only [List.mem_cons, Sigma.mk.injEq, true_and, reduceCtorEq, false_and, false_or,
        heq_eq_eq] at object endpoints
      obtain rfl := object.resolve_right fun hmem => by simpa using hpolicies _ hmem
      obtain rfl := endpoints.resolve_right fun hmem => by simpa using hpolicies _ hmem
      rw [hports, List.mem_singleton] at port_mem
      subst port_mem
      exact ⟨valid, target⟩
    | cluster _ _ inNs => simp [ResolvedBackend.ref] at inNs
  · rintro ⟨hvalid, htarget⟩
    exact .slice rfl rfl rfl List.mem_cons_self hname (by rw [hports]; exact List.mem_singleton_self _)
      rfl (List.mem_cons_of_mem _ List.mem_cons_self) hlabel hvalid htarget

theorem sends_cluster_iff (objects : List Entry) (service ns : String) (port : ℤ) {u : Upstream} :
    Sends objects (ResolvedBackend.ref ⟨"", "Service", service, some ns, port⟩) u ↔
      u = .name (clusterHostname service ns) port := by
  constructor
  · intro h
    cases h with
    | backend _ kind => simp [ResolvedBackend.ref] at kind
    | slice _ _ hns => simp [ResolvedBackend.ref] at hns
    | cluster _ _ inNs number =>
      obtain rfl := Option.some.inj inNs
      obtain rfl := Option.some.inj number
      rfl
  · rintro rfl
    exact .cluster rfl rfl rfl rfl

/-- In service mode the addresses of the servers are those of one slice of IPv4 addresses. -/
def FitsSlice (cfg : Config) (servers : List HostPort) : Prop :=
  cfg.backendKind = .service → ∀ e ∈ servers, ∀ ip, e.ip = some ip → ip.family = "IPv4"

variable [DefaultHasher]

/-- What service mode writes for IP servers: a Service with one port, and a slice of the addresses on
that port. -/
theorem emitIpBackend_objects {cfg : Config} (hkind : cfg.backendKind = .service) (pangName : String)
    (addresses : List Str.IpAddr) (port : ℤ) (infx protocol : String) (skip : Option Bool) :
    ∃ (name : String) (svc : Service) (slice : EndpointSlice) (policies : List Entry),
      emitIpBackend cfg pangName addresses port infx protocol skip .empty =
          (⟨"", "Service", name, none, port⟩,
            (emitIpBackend cfg pangName addresses port infx protocol skip .empty).2) ∧
        (emitIpBackend cfg pangName addresses port infx protocol skip .empty).2.entries =
          ⟨.service, svc⟩ :: ⟨.endpointSlice, slice⟩ :: policies ∧
        svc.metadata.name = some name ∧
        svc.portEntries = [⟨some portName, port, some port, some protocol⟩] ∧
        slice.metadata.label serviceNameLabel = some name ∧
        slice.addressType = "IPv4" ∧
        slice.endpoints = addresses.map (fun ip => ⟨[String.ofList ip.print]⟩) ∧
        slice.ports = some [⟨some portName, some port, some protocol⟩] ∧
        ∀ entry ∈ policies, entry.1 = .backendTlsPolicy := by
  have hlabel : ∀ (labels : Map String) (sliceName name : String),
      (managedMetadata cfg sliceName (labels.insert serviceNameLabel name)).label serviceNameLabel =
        some name := by
    intro labels sliceName name
    rw [ObjectMeta.label, managedMetadata_labels, Option.bind_some,
      Std.ExtTreeMap.getElem?_insert_self]
  unfold emitIpBackend
  rw [hkind]
  cases skip with
  | none => exact ⟨_, _, _, [], rfl, rfl, rfl, rfl, hlabel _ _ _, rfl, rfl, rfl, by simp⟩
  | some skipVerify =>
    cases addresses with
    | nil => exact ⟨_, _, _, [], rfl, rfl, rfl, rfl, hlabel _ _ _, rfl, rfl, rfl, by simp⟩
    | cons ip addresses =>
      exact ⟨_, _, _, [_], rfl, rfl, rfl, rfl, hlabel _ _ _, rfl, rfl, rfl, by simp⟩

theorem emitIpBackend_sends {cfg : Config} {servers : List HostPort}
    {addresses : List Str.IpAddr} {port : ℤ} {tls : Bool}
    (hc : (Classification.ips addresses port tls).Of servers) (pangName infx protocol : String)
    (skip : Option Bool) {u : Upstream} :
    Sends (emitIpBackend cfg pangName addresses port infx protocol skip .empty).2.entries
        (emitIpBackend cfg pangName addresses port infx protocol skip .empty).1.ref u ↔
      FitsSlice cfg servers ∧ ∃ e ∈ servers, e.upstream = u := by
  rw [← List.mem_map, hc.upstreams]
  cases hkind : cfg.backendKind with
  | envoyBackend =>
    unfold emitIpBackend FitsSlice
    rw [hkind]
    refine (@sends_backend_iff ⟨_, _⟩ _ _ rfl _).trans ?_
    simp [Classification.upstreams, BackendEndpoint.upstreams]
  | service =>
    obtain ⟨name, svc, slice, policies, hresolved, hentries, hname, hports, hlabel, htype, hendpoints,
      hslicePorts, hpolicies⟩ := emitIpBackend_objects hkind pangName addresses port infx protocol skip
    have hip : ∀ ip, ip ∈ addresses ↔ ∃ e ∈ servers, e.ip = some ip := by
      intro ip
      rw [← List.mem_map, hc.2.1, List.mem_map_of_injective (Option.some_injective _)]
    rw [hentries, hresolved, sends_slice_iff hname hports hlabel hpolicies, oneFamily_iff hendpoints,
      htype, FitsSlice]
    refine and_congr ?_ ?_
    · simp only [hkind, true_implies, hip]
      grind
    · rw [EndpointSlice.upstreams, hendpoints, hslicePorts]
      simp [Classification.upstreams, eq_comm]

omit [DefaultHasher] in
theorem fitsSlice_of_name {cfg : Config} {e : HostPort} (hip : e.ip = none) : FitsSlice cfg [e] := by
  intro _ e' he' ip hip'
  rw [List.mem_singleton.mp he', hip] at hip'
  simp at hip'

theorem emitFqdnBackend_sends {cfg : Config} {e : HostPort} {hostname : String}
    (hip : e.ip = none) (htarget : e.upstream = .name hostname e.port) (pangName infx : String)
    (skip : Option Bool) {u : Upstream} :
    Sends (emitFqdnBackend cfg pangName hostname e.port infx skip .empty).2.entries
        (emitFqdnBackend cfg pangName hostname e.port infx skip .empty).1.ref u ↔
      FitsSlice cfg [e] ∧ ∃ e' ∈ [e], e'.upstream = u := by
  refine (@sends_backend_iff ⟨_, _⟩ _ _ rfl _).trans ?_
  simp [BackendEndpoint.upstreams, fitsSlice_of_name hip, htarget, eq_comm]

theorem emitClusterDnsBackend_sends {cfg : Config} {e : HostPort} {service ns : String}
    (hdns : e.clusterDns = some (service, ns)) (pangName infx : String) (skip : Option Bool)
    {u : Upstream} :
    Sends (emitClusterDnsBackend cfg pangName service ns e.port infx skip .empty).2.entries
        (emitClusterDnsBackend cfg pangName service ns e.port infx skip .empty).1.ref u ↔
      FitsSlice cfg [e] ∧ ∃ e' ∈ [e], e'.upstream = u := by
  have hip := HostPort.ip_eq_none hdns
  have htarget : e.upstream = .name (clusterHostname service ns) e.port := by
    rw [HostPort.upstream, hip, hdns]
  have hdirect : ∀ objects : List Entry,
      Sends objects (ResolvedBackend.ref ⟨"", "Service", service, some ns, e.port⟩) u ↔
        FitsSlice cfg [e] ∧ ∃ e' ∈ [e], e'.upstream = u := by
    intro objects
    rw [sends_cluster_iff]
    simp [fitsSlice_of_name hip, htarget, eq_comm]
  unfold emitClusterDnsBackend
  cases skip with
  | none => exact hdirect _
  | some skipVerify =>
    cases cfg.backendKind with
    | envoyBackend => exact emitFqdnBackend_sends hip htarget pangName infx (some skipVerify)
    | service =>
      simp only
      split <;> exact hdirect _

/-- What is made for a service sends to the servers it was emitted for. -/
theorem emitBackend_sends {cfg : Config} {servers : List HostPort} {c : Classification}
    (hc : c.Of servers) {pangName infx protocol : String} {skip : Bool}
    {made : ResolvedBackend × Desired}
    (h : emitBackend cfg pangName c infx protocol skip .empty = some made) {u : Upstream} :
    Sends made.2.entries made.1.ref u ↔ FitsSlice cfg servers ∧ ∃ e ∈ servers, e.upstream = u := by
  cases c with
  | empty => cases h
  | ips addresses port tls =>
    rw [← Option.some.inj h]
    exact emitIpBackend_sends hc pangName infx protocol _
  | fqdn hostname port tls =>
    obtain ⟨e, rfl, hremaining, rfl, rfl, _⟩ := hc
    simp only [HostPort.remaining, Bool.and_eq_true, Option.isNone_iff_eq_none] at hremaining
    rw [← Option.some.inj h]
    exact emitFqdnBackend_sends hremaining.1 (by rw [HostPort.upstream, hremaining.1, hremaining.2])
      pangName infx _
  | clusterDns service ns port tls =>
    obtain ⟨e, rfl, hdns, rfl, _⟩ := hc
    rw [← Option.some.inj h]
    exact emitClusterDnsBackend_sends hdns pangName infx _

/-! ## Among all objects -/

variable [UrlCrate] {cfg : Config} {dynConfig : TraefikDynamicConfig}

theorem find_of_named {k : Kind} {obj : k.Obj} {name : String}
    (hmem : (⟨k, obj⟩ : Entry) ∈ (buildDesired cfg dynConfig).entries)
    (hname : (k.metadata obj).name = some name) :
    (buildDesired cfg dynConfig).find k name = some obj := by
  obtain ⟨key, hfind⟩ := Desired.mem_entries.mp hmem
  obtain rfl : key = name :=
    Option.some.inj ((buildDesired_named cfg dynConfig k key obj hfind).symm.trans hname)
  exact hfind

/-- Where no names clash, a reference finds among all objects what was made for its service. -/
theorem NamesApart.sends_own (h : NamesApart cfg dynConfig) {b : Block} {service : String}
    {backend : ResolvedBackend} {d : Desired}
    (hservice : serviceBackend cfg dynConfig b service = some (backend, d)) {u : Upstream} :
    Sends (buildDesired cfg dynConfig).entries backend.ref u ↔ Sends d.entries backend.ref u := by
  have hown : ∀ {k : Kind} {obj : k.Obj}, (⟨k, obj⟩ : Entry) ∈ d.entries →
      (⟨k, obj⟩ : Entry) ∈ (buildDesired cfg dynConfig).entries := by
    intro k obj hmem
    have hmade : Synthesises cfg dynConfig b service ⟨k, obj⟩ := ⟨backend, d, hservice, hmem⟩
    obtain ⟨_, name, _, hname⟩ := hmade.named
    exact Desired.mem_entries.mpr ⟨name, h.find_object hmade hname⟩
  have hleads := h.leadsTo hservice
  constructor
  · intro hsends
    cases hsends with
    | backend group kind object name mem target =>
      obtain ⟨be, hfind, hmem⟩ := hleads.backend kind
      have hsame : (buildDesired cfg dynConfig).find .envoyBackend _ = some _ :=
        find_of_named object name
      obtain rfl := Option.some.inj (hsame.symm.trans hfind)
      exact .backend group kind hmem name mem target
    | slice group kind ns object name port_mem number endpoints label valid target =>
      obtain ⟨svc, hfind, hmem⟩ := hleads.service kind ns
      have hsame : (buildDesired cfg dynConfig).find .service _ = some _ :=
        find_of_named object name
      obtain rfl := Option.some.inj (hsame.symm.trans hfind)
      obtain ⟨sliceName, hslice⟩ := Desired.mem_entries.mp endpoints
      exact .slice group kind ns hmem name port_mem number
        (hleads.ownEndpoints kind ns sliceName _ hslice label) label valid target
    | cluster group kind inNs number => exact .cluster group kind inNs number
  · intro hsends
    cases hsends with
    | backend group kind object name mem target =>
      exact .backend group kind (hown object) name mem target
    | slice group kind ns object name port_mem number endpoints label valid target =>
      exact .slice group kind ns (hown object) name port_mem number (hown endpoints) label valid target
    | cluster group kind inNs number => exact .cluster group kind inNs number

/-- The reference of a service leads to the servers that the service was emitted for. -/
theorem NamesApart.sends_iff (h : NamesApart cfg dynConfig) {b : Block} {service : String}
    {backend : ResolvedBackend} {d : Desired}
    (hservice : serviceBackend cfg dynConfig b service = some (backend, d)) {u : Upstream} :
    Sends (buildDesired cfg dynConfig).entries backend.ref u ↔
      FitsSlice cfg (blockServers cfg dynConfig b service) ∧
        ∃ e ∈ blockServers cfg dynConfig b service, e.upstream = u := by
  obtain ⟨c, hc, hemit⟩ := serviceBackend_of hservice
  rw [h.sends_own hservice]
  exact emitBackend_sends hc hemit

end PangolinGateway
