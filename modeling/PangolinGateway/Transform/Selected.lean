import PangolinGateway.Transform.BackendModes

/-! # The servers that a service is emitted for

Of the servers of a service only some are used: the IPs that agree with the first one, or else the
first cluster name, or else, in envoy-backend mode, the first other name. What a service of a block
resolves to is the emission of the classification of these servers. -/
namespace PangolinGateway
set_option autoImplicit false

def selected (entries : List HostPort) (kind : BackendKind) : List HostPort :=
  match firstIp entries with
  | some first => entries.filter fun e => e.ip.isSome && first.agrees e
  | none => match entries.find? fun e => e.clusterDns.isSome with
    | some e => [e]
    | none => match kind with
      | .service => []
      | .envoyBackend => (entries.find? HostPort.remaining).toList

/-- The classification is what these servers amount to, with the port and scheme they share. -/
def Classification.Of (servers : List HostPort) : Classification → Prop
  | .empty => servers = []
  | .ips addresses port tls => servers ≠ [] ∧ servers.map HostPort.ip = addresses.map some ∧
    ∀ e ∈ servers, e.port = port ∧ e.tls = tls
  | .fqdn hostname port tls => ∃ e, servers = [e] ∧ e.remaining = true ∧
    e.host = hostname ∧ e.port = port ∧ e.tls = tls
  | .clusterDns svc ns port tls => ∃ e, servers = [e] ∧ e.clusterDns = some (svc, ns) ∧
    e.port = port ∧ e.tls = tls

def Classification.tls : Classification → Bool
  | .empty => false
  | .ips _ _ tls => tls
  | .fqdn _ _ tls => tls
  | .clusterDns _ _ _ tls => tls

theorem map_ip_filterMap {servers : List HostPort} (h : ∀ e ∈ servers, e.ip.isSome = true) :
    servers.map HostPort.ip = (servers.filterMap HostPort.ip).map some := by
  induction servers with
  | nil => rfl
  | cons e servers ih =>
    obtain ⟨ip, hip⟩ := Option.isSome_iff_exists.mp (h e List.mem_cons_self)
    rw [List.map_cons, List.filterMap_cons_some hip, List.map_cons, hip,
      ih fun e he => h e (List.mem_cons_of_mem _ he)]

theorem agreeingIps_selected (first : HostPort) (entries : List HostPort) :
    agreeingIps first entries =
      (entries.filter fun e => e.ip.isSome && first.agrees e).filterMap HostPort.ip := by
  unfold agreeingIps
  induction entries with
  | nil => rfl
  | cons e entries ih =>
    cases hagrees : first.agrees e <;> cases hip : e.ip <;> simp [hagrees, hip, ih]

theorem ips_of_selected {entries : List HostPort} {first : HostPort}
    (h : firstIp entries = some first) :
    (Classification.ips (agreeingIps first entries) first.port first.tls).Of
      (entries.filter fun e => e.ip.isSome && first.agrees e) := by
  have hmem : ∀ e ∈ entries.filter (fun e => e.ip.isSome && first.agrees e),
      e.ip.isSome = true ∧ first.agrees e = true := by
    intro e he
    simpa using (List.mem_filter.mp he).2
  refine ⟨?_, ?_, ?_⟩
  · have hne := agreeingIps_ne_nil h
    rw [agreeingIps_selected] at hne
    intro hnil
    exact hne (by rw [hnil]; rfl)
  · rw [agreeingIps_selected]
    exact map_ip_filterMap fun e he => (hmem e he).1
  · intro e he
    have hagrees := (hmem e he).2
    simp only [HostPort.agrees, Bool.and_eq_true, beq_iff_eq] at hagrees
    exact ⟨hagrees.1.symm, hagrees.2.symm⟩

theorem firstCluster_find (entries : List HostPort) :
    firstCluster entries = (entries.find? fun e => e.clusterDns.isSome).bind fun e =>
      e.clusterDns.map fun (svc, ns) => (svc, ns, e.port, e.tls) := by
  induction entries with
  | nil => rfl
  | cons e entries ih =>
    unfold firstCluster at ih ⊢
    cases hdns : e.clusterDns <;> simp [hdns, ih]

/-- The loop over the servers classifies the ones that are selected. -/
theorem classifyEntries_of (entries : List HostPort) (kind : BackendKind) :
    (classifyEntries entries kind).Of (selected entries kind) := by
  rw [classifyEntries_eq]
  unfold classifyReference selected
  rw [firstCluster_find]
  cases hfirst : firstIp entries with
  | some first => exact ips_of_selected hfirst
  | none =>
    cases hcluster : entries.find? fun e => e.clusterDns.isSome with
    | some e =>
      obtain ⟨⟨svc, ns⟩, hdns⟩ := Option.isSome_iff_exists.mp
        (@List.find?_some _ (fun e : HostPort => e.clusterDns.isSome) _ _ hcluster)
      simp [hdns, Classification.Of]
    | none =>
      cases kind with
      | service => rfl
      | envoyBackend =>
        cases hother : entries.find? HostPort.remaining with
        | none => simp [firstFqdn, hother, Classification.Of]
        | some e => simp [firstFqdn, hother, Classification.Of, List.find?_some hother]

/-- The selected servers share the scheme that the classification records. -/
theorem Classification.Of.scheme {servers : List HostPort} {c : Classification} (h : c.Of servers)
    {e : HostPort} (he : e ∈ servers) : e.tls = c.tls := by
  cases c with
  | empty =>
    obtain rfl : servers = [] := h
    cases he
  | ips addresses port tls => exact (h.2.2 e he).2
  | fqdn hostname port tls =>
    obtain ⟨e', rfl, _, _, _, htls⟩ := h
    rwa [List.mem_singleton.mp he]
  | clusterDns svc ns port tls =>
    obtain ⟨e', rfl, _, _, htls⟩ := h
    rwa [List.mem_singleton.mp he]

theorem Classification.Of.eq_empty {servers : List HostPort} {c : Classification}
    (h : c.Of servers) : c = .empty ↔ servers = [] := by
  cases c with
  | empty => exact ⟨fun _ => h, fun _ => rfl⟩
  | ips addresses port tls => simp [h.1]
  | fqdn hostname port tls =>
    obtain ⟨e, rfl, _⟩ := h
    simp
  | clusterDns svc ns port tls =>
    obtain ⟨e, rfl, _⟩ := h
    simp

/-! ## The services of a block -/

variable [UrlCrate]

/-- The servers of a service of a block that have a host and a port. -/
def blockTargets (cfg : Config) (dynConfig : TraefikDynamicConfig) (b : Block) (name : String) :
    List HostPort :=
  match b with
  | .http => (dynConfig.http.services[name]?).elim [] serviceTargets
  | .l4 proto => ((l4Block cfg dynConfig proto).services[name]?).elim [] l4Targets

theorem mem_blockTargets {cfg : Config} {dynConfig : TraefikDynamicConfig} {b : Block}
    {name : String} {e : HostPort} (h : e ∈ blockTargets cfg dynConfig b name) :
    (∃ server, parseUrlServer server = some e) ∨ ∃ address, parseL4Address address = some e := by
  cases b with
  | http =>
    obtain ⟨svc, _, hmem⟩ := mem_elim_nil.mp h
    exact Or.inl (mem_serviceTargets hmem)
  | l4 proto =>
    obtain ⟨svc, _, hmem⟩ := mem_elim_nil.mp h
    exact Or.inr (mem_l4Targets hmem)

def blockSkipsVerify (dynConfig : TraefikDynamicConfig) (b : Block) (name : String) : Bool :=
  match b with
  | .http => (dynConfig.http.services[name]?).elim false fun svc =>
    serviceSkipsVerify svc dynConfig.http.serversTransports
  | .l4 _ => false

/-- The servers that a service of a block is emitted for. -/
def blockServers (cfg : Config) (dynConfig : TraefikDynamicConfig) (b : Block) (name : String) :
    List HostPort := selected (blockTargets cfg dynConfig b name) cfg.backendKind

theorem serviceBackend_eq [DefaultHasher] (cfg : Config) (dynConfig : TraefikDynamicConfig)
    (b : Block) (name : String) : serviceBackend cfg dynConfig b name =
      emitBackend cfg name (classifyEntries (blockTargets cfg dynConfig b name) cfg.backendKind)
        b.infixTag b.k8sProtocol (blockSkipsVerify dynConfig b name) .empty := by
  cases b with
  | http =>
    simp only [serviceBackend, blockTargets, blockSkipsVerify, emission, httpRequest]
    cases dynConfig.http.services[name]? with
    | none => rfl
    | some svc => simp only [Option.bind_some, Option.elim_some, classifyService_targets]
  | l4 proto =>
    simp only [serviceBackend, blockTargets, blockSkipsVerify, emission, l4Request]
    cases (l4Block cfg dynConfig proto).services[name]? with
    | none => rfl
    | some svc => simp only [Option.bind_some, Option.elim_some, classifyL4Service_targets]

/-- A service is emitted for the servers selected among its own. -/
theorem serviceBackend_of [DefaultHasher] {cfg : Config} {dynConfig : TraefikDynamicConfig}
    {b : Block} {name : String} {made : ResolvedBackend × Desired}
    (h : serviceBackend cfg dynConfig b name = some made) :
    ∃ c : Classification, c.Of (blockServers cfg dynConfig b name) ∧
      emitBackend cfg name c b.infixTag b.k8sProtocol (blockSkipsVerify dynConfig b name) .empty =
        some made :=
  ⟨_, classifyEntries_of _ _, by rw [← serviceBackend_eq, h]⟩

end PangolinGateway
