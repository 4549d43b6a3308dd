import PangolinGateway.Transform.BuildDesired

/-! # Every object of a built desired set is stored under its own name

The controller applies an object under the name in its metadata and sweeps by the keys of the
desired set; the two agree because every step of the transform inserts a named object under its
name. -/
namespace PangolinGateway
set_option autoImplicit false

def NamedBy {V : Type} (metadata : V → ObjectMeta) (m : Map V) : Prop :=
  ∀ name v, m[name]? = some v → (metadata v).name = some name

theorem NamedBy.empty {V : Type} (metadata : V → ObjectMeta) : NamedBy metadata (∅ : Map V) := by
  intro name v h
  simp at h

theorem NamedBy.insert {V : Type} {metadata : V → ObjectMeta} {m : Map V} (h : NamedBy metadata m)
    {name : String} {v : V} (hv : (metadata v).name = some name) :
    NamedBy metadata (m.insert name v) := by
  intro name' v' hlookup
  rw [Std.ExtTreeMap.getElem?_insert] at hlookup
  split at hlookup
  · next heq =>
    rw [← Option.some.inj hlookup, hv, Std.LawfulEqCmp.eq_of_compare heq]
  · exact h name' v' hlookup

/-- The nine maps of a desired set, each named. -/
structure MapsNamed (d : Desired) : Prop where
  httpRoutes : NamedBy HTTPRoute.metadata d.httpRoutes
  listenerSets : NamedBy ListenerSet.metadata d.listenerSets
  services : NamedBy Service.metadata d.services
  endpointSlices : NamedBy EndpointSlice.metadata d.endpointSlices
  envoyBackends : NamedBy Backend.metadata d.envoyBackends
  tcpRoutes : NamedBy TCPRoute.metadata d.tcpRoutes
  udpRoutes : NamedBy UDPRoute.metadata d.udpRoutes
  securityPolicies : NamedBy SecurityPolicy.metadata d.securityPolicies
  backendTlsPolicies : NamedBy BackendTLSPolicy.metadata d.backendTlsPolicies

theorem MapsNamed.empty : MapsNamed .empty :=
  ⟨.empty _, .empty _, .empty _, .empty _, .empty _, .empty _, .empty _, .empty _, .empty _⟩

theorem MapsNamed.named {d : Desired} (h : MapsNamed d) : d.Named := by
  intro k name obj hfind
  cases k with
  | service => exact h.services name obj hfind
  | endpointSlice => exact h.endpointSlices name obj hfind
  | envoyBackend => exact h.envoyBackends name obj hfind
  | backendTlsPolicy => exact h.backendTlsPolicies name obj hfind
  | listenerSet => exact h.listenerSets name obj hfind
  | httpRoute => exact h.httpRoutes name obj hfind
  | tcpRoute => exact h.tcpRoutes name obj hfind
  | udpRoute => exact h.udpRoutes name obj hfind
  | securityPolicy => exact h.securityPolicies name obj hfind

variable [DefaultHasher]

/-! ## Backends -/

theorem emitBackendTlsPolicy_named (cfg : Config) (pangName infx targetService hostname : String)
    {d : Desired} (h : MapsNamed d) :
    MapsNamed (emitBackendTlsPolicy cfg pangName infx targetService hostname d) :=
  { h with backendTlsPolicies := h.backendTlsPolicies.insert rfl }

theorem emitEnvoyBackend_named (cfg : Config) (pangName : String) (endpoints : List BackendEndpoint)
    (port : ℤ) (infx : String) (tls : Option BackendTlsSettings) {d : Desired} (h : MapsNamed d) :
    MapsNamed (emitEnvoyBackend cfg pangName endpoints port infx tls d).2 :=
  { h with envoyBackends := h.envoyBackends.insert rfl }

theorem emitSynthesizedService_named (cfg : Config) (pangName : String) (ips : List Str.IpAddr)
    (port : ℤ) (infx protocol : String) {d : Desired} (h : MapsNamed d) :
    MapsNamed (emitSynthesizedService cfg pangName ips port infx protocol d).2 :=
  { h with
    services := h.services.insert rfl
    endpointSlices := h.endpointSlices.insert rfl }

theorem emitIpBackend_named (cfg : Config) (pangName : String) (ips : List Str.IpAddr) (port : ℤ)
    (infx protocol : String) (tls : Option Bool) {d : Desired} (h : MapsNamed d) :
    MapsNamed (emitIpBackend cfg pangName ips port infx protocol tls d).2 := by
  unfold emitIpBackend
  cases cfg.backendKind with
  | envoyBackend => exact emitEnvoyBackend_named _ _ _ _ _ _ h
  | service =>
    have hsvc := emitSynthesizedService_named cfg pangName ips port infx protocol h
    cases tls with
    | none => exact hsvc
    | some skipVerify =>
      cases ips with
      | nil => exact hsvc
      | cons ip ips => exact emitBackendTlsPolicy_named _ _ _ _ _ hsvc

theorem emitClusterDnsBackend_named (cfg : Config) (pangName service ns : String) (port : ℤ)
    (infx : String) (tls : Option Bool) {d : Desired} (h : MapsNamed d) :
    MapsNamed (emitClusterDnsBackend cfg pangName service ns port infx tls d).2 := by
  unfold emitClusterDnsBackend
  cases tls with
  | none => exact h
  | some skipVerify =>
    cases cfg.backendKind with
    | envoyBackend => exact emitEnvoyBackend_named _ _ _ _ _ _ h
    | service =>
      simp only
      split
      · exact emitBackendTlsPolicy_named _ _ _ _ _ h
      · exact h

theorem emitIndexed_named (cfg : Config) (pangName : String) (classification : Classification)
    (infx protocol : String) (skipVerify : Bool) {acc : BackendIndex × Desired}
    (h : MapsNamed acc.2) :
    MapsNamed (emitIndexed cfg pangName classification infx protocol skipVerify acc).2 := by
  unfold emitIndexed
  cases classification with
  | empty => exact h
  | ips entries port tls => exact emitIpBackend_named _ _ _ _ _ _ _ h
  | fqdn hostname port tls =>
    exact emitEnvoyBackend_named cfg pangName [⟨none, some ⟨hostname, port⟩⟩] port infx _ h
  | clusterDns service ns port tls => exact emitClusterDnsBackend_named _ _ _ _ _ _ _ h

theorem buildBackends_named [UrlCrate] (cfg : Config) (services : Map PangService)
    (transports : Map Value) {d : Desired} (h : MapsNamed d) :
    MapsNamed (buildBackends cfg services transports d).2 :=
  List.foldlRecOn (motive := fun acc : BackendIndex × Desired => MapsNamed acc.2) _ _ h
    fun _ hacc entry _ => emitIndexed_named cfg entry.1 _ _ _ _ hacc

theorem buildL4Backends_named (cfg : Config) (services : Map L4Service) (proto : L4Protocol)
    {d : Desired} (h : MapsNamed d) : MapsNamed (buildL4Backends cfg services proto d).2 :=
  List.foldlRecOn (motive := fun acc : BackendIndex × Desired => MapsNamed acc.2) _ _ h
    fun _ hacc entry _ => emitIndexed_named cfg entry.1 _ _ _ _ hacc

/-! ## Routes, policies and listeners -/

omit [DefaultHasher] in
theorem insertPolicy_named {m : Map SecurityPolicy} (h : NamedBy SecurityPolicy.metadata m)
    (sp : SecurityPolicy) : NamedBy SecurityPolicy.metadata (insertPolicy m sp) := by
  unfold insertPolicy
  cases hname : sp.metadata.name with
  | none => exact h
  | some spName => exact h.insert hname

theorem emitRoute_named (cfg : Config) (dynConfig : TraefikDynamicConfig) (backends : BackendIndex)
    {acc : RouteIndex × Desired} (entry : String × Router) (h : MapsNamed acc.2) :
    MapsNamed (emitRoute cfg dynConfig backends acc entry).2 := by
  unfold emitRoute
  cases hroute : buildRoute cfg dynConfig backends entry.1 entry.2 with
  | none => exact h
  | some route =>
    have hname : route.metadata.name = some (prefixedLabel "hr" entry.1) := by
      rw [(buildRoute_builds hroute).metadata]
      rfl
    have hroutes := h.httpRoutes.insert hname
    cases buildPolicy cfg dynConfig entry.1 entry.2 with
    | none => exact { h with httpRoutes := hroutes }
    | some sp =>
      exact { h with
        httpRoutes := hroutes
        securityPolicies := insertPolicy_named h.securityPolicies sp }

theorem emitL4Route_named (cfg : Config) (proto : L4Protocol) (backends : BackendIndex)
    {acc : PortClaims × Desired} (entry : String × L4Router) (h : MapsNamed acc.2) :
    MapsNamed (emitL4Route cfg proto backends acc entry).2 := by
  unfold emitL4Route
  split
  · exact h
  · split
    · exact h
    · simp only
      split
      · exact h
      · cases proto with
        | tcp => exact { h with tcpRoutes := h.tcpRoutes.insert rfl }
        | udp => exact { h with udpRoutes := h.udpRoutes.insert rfl }

theorem buildL4Family_named (cfg : Config) (block : Option L4Config) (proto : L4Protocol)
    (enabled : Bool) {d : Desired} (h : MapsNamed d) :
    MapsNamed (buildL4Family cfg block proto enabled d).2 := by
  unfold buildL4Family
  cases block with
  | none => exact h
  | some block =>
    cases enabled with
    | false => exact h
    | true =>
      have hbackends := buildL4Backends_named cfg block.services proto h
      exact List.foldlRecOn (motive := fun acc : PortClaims × Desired => MapsNamed acc.2) _ _
        hbackends fun _ hacc entry _ => emitL4Route_named cfg proto _ entry hacc

theorem buildDesired_named [UrlCrate] (cfg : Config) (dynConfig : TraefikDynamicConfig) :
    (buildDesired cfg dynConfig).Named := by
  have hbackends := buildBackends_named cfg dynConfig.http.services
    dynConfig.http.serversTransports MapsNamed.empty
  have hroutes : MapsNamed (routesStage cfg dynConfig).2 :=
    List.foldlRecOn (motive := fun acc : RouteIndex × Desired => MapsNamed acc.2) _ _ hbackends
      fun _ hacc entry _ => emitRoute_named cfg dynConfig _ entry hacc
  have htcp : MapsNamed (tcpStage cfg dynConfig).2 := buildL4Family_named _ _ _ _ hroutes
  have hudp : MapsNamed (udpStage cfg dynConfig).2 := buildL4Family_named _ _ _ _ htcp
  rw [buildDesired_eq]
  exact MapsNamed.named { hudp with listenerSets := hudp.listenerSets.insert rfl }

end PangolinGateway
