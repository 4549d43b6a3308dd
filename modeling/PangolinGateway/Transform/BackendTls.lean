import PangolinGateway.Transform.L4Address
import PangolinGateway.Transform.Selected

/-! # TLS towards the servers, in envoy-backend mode

The scheme of the selected servers and the `insecureSkipVerify` of the service's transport reach the
emitted `Backend` as one optional flag. Verification stays on unless the transport turns it off, and
what is not https gets no TLS settings at all. -/
namespace PangolinGateway
set_option autoImplicit false

/-- The service names a transport that exists and whose `insecureSkipVerify` is JSON `true`. -/
def SkipsVerify (svc : PangService) (transports : Map Value) : Prop :=
  ∃ lb name transport, svc.loadBalancer = some lb ∧ lb.serversTransport = some name ∧
    transports[name]? = some transport ∧ transport.get "insecureSkipVerify" = some (.bool true)

theorem transportSkipsVerify_iff {transport : Option String} {transports : Map Value} :
    transportSkipsVerify transport transports = true ↔ ∃ name t, transport = some name ∧
      transports[name]? = some t ∧ t.get "insecureSkipVerify" = some (.bool true) := by
  have hbool : ∀ v : Option Value, v.bind Value.asBool = some true ↔ v = some (.bool true) := by
    intro v
    cases v with
    | none => simp
    | some v => cases v <;> simp [Value.asBool]
  unfold transportSkipsVerify
  cases transport with
  | none => simp
  | some name => cases htransport : transports[name]? <;> simp [htransport, hbool]

theorem serviceSkipsVerify_iff {svc : PangService} {transports : Map Value} :
    serviceSkipsVerify svc transports = true ↔ SkipsVerify svc transports := by
  unfold serviceSkipsVerify SkipsVerify
  cases svc.loadBalancer with
  | none => simp
  | some lb => simp [transportSkipsVerify_iff]

/-- TLS with verification against the system CAs, unless `skip` holds. -/
structure Originates (skip : Prop) (be : Backend) (tls : BackendTlsSettings) : Prop where
  settings : be.spec.tls = some tls
  skipped : tls.insecureSkipVerify = some true ↔ skip
  verified : ¬ skip → tls.wellKnownCaCertificates = some "System" ∧
    ∀ endpoint ∈ be.spec.endpoints, ∀ fqdn, endpoint.fqdn = some fqdn → tls.sni = some fqdn.hostname

/-- Whatever `d'` has more than `d` carries no TLS settings and no TLS policy. -/
structure NoTlsAdded (d d' : Desired) : Prop where
  policies : d'.backendTlsPolicies = d.backendTlsPolicies
  backends : ∀ (name : String) (be : Backend), d'.envoyBackends[name]? = some be →
    be.spec.tls = none ∨ d.envoyBackends[name]? = some be

namespace NoTlsAdded

theorem refl (d : Desired) : NoTlsAdded d d := ⟨rfl, fun _ _ h => Or.inr h⟩

theorem trans {d d' d'' : Desired} (h : NoTlsAdded d d') (h' : NoTlsAdded d' d'') :
    NoTlsAdded d d'' where
  policies := h'.policies.trans h.policies
  backends name be hbe := by
    cases h'.backends name be hbe with
    | inl hnone => exact Or.inl hnone
    | inr hbefore => exact h.backends name be hbefore

end NoTlsAdded

theorem backendTlsSettings_originates {skip : Bool} {sni : Option String} {be : Backend}
    (htls : be.spec.tls = some (backendTlsSettings skip sni))
    (hsni : ∀ endpoint ∈ be.spec.endpoints, ∀ fqdn, endpoint.fqdn = some fqdn →
      sni = some fqdn.hostname) :
    Originates (skip = true) be (backendTlsSettings skip sni) := by
  cases skip with
  | true => exact ⟨htls, by simp [backendTlsSettings], fun hfalse => absurd rfl hfalse⟩
  | false => exact ⟨htls, by simp [backendTlsSettings], fun _ => ⟨rfl, hsni⟩⟩

/-! ## The schemes of the servers -/

theorem selected_subset {entries : List HostPort} {kind : BackendKind} {e : HostPort}
    (h : e ∈ selected entries kind) : e ∈ entries := by
  unfold selected at h
  cases hfirst : firstIp entries with
  | some first =>
    rw [hfirst] at h
    exact List.mem_of_mem_filter h
  | none =>
    rw [hfirst] at h
    cases hcluster : entries.find? fun e => e.clusterDns.isSome with
    | some e' =>
      rw [hcluster] at h
      rw [List.mem_singleton.mp h]
      exact List.mem_of_find?_eq_some hcluster
    | none =>
      rw [hcluster] at h
      cases kind with
      | service => cases h
      | envoyBackend => exact List.mem_of_find?_eq_some (Option.mem_toList.mp h)

theorem Classification.Of.tls_iff {servers : List HostPort} {c : Classification} (h : c.Of servers) :
    c.tls = true ↔ servers ≠ [] ∧ ∀ e ∈ servers, e.tls = true := by
  constructor
  · intro htls
    refine ⟨fun hnil => ?_, fun e he => (h.scheme he).trans htls⟩
    rw [h.eq_empty.mpr hnil] at htls
    cases htls
  · rintro ⟨hne, hall⟩
    obtain ⟨e, he⟩ := List.exists_mem_of_ne_nil servers hne
    rw [← h.scheme he, hall e he]

theorem Classification.Of.plain {servers : List HostPort} {c : Classification} (h : c.Of servers)
    (hall : ∀ e ∈ servers, e.tls = false) : c.tls = false := by
  rw [Bool.eq_false_iff, Ne, h.tls_iff]
  rintro ⟨hne, htls⟩
  obtain ⟨e, he⟩ := List.exists_mem_of_ne_nil servers hne
  have htrue := htls e he
  rw [hall e he] at htrue
  cases htrue

theorem l4Targets_plain {svc : L4Service} {e : HostPort} (h : e ∈ l4Targets svc) : e.tls = false := by
  obtain ⟨address, hparse⟩ := mem_l4Targets h
  exact parseL4Address_tls hparse

section Emitters
variable [DefaultHasher]

/-! ## One service -/

/-- The service resolves to a `Backend` that was made for it, with TLS. -/
def ResolvesToTls (skip : Prop) (made : ResolvedBackend × Desired) : Prop :=
  made.1.kind = "Backend" ∧ made.1.ns = none ∧ ∃ be tls,
    made.2.envoyBackends[made.1.name]? = some be ∧ Originates skip be tls

theorem emitEnvoyBackend_object (cfg : Config) (pangName : String) (endpoints : List BackendEndpoint)
    (port : ℤ) (infx : String) (tls : Option BackendTlsSettings) (d : Desired) :
    ∃ be : Backend, be.spec = ⟨endpoints, tls⟩ ∧
      (emitEnvoyBackend cfg pangName endpoints port infx tls d).2.envoyBackends[
        (emitEnvoyBackend cfg pangName endpoints port infx tls d).1.name]? = some be := by
  simp only [emitEnvoyBackend, Std.ExtTreeMap.getElem?_insert_self]
  exact ⟨_, rfl, rfl⟩

theorem emitEnvoyBackend_tls (cfg : Config) (pangName : String) (endpoints : List BackendEndpoint)
    (port : ℤ) (infx : String) {skip : Bool} {sni : Option String} (d : Desired)
    (hsni : ∀ endpoint ∈ endpoints, ∀ fqdn, endpoint.fqdn = some fqdn → sni = some fqdn.hostname) :
    ResolvesToTls (skip = true)
      (emitEnvoyBackend cfg pangName endpoints port infx (some (backendTlsSettings skip sni)) d) := by
  obtain ⟨be, hspec, hbe⟩ := emitEnvoyBackend_object cfg pangName endpoints port infx
    (some (backendTlsSettings skip sni)) d
  refine ⟨rfl, rfl, be, _, hbe, backendTlsSettings_originates (by rw [hspec]) ?_⟩
  rwa [hspec]

theorem emitEnvoyBackend_plain (cfg : Config) (pangName : String) (endpoints : List BackendEndpoint)
    (port : ℤ) (infx : String) (d : Desired) :
    NoTlsAdded d (emitEnvoyBackend cfg pangName endpoints port infx none d).2 where
  policies := rfl
  backends name be hbe := by
    simp only [emitEnvoyBackend, Std.ExtTreeMap.getElem?_insert] at hbe
    split at hbe
    · left
      rw [← Option.some.inj hbe]
    · exact Or.inr hbe

theorem emitBackend_tls {cfg : Config} (hkind : cfg.backendKind = .envoyBackend) (pangName : String)
    {c : Classification} (htls : c.tls = true) (infx protocol : String) (skip : Bool) (d : Desired) :
    ∃ made, emitBackend cfg pangName c infx protocol skip d = some made ∧
      ResolvesToTls (skip = true) made := by
  cases c with
  | empty => cases htls
  | ips addresses port tls =>
    obtain rfl : tls = true := htls
    refine ⟨_, by simp only [emitBackend, emitIpBackend, hkind]; rfl, ?_⟩
    apply emitEnvoyBackend_tls
    intro endpoint hendpoint fqdn hfqdn
    obtain ⟨ip, _, rfl⟩ := List.mem_map.mp hendpoint
    cases hfqdn
  | fqdn hostname port tls =>
    obtain rfl : tls = true := htls
    refine ⟨_, rfl, emitEnvoyBackend_tls cfg pangName _ port infx d ?_⟩
    intro endpoint hendpoint fqdn hfqdn
    rw [List.mem_singleton.mp hendpoint] at hfqdn
    rw [← Option.some.inj hfqdn]
  | clusterDns service ns port tls =>
    obtain rfl : tls = true := htls
    refine ⟨_, by simp only [emitBackend, emitClusterDnsBackend, hkind]; rfl, ?_⟩
    apply emitEnvoyBackend_tls
    intro endpoint hendpoint fqdn hfqdn
    rw [List.mem_singleton.mp hendpoint] at hfqdn
    rw [← Option.some.inj hfqdn]

/-- If the service resolves to a `Backend`, that one has no TLS settings. -/
def ResolvesPlain (made : ResolvedBackend × Desired) : Prop :=
  made.1.kind = "Backend" → ∃ be : Backend,
    made.2.envoyBackends[made.1.name]? = some be ∧ be.spec.tls = none

theorem emitEnvoyBackend_resolvesPlain (cfg : Config) (pangName : String)
    (endpoints : List BackendEndpoint) (port : ℤ) (infx : String) (d : Desired) :
    ResolvesPlain (emitEnvoyBackend cfg pangName endpoints port infx none d) := by
  obtain ⟨be, hspec, hbe⟩ := emitEnvoyBackend_object cfg pangName endpoints port infx none d
  exact fun _ => ⟨be, hbe, by rw [hspec]⟩

theorem emitBackend_resolvesPlain {cfg : Config} (hkind : cfg.backendKind = .envoyBackend)
    {pangName : String} {c : Classification} (htls : c.tls = false) {infx protocol : String}
    {skip : Bool} {d : Desired} {made : ResolvedBackend × Desired}
    (h : emitBackend cfg pangName c infx protocol skip d = some made) : ResolvesPlain made := by
  cases c with
  | empty => cases h
  | ips addresses port tls =>
    obtain rfl : tls = false := htls
    simp only [emitBackend, emitIpBackend, hkind, Option.some.injEq] at h
    rw [← h]
    exact emitEnvoyBackend_resolvesPlain cfg pangName _ port infx d
  | fqdn hostname port tls =>
    obtain rfl : tls = false := htls
    rw [← Option.some.inj h]
    exact emitEnvoyBackend_resolvesPlain cfg pangName _ port infx d
  | clusterDns service ns port tls =>
    obtain rfl : tls = false := htls
    rw [← Option.some.inj h]
    intro hbackend
    exact absurd hbackend (by simp [emitClusterDnsBackend, thenSome])

/-- Plain servers get neither TLS settings nor, in service mode, a policy. -/
theorem emitBackend_plain {cfg : Config} {pangName : String} {c : Classification}
    (htls : c.tls = false) {infx protocol : String} {skip : Bool} {d : Desired}
    {made : ResolvedBackend × Desired}
    (h : emitBackend cfg pangName c infx protocol skip d = some made) : NoTlsAdded d made.2 := by
  cases c with
  | empty => cases h
  | ips addresses port tls =>
    obtain rfl : tls = false := htls
    obtain rfl := Option.some.inj h
    unfold emitIpBackend
    cases cfg.backendKind with
    | service => exact ⟨rfl, fun _ _ hbe => Or.inr hbe⟩
    | envoyBackend => exact emitEnvoyBackend_plain cfg pangName _ port infx d
  | fqdn hostname port tls =>
    obtain rfl : tls = false := htls
    obtain rfl := Option.some.inj h
    exact emitEnvoyBackend_plain cfg pangName _ port infx d
  | clusterDns service ns port tls =>
    obtain rfl : tls = false := htls
    obtain rfl := Option.some.inj h
    exact NoTlsAdded.refl d

/-! ## The loops over the services -/

theorem emitIndexed_plain {cfg : Config} {pangName : String} {c : Classification}
    (htls : c.tls = false) (infx protocol : String) (skip : Bool) (acc : BackendIndex × Desired) :
    NoTlsAdded acc.2 (emitIndexed cfg pangName c infx protocol skip acc).2 := by
  unfold emitIndexed
  cases hmade : emitBackend cfg pangName c infx protocol skip acc.2 with
  | none => exact NoTlsAdded.refl _
  | some made => exact emitBackend_plain htls hmade

theorem emitL4Service_plain (cfg : Config) (proto : L4Protocol) (acc : BackendIndex × Desired)
    (entry : String × L4Service) : NoTlsAdded acc.2 (emitL4Service cfg proto acc entry).2 := by
  apply emitIndexed_plain
  rw [classifyL4Service_targets]
  exact (classifyEntries_of _ _).plain fun e he => l4Targets_plain (selected_subset he)

theorem buildL4Backends_plain (cfg : Config) (services : Map L4Service) (proto : L4Protocol)
    (d : Desired) : NoTlsAdded d (buildL4Backends cfg services proto d).2 := by
  unfold buildL4Backends
  generalize (∅ : BackendIndex) = index
  induction services.toList generalizing index d with
  | nil => exact NoTlsAdded.refl d
  | cons entry entries ih =>
    rw [List.foldl_cons]
    exact (emitL4Service_plain cfg proto (index, d) entry).trans (ih _ _)

variable [UrlCrate]

/-- In envoy-backend mode a service whose selected servers are https resolves to a `Backend` with
TLS, verified unless the service's transport turns that off; one whose servers are http resolves to
nothing with TLS, and no L4 service adds TLS. -/
theorem envoy_backend_tls (cfg : Config) (hkind : cfg.backendKind = .envoyBackend)
    (transports : Map Value) (index : BackendIndex) (d : Desired) :
    (∀ (name : String) (svc : PangService),
      selected (serviceTargets svc) .envoyBackend ≠ [] →
      (∀ e ∈ selected (serviceTargets svc) .envoyBackend, e.tls = true) →
        ∃ made, emitService cfg transports (index, d) (name, svc) = (index.insert name made.1, made.2) ∧
          ResolvesToTls (SkipsVerify svc transports) made) ∧
    (∀ (name : String) (svc : PangService),
      (∀ e ∈ selected (serviceTargets svc) .envoyBackend, e.tls = false) →
        emitService cfg transports (index, d) (name, svc) = (index, d) ∨
        ∃ made, emitService cfg transports (index, d) (name, svc) = (index.insert name made.1, made.2) ∧
          ResolvesPlain made ∧ NoTlsAdded d made.2) ∧
    (∀ (services : Map L4Service) (proto : L4Protocol),
      NoTlsAdded d (buildL4Backends cfg services proto d).2) := by
  refine ⟨?_, ?_, fun services proto => buildL4Backends_plain cfg services proto d⟩
  · intro name svc hne htls
    have hclass : (classifyService cfg svc).tls = true := by
      rw [classifyService_targets, hkind]
      exact (classifyEntries_of _ _).tls_iff.mpr ⟨hne, htls⟩
    obtain ⟨made, hmade, hresolves⟩ := emitBackend_tls hkind name hclass "" "TCP"
      (serviceSkipsVerify svc transports) d
    refine ⟨made, by rw [emitService, emitIndexed, hmade], ?_⟩
    rwa [serviceSkipsVerify_iff] at hresolves
  · intro name svc htls
    have hclass : (classifyService cfg svc).tls = false := by
      rw [classifyService_targets, hkind]
      exact (classifyEntries_of _ _).plain htls
    cases hmade : emitBackend cfg name (classifyService cfg svc) "" "TCP"
      (serviceSkipsVerify svc transports) d with
    | none =>
      left
      rw [emitService, emitIndexed, hmade]
    | some made =>
      right
      refine ⟨made, by rw [emitService, emitIndexed, hmade], ?_, emitBackend_plain hclass hmade⟩
      exact emitBackend_resolvesPlain hkind hclass hmade

@[reducible] def externalUrlCrate : UrlCrate where
  parse s := if s = "https://api.example.com"
    then some ⟨"https://api.example.com/", "https", some "api.example.com", some 443⟩ else none
  formUrlencodedParse _ := []
  formUrlencodedSerialize _ := ""

def externalService : PangService := ⟨some ⟨[⟨"https://api.example.com"⟩], none⟩⟩

omit [DefaultHasher] [UrlCrate] in
/-- An external name over https, without a transport. -/
theorem envoy_backend_tls_external :
    ∃ made, @emitService sampleHasher externalUrlCrate (sampleConfig.withKind .envoyBackend) ∅
        (∅, .empty) ("api", externalService) = ((∅ : BackendIndex).insert "api" made.1, made.2) ∧
      ResolvesToTls (SkipsVerify externalService ∅) made := by
  let _ := sampleHasher
  let _ := externalUrlCrate
  have hselected : selected (serviceTargets externalService) .envoyBackend =
    [⟨"api.example.com", 443, true⟩] := by rfl
  refine (envoy_backend_tls (sampleConfig.withKind .envoyBackend) rfl ∅ ∅ .empty).1 "api"
    externalService ?_ ?_
  · simp [hselected]
  · simp [hselected]

end Emitters

end PangolinGateway
