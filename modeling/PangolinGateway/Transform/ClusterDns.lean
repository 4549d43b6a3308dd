import PangolinGateway.Text.Split
import PangolinGateway.Transform.Selected

/-! # Where the traffic of a server goes

A host is taken for a Kubernetes Service by its first three labels, up to letter case and trailing
dots; the labels after them are a search-domain suffix and are dropped. Every other name keeps its
hostname in envoy-backend mode and is passed over in service mode. -/
namespace PangolinGateway
set_option autoImplicit false

/-! ## The names of cluster Services -/

/-- A host up to letter case and trailing dots. -/
def normalizedHost (host : String) : List Char :=
  (Str.trimEndMatches (· == '.') host.toList).map Str.toAsciiLowercase

/-- `<svc>.<ns>.svc`, by itself or before further labels. -/
structure ClusterName (svc ns host : String) : Prop where
  svc_label : '.' ∉ svc.toList
  ns_label : '.' ∉ ns.toList
  text : ∃ suffix, normalizedHost host =
      svc.toList ++ '.' :: (ns.toList ++ '.' :: ("svc".toList ++ suffix)) ∧
    (suffix = [] ∨ suffix.head? = some '.')

theorem parseClusterDns_labels {host svc ns : String} :
    parseClusterDns host = some (svc, ns) ↔ ∃ labels,
      (normalizedHost host).splitOn '.' = svc.toList :: ns.toList :: "svc".toList :: labels := by
  unfold parseClusterDns normalizedHost
  simp only
  constructor
  · intro h
    split at h
    · next s n third labels hsplit =>
      split at h
      · next hthird =>
        obtain ⟨rfl, rfl⟩ := Prod.mk.inj (Option.some.inj h)
        exact ⟨labels, by simp [hsplit, hthird]⟩
      · cases h
    · cases h
  · rintro ⟨labels, hsplit⟩
    simp [hsplit]

theorem parseClusterDns_iff {host svc ns : String} :
    parseClusterDns host = some (svc, ns) ↔ ClusterName svc ns host := by
  rw [parseClusterDns_labels]
  constructor
  · rintro ⟨labels, hsplit⟩
    obtain ⟨rest, htext, hsvc, hrest⟩ := Split.splitOn_eq_cons_iff.mp hsplit
    obtain ⟨third, rfl, hns, hthird⟩ := Split.splitOn_eq_cons_iff.mp hrest
    obtain ⟨_, suffix, rfl, hsuffix⟩ := Split.splitOn_head_iff.mp ⟨labels, hthird⟩
    exact ⟨hsvc, hns, suffix, htext, hsuffix⟩
  · rintro ⟨hsvc, hns, suffix, htext, hsuffix⟩
    have hlabel : '.' ∉ "svc".toList := by decide
    obtain ⟨labels, hthird⟩ := Split.splitOn_head_iff.mpr ⟨hlabel, suffix, rfl, hsuffix⟩
    refine ⟨labels, ?_⟩
    rw [htext, List.splitOn_append_cons_self_of_not_mem hsvc,
      List.splitOn_append_cons_self_of_not_mem hns, hthird]

namespace HostPort

theorem remaining_iff {e : HostPort} :
    e.remaining = true ↔ e.ip = none ∧ ∀ svc ns, ¬ ClusterName svc ns e.host := by
  unfold remaining clusterDns
  cases hip : e.ip with
  | some ip => simp
  | none =>
    simp only [Option.isNone_none, Option.isSome_none, Bool.false_eq_true, if_false, Bool.true_and,
      Option.isNone_iff_eq_none, true_and]
    rw [Option.eq_none_iff_forall_ne_some]
    simp only [Prod.forall, ne_eq, parseClusterDns_iff]

theorem remaining_ip {e : HostPort} (h : e.remaining = true) : e.ip = none :=
  (remaining_iff.mp h).1

theorem remaining_clusterDns {e : HostPort} (h : e.remaining = true) : e.clusterDns = none := by
  simp only [remaining, Bool.and_eq_true, Option.isNone_iff_eq_none] at h
  exact h.2

theorem clusterDns_parse {e : HostPort} {made : String × String} (h : e.clusterDns = some made) :
    parseClusterDns e.host = some made := by
  unfold clusterDns at h
  split at h
  · cases h
  · exact h

end HostPort

/-! ## Other names in the list of servers -/

section Others
variable {e : HostPort} (h : e.remaining = true) (xs ys : List HostPort)
include h

theorem firstIp_other : firstIp (xs ++ e :: ys) = firstIp (xs ++ ys) := by
  simp [firstIp, HostPort.remaining_ip h]

theorem firstCluster_other : firstCluster (xs ++ e :: ys) = firstCluster (xs ++ ys) := by
  simp [firstCluster, List.findSome?_append, HostPort.remaining_clusterDns h]

theorem agreeingIps_other (first : HostPort) :
    agreeingIps first (xs ++ e :: ys) = agreeingIps first (xs ++ ys) := by
  unfold agreeingIps
  rw [List.filter_append, List.filter_append, List.filterMap_append, List.filterMap_append]
  congr 1
  rw [List.filter_cons]
  split
  · rw [List.filterMap_cons_none (HostPort.remaining_ip h)]
  · rfl

/-- Without an `Fqdn` endpoint to become, the server is passed over. -/
theorem classifyReference_other {kind : BackendKind}
    (hfqdn : firstIp (xs ++ ys) = none → firstCluster (xs ++ ys) = none →
      firstFqdn kind (xs ++ e :: ys) = firstFqdn kind (xs ++ ys)) :
    classifyReference (xs ++ e :: ys) kind = classifyReference (xs ++ ys) kind := by
  unfold classifyReference
  rw [firstIp_other h, firstCluster_other h]
  cases hip : firstIp (xs ++ ys) with
  | some first => simp only [agreeingIps_other h]
  | none =>
    cases hcluster : firstCluster (xs ++ ys) with
    | some made => rfl
    | none => simp only [hfqdn hip hcluster]

theorem classifyEntries_other_service :
    classifyEntries (xs ++ e :: ys) .service = classifyEntries (xs ++ ys) .service := by
  rw [classifyEntries_eq, classifyEntries_eq]
  exact classifyReference_other h xs ys fun _ _ => rfl

theorem classifyEntries_other_first (hys : ∀ e' ∈ ys, e'.remaining = true) :
    classifyEntries (e :: ys) .envoyBackend = .fqdn e.host e.port e.tls := by
  have hall : ∀ e' ∈ e :: ys, e'.remaining = true := by
    intro e' he'
    obtain rfl | he' := List.mem_cons.mp he'
    · exact h
    · exact hys e' he'
  have hip : firstIp (e :: ys) = none := by
    refine List.find?_eq_none.mpr fun e' he' => ?_
    simp [HostPort.remaining_ip (hall e' he')]
  have hcluster : firstCluster (e :: ys) = none := by
    refine List.findSome?_eq_none_iff.mpr fun e' he' => ?_
    rw [HostPort.remaining_clusterDns (hall e' he')]
    rfl
  rw [classifyEntries_eq]
  simp [classifyReference, hip, hcluster, firstFqdn, h]

theorem classifyEntries_other_later (hbefore : xs ≠ [] ∨ ∃ e' ∈ ys, e'.remaining = false) :
    classifyEntries (xs ++ e :: ys) .envoyBackend = classifyEntries (xs ++ ys) .envoyBackend := by
  rw [classifyEntries_eq, classifyEntries_eq]
  refine classifyReference_other h xs ys fun hip hcluster => ?_
  -- no IP and no cluster name means that every server is another name
  have hall : ∀ e' ∈ xs ++ ys, e'.remaining = true := by
    intro e' he'
    have hnone : e'.ip = none := by simpa using List.find?_eq_none.mp hip e' he'
    have hmap := List.findSome?_eq_none_iff.mp hcluster e' he'
    have hdns : e'.clusterDns = none := by simpa using hmap
    simp [HostPort.remaining, hnone, hdns]
  cases xs with
  | cons e' xs => simp [firstFqdn, hall e' (by simp)]
  | nil =>
    obtain hne | ⟨e', he', hfalse⟩ := hbefore
    · exact absurd rfl hne
    · rw [hall e' (by simpa using he')] at hfalse
      cases hfalse

/-- Another name becomes the `Fqdn` endpoint when it is the one the mode can carry, and is passed
over when an IP, a cluster name or an earlier name is preferred to it. -/
theorem classifyEntries_other_envoy :
    classifyEntries (xs ++ e :: ys) .envoyBackend =
      if xs = [] ∧ ys.all HostPort.remaining then .fqdn e.host e.port e.tls
      else classifyEntries (xs ++ ys) .envoyBackend := by
  split
  · next hfirst =>
    obtain ⟨rfl, hys⟩ := hfirst
    exact classifyEntries_other_first h ys (List.all_eq_true.mp hys)
  · next hlater =>
    apply classifyEntries_other_later h
    by_cases hxs : xs = []
    · right
      simpa [hxs] using hlater
    · exact Or.inl hxs

end Others

/-! ## The destinations of a backend -/

/-- Where the traffic of a backend ends up. -/
inductive Destination where
  | address (address : String)
  | hostname (hostname : String)
  | service (name ns : String)

/-- The destination is the host itself, or the cluster Service that the host names. -/
def Destination.At (host : String) : Destination → Prop
  | .address text => ∃ ip, Str.IpAddr.parse host.toList = some ip ∧ text = String.ofList ip.print
  | .hostname name => name = host ∨ ∃ svc ns, ClusterName svc ns host ∧ name = clusterHostname svc ns
  | .service name ns => ClusterName name ns host

def BackendEndpoint.destinations (endpoint : BackendEndpoint) : List Destination :=
  (endpoint.ip.map fun ip => Destination.address ip.address).toList ++
    (endpoint.fqdn.map fun fqdn => Destination.hostname fqdn.hostname).toList

/-- In envoy-backend mode a backend is a `Backend` with its endpoints or a Service that exists. -/
def envoyDestinations (cfg : Config) (backend : ResolvedBackend) (d : Desired) : List Destination :=
  if backend.kind = "Backend" then
    (d.envoyBackends[backend.name]?).elim [] fun be =>
      be.spec.endpoints.flatMap BackendEndpoint.destinations
  else [.service backend.name (backend.ns.getD cfg.ns)]

section Traffic
variable [DefaultHasher]

theorem envoyDestinations_backend (cfg : Config) (pangName : String)
    (endpoints : List BackendEndpoint) (port : ℤ) (infx : String) (tls : Option BackendTlsSettings) :
    envoyDestinations cfg (emitEnvoyBackend cfg pangName endpoints port infx tls .empty).1
      (emitEnvoyBackend cfg pangName endpoints port infx tls .empty).2 =
        endpoints.flatMap BackendEndpoint.destinations := by
  simp [envoyDestinations, emitEnvoyBackend]

theorem emitBackend_destinations {cfg : Config} (hkind : cfg.backendKind = .envoyBackend)
    {pangName infx protocol : String} {c : Classification} {entries : List HostPort}
    {skipVerify : Bool} {made : ResolvedBackend × Desired} (hpaired : c.Paired entries)
    (h : emitBackend cfg pangName c infx protocol skipVerify .empty = some made) :
    ∀ dest ∈ envoyDestinations cfg made.1 made.2, ∃ e ∈ entries, dest.At e.host := by
  intro dest hdest
  cases c with
  | empty => simp [emitBackend] at h
  | ips addresses port tls =>
    simp only [emitBackend, emitIpBackend, hkind, Option.some.injEq] at h
    rw [← h, envoyDestinations_backend, List.flatMap_map] at hdest
    obtain ⟨ip, hip, hdest⟩ := List.mem_flatMap.mp hdest
    obtain rfl : dest = .address (String.ofList ip.print) := by
      simpa [BackendEndpoint.destinations] using hdest
    obtain ⟨e, he, hparse, _⟩ := hpaired ip hip
    exact ⟨e, he, ip, hparse, rfl⟩
  | fqdn hostname port tls =>
    simp only [emitBackend, emitFqdnBackend, Option.some.injEq] at h
    rw [← h, envoyDestinations_backend] at hdest
    obtain rfl : dest = .hostname hostname := by simpa [BackendEndpoint.destinations] using hdest
    obtain ⟨e, he, hhost, _⟩ := hpaired
    exact ⟨e, he, Or.inl hhost.symm⟩
  | clusterDns svc ns port tls =>
    obtain ⟨e, he, hdns, _⟩ := hpaired
    have hname : ClusterName svc ns e.host := parseClusterDns_iff.mp (HostPort.clusterDns_parse hdns)
    refine ⟨e, he, ?_⟩
    cases tls with
    | false =>
      simp only [emitBackend, emitClusterDnsBackend, thenSome, Bool.false_eq_true, if_false,
        Option.some.injEq] at h
      rw [← h] at hdest
      obtain rfl : dest = .service svc ns := by simpa [envoyDestinations] using hdest
      exact hname
    | true =>
      simp only [emitBackend, emitClusterDnsBackend, emitFqdnBackend, thenSome, if_true, hkind,
        Option.some.injEq] at h
      rw [← h, envoyDestinations_backend] at hdest
      obtain rfl : dest = .hostname (clusterHostname svc ns) := by
        simpa [BackendEndpoint.destinations, clusterHostname] using hdest
      exact Or.inr ⟨svc, ns, hname, rfl⟩

variable [UrlCrate]

/-- A server that is no IP is taken for the Service `(svc, ns)` only when its host is
`<svc>.<ns>.svc`, possibly before further labels. Every other name becomes an `Fqdn` endpoint with
that hostname or is dropped, and in envoy-backend mode the traffic of a service goes to the host of
one of its servers or to the Service that this host names. -/
theorem server_hosts (cfg : Config) (dynConfig : TraefikDynamicConfig) :
    (∀ host svc ns : String, parseClusterDns host = some (svc, ns) → ClusterName svc ns host) ∧
    (∀ (xs ys : List HostPort) (e : HostPort), e.ip = none →
      (∀ svc ns, ¬ ClusterName svc ns e.host) →
        classifyEntries (xs ++ e :: ys) .service = classifyEntries (xs ++ ys) .service ∧
        classifyEntries (xs ++ e :: ys) .envoyBackend =
          if xs = [] ∧ ys.all HostPort.remaining then .fqdn e.host e.port e.tls
          else classifyEntries (xs ++ ys) .envoyBackend) ∧
    (cfg.backendKind = .envoyBackend → ∀ (b : Block) (name : String) (backend : ResolvedBackend)
      (d : Desired), serviceBackend cfg dynConfig b name = some (backend, d) →
        ∀ dest ∈ envoyDestinations cfg backend d,
          ∃ e ∈ blockTargets cfg dynConfig b name, dest.At e.host) := by
  refine ⟨fun host svc ns => parseClusterDns_iff.mp, ?_, ?_⟩
  · intro xs ys e hip hname
    have hother : e.remaining = true := HostPort.remaining_iff.mpr ⟨hip, hname⟩
    exact ⟨classifyEntries_other_service hother xs ys, classifyEntries_other_envoy hother xs ys⟩
  · intro hkind b name backend d hmade
    rw [serviceBackend_eq, classifyEntries_eq] at hmade
    exact emitBackend_destinations hkind (classifyReference_paired _ _) hmade

omit [DefaultHasher] [UrlCrate] in
/-- A cluster name, another name, and the IP server of the sample. -/
theorem server_hosts_sample :
    ClusterName "echo" "foo" "echo.foo.svc" ∧
    classifyEntries [⟨"api.example.com", 443, true⟩] .envoyBackend = .fqdn "api.example.com" 443 true ∧
    ∃ e ∈ @blockTargets sampleUrlCrate (sampleConfig.withKind .envoyBackend)
      (sampleDynConfig sampleRouters) .http "app", (Destination.address "10.0.0.7").At e.host := by
  let _ := sampleHasher
  let _ := sampleUrlCrate
  obtain ⟨hcluster, hother, htraffic⟩ := server_hosts (sampleConfig.withKind .envoyBackend)
    (sampleDynConfig sampleRouters)
  have hnone : parseClusterDns "api.example.com" = none := by decide
  have hname : ∀ svc ns, ¬ ClusterName svc ns "api.example.com" := by
    intro svc ns h
    rw [parseClusterDns_iff.mpr h] at hnone
    cases hnone
  refine ⟨hcluster _ _ _ (by decide), (hother [] [] ⟨"api.example.com", 443, true⟩ (by decide) hname).2, ?_⟩
  let cfg := sampleConfig.withKind .envoyBackend
  let made := emitEnvoyBackend cfg "app" [⟨some ⟨"10.0.0.7", 8080⟩, none⟩] 8080 "" none .empty
  have hmade : serviceBackend cfg (sampleDynConfig sampleRouters) .http "app" = some made := by rfl
  have hdest : Destination.address "10.0.0.7" ∈ envoyDestinations cfg made.1 made.2 := by
    rw [envoyDestinations_backend]
    exact List.mem_cons_self
  exact htraffic rfl .http "app" _ _ hmade _ hdest

omit [DefaultHasher] [UrlCrate] in
/-- A host with a search-domain suffix after `svc.cluster.local` is taken for the Service too. -/
theorem suffixed_host_is_cluster :
    ¬ ∀ host svc ns : String, parseClusterDns host = some (svc, ns) → svc ≠ "" ∧ ns ≠ "" ∧
      (normalizedHost host = (svc ++ "." ++ ns ++ ".svc").toList ∨
        normalizedHost host = (clusterHostname svc ns).toList) := by
  intro h
  have hparse : parseClusterDns "echo.foo.svc.cluster.local.corp.example" = some ("echo", "foo") := by
    decide
  obtain ⟨_, _, htext⟩ := h _ _ _ hparse
  revert htext
  decide

end Traffic

end PangolinGateway
