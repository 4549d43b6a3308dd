import PangolinGateway.Transform.Backend

/-! # What a list of servers is classified as

One pass over the servers keeps five accumulators. Each of them is a function of the servers seen so
far, and together they are the declarative reading of the list: the first IP server sets port and
scheme, the others join when they agree with it. -/
namespace PangolinGateway
set_option autoImplicit false

namespace HostPort

def ip (e : HostPort) : Option Str.IpAddr := Str.IpAddr.parse e.host.toList

def clusterDns (e : HostPort) : Option (String × String) :=
  if e.ip.isSome then none else parseClusterDns e.host

/-- Neither an IP nor cluster DNS. -/
def remaining (e : HostPort) : Bool := e.ip.isNone && e.clusterDns.isNone

def agrees (first e : HostPort) : Bool := first.port == e.port && first.tls == e.tls

end HostPort

/-! ## The declarative reading -/

def firstIp (entries : List HostPort) : Option HostPort := entries.find? fun e => e.ip.isSome

def agreeingIps (first : HostPort) (entries : List HostPort) : List Str.IpAddr :=
  (entries.filter first.agrees).filterMap HostPort.ip

def firstCluster (entries : List HostPort) : Option (String × String × ℤ × Bool) :=
  entries.findSome? fun e => e.clusterDns.map fun (svc, ns) => (svc, ns, e.port, e.tls)

def firstFqdn (kind : BackendKind) (entries : List HostPort) : Option (String × ℤ × Bool) :=
  match kind with
  | .service => none
  | .envoyBackend => (entries.find? HostPort.remaining).map fun e => (e.host, e.port, e.tls)

/-- The reading `classifyEntries` is compared with: IPs before cluster DNS before other names, each
with the port and scheme of its own first server. -/
def classifyReference (entries : List HostPort) (kind : BackendKind) : Classification :=
  match firstIp entries with
  | some first => .ips (agreeingIps first entries) first.port first.tls
  | none => match firstCluster entries with
    | some (svc, ns, port, tls) => .clusterDns svc ns port tls
    | none => match firstFqdn kind entries with
      | some (hostname, port, tls) => .fqdn hostname port tls
      | none => .empty

/-! ## The accumulators of the loop -/

/-- What the loop holds after `entries`. -/
def classifyState (kind : BackendKind) (entries : List HostPort) : ClassifyState where
  ips := (firstIp entries).elim [] (agreeingIps · entries)
  ipPort := (firstIp entries).map HostPort.port
  ipTls := (firstIp entries).map HostPort.tls
  cluster := firstCluster entries
  fqdn := firstFqdn kind entries

theorem firstIp_concat (entries : List HostPort) (e : HostPort) :
    firstIp (entries ++ [e]) = (firstIp entries).or (if e.ip.isSome then some e else none) := by
  rw [firstIp, List.find?_append, List.find?_singleton]
  rfl

theorem agreeingIps_concat (first : HostPort) (entries : List HostPort) (e : HostPort) :
    agreeingIps first (entries ++ [e]) =
      agreeingIps first entries ++ (if first.agrees e then e.ip else none).toList := by
  rw [agreeingIps, List.filter_append, List.filterMap_append]
  congr 1
  cases hagrees : first.agrees e with
  | false => simp [hagrees]
  | true => cases hip : e.ip <;> simp [hagrees, hip]

theorem firstCluster_concat (entries : List HostPort) (e : HostPort) :
    firstCluster (entries ++ [e]) = (firstCluster entries).or
      (e.clusterDns.map fun (svc, ns) => (svc, ns, e.port, e.tls)) := by
  rw [firstCluster, List.findSome?_append, List.findSome?_singleton]
  rfl

theorem firstFqdn_concat (kind : BackendKind) (entries : List HostPort) (e : HostPort) :
    firstFqdn kind (entries ++ [e]) = (firstFqdn kind entries).or
      (if kind = .envoyBackend ∧ e.remaining = true then some (e.host, e.port, e.tls) else none) := by
  cases kind with
  | service => simp [firstFqdn]
  | envoyBackend =>
    simp only [firstFqdn, List.find?_append, List.find?_singleton]
    cases entries.find? HostPort.remaining <;> cases e.remaining <;> simp

/-- Without an IP server before it there is nothing an address could agree with. -/
theorem agreeingIps_eq_nil {entries : List HostPort} (h : firstIp entries = none)
    (first : HostPort) : agreeingIps first entries = [] := by
  rw [agreeingIps, List.filterMap_eq_nil_iff]
  intro e he
  have hnone := List.find?_eq_none.mp h e (List.mem_of_mem_filter he)
  simpa using hnone

theorem classifyEntry_ip {kind : BackendKind} {entries : List HostPort} {e : HostPort}
    {ip : Str.IpAddr} (hip : e.ip = some ip) :
    classifyEntry kind (classifyState kind entries) e = classifyState kind (entries ++ [e]) := by
  have hparse : Str.IpAddr.parse e.host.toList = some ip := hip
  have hcluster : e.clusterDns = none := by simp [HostPort.clusterDns, hip]
  have hremaining : e.remaining = false := by simp [HostPort.remaining, hip]
  unfold classifyEntry classifyState
  simp only [firstIp_concat, firstCluster_concat, firstFqdn_concat, hparse, hcluster, hremaining, hip]
  cases hfirst : firstIp entries with
  | none =>
    have hself : e.agrees e = true := by simp [HostPort.agrees]
    simp [agreeingIps_concat, agreeingIps_eq_nil hfirst, hself, hip]
  | some first =>
    simp only [Option.some_or, Option.elim_some, Option.map_some, agreeingIps_concat, hip]
    -- a server with another port or scheme is passed over
    by_cases hport : first.port = e.port
    · by_cases htls : first.tls = e.tls
      · simp [HostPort.agrees, hport, htls]
      · simp [HostPort.agrees, hport, htls]
    · simp [HostPort.agrees, hport]

theorem classifyEntry_cluster {kind : BackendKind} {entries : List HostPort} {e : HostPort}
    {name : String × String} (hip : e.ip = none) (hcluster : parseClusterDns e.host = some name) :
    classifyEntry kind (classifyState kind entries) e = classifyState kind (entries ++ [e]) := by
  have hparse : Str.IpAddr.parse e.host.toList = none := hip
  have hdns : e.clusterDns = some name := by simp [HostPort.clusterDns, hip, hcluster]
  have hremaining : e.remaining = false := by simp [HostPort.remaining, hdns]
  unfold classifyEntry classifyState
  simp only [firstIp_concat, firstCluster_concat, firstFqdn_concat, agreeingIps_concat, hparse,
    hcluster, hdns, hremaining, hip]
  cases hfirst : firstCluster entries <;> simp

theorem classifyEntry_remaining {kind : BackendKind} {entries : List HostPort} {e : HostPort}
    (hip : e.ip = none) (hcluster : parseClusterDns e.host = none) :
    classifyEntry kind (classifyState kind entries) e = classifyState kind (entries ++ [e]) := by
  have hparse : Str.IpAddr.parse e.host.toList = none := hip
  have hdns : e.clusterDns = none := by simp [HostPort.clusterDns, hip, hcluster]
  have hremaining : e.remaining = true := by simp [HostPort.remaining, hip, hdns]
  unfold classifyEntry classifyState
  simp only [firstIp_concat, firstCluster_concat, firstFqdn_concat, agreeingIps_concat, hparse,
    hcluster, hdns, hremaining, hip]
  cases kind with
  | service => simp
  | envoyBackend => cases hfirst : firstFqdn .envoyBackend entries <;> simp

theorem classifyEntry_state (kind : BackendKind) (entries : List HostPort) (e : HostPort) :
    classifyEntry kind (classifyState kind entries) e = classifyState kind (entries ++ [e]) := by
  cases hip : e.ip with
  | some ip => exact classifyEntry_ip hip
  | none =>
    cases hcluster : parseClusterDns e.host with
    | some name => exact classifyEntry_cluster hip hcluster
    | none => exact classifyEntry_remaining hip hcluster

theorem foldl_classifyEntry (kind : BackendKind) (entries : List HostPort) :
    entries.foldl (classifyEntry kind) ⟨[], none, none, none, none⟩ = classifyState kind entries := by
  induction entries using List.reverseRecOn with
  | nil => cases kind <;> rfl
  | append_singleton entries e ih => rw [List.foldl_concat, ih, classifyEntry_state]

/-! ## The classification -/

theorem agreeingIps_ne_nil {entries : List HostPort} {first : HostPort}
    (h : firstIp entries = some first) : agreeingIps first entries ≠ [] := by
  have hfirst : first.ip.isSome = true := @List.find?_some _ (fun e : HostPort => e.ip.isSome) _ _ h
  obtain ⟨ip, hip⟩ := Option.isSome_iff_exists.mp hfirst
  apply List.ne_nil_of_mem (a := ip)
  refine List.mem_filterMap.mpr ⟨first, List.mem_filter.mpr ⟨List.mem_of_find?_eq_some h, ?_⟩, hip⟩
  simp [HostPort.agrees]

theorem classifyEntries_eq (entries : List HostPort) (kind : BackendKind) :
    classifyEntries entries kind = classifyReference entries kind := by
  unfold classifyEntries classifyReference
  rw [foldl_classifyEntry]
  cases hfirst : firstIp entries with
  | none =>
    cases hcluster : firstCluster entries <;> cases hfqdn : firstFqdn kind entries <;>
      simp [classifyState, hfirst, hcluster, hfqdn]
  | some first => simp [classifyState, hfirst, agreeingIps_ne_nil hfirst]

/-- Every endpoint is a server of the list with its own port and scheme. -/
def Classification.Paired (entries : List HostPort) : Classification → Prop
  | .empty => True
  | .ips addresses port tls => ∀ ip ∈ addresses, ∃ e ∈ entries, e.ip = some ip ∧ e.port = port ∧ e.tls = tls
  | .fqdn hostname port tls => ∃ e ∈ entries, e.host = hostname ∧ e.port = port ∧ e.tls = tls
  | .clusterDns svc ns port tls =>
    ∃ e ∈ entries, e.clusterDns = some (svc, ns) ∧ e.port = port ∧ e.tls = tls

theorem agreeingIps_paired {first : HostPort} {entries : List HostPort} :
    (Classification.ips (agreeingIps first entries) first.port first.tls).Paired entries := by
  intro ip hip
  obtain ⟨e, he, hip⟩ := List.mem_filterMap.mp hip
  obtain ⟨hmem, hagrees⟩ := List.mem_filter.mp he
  simp only [HostPort.agrees, Bool.and_eq_true, beq_iff_eq] at hagrees
  exact ⟨e, hmem, hip, hagrees.1.symm, hagrees.2.symm⟩

theorem firstCluster_paired {entries : List HostPort} {svc ns : String} {port : ℤ} {tls : Bool}
    (h : firstCluster entries = some (svc, ns, port, tls)) :
    (Classification.clusterDns svc ns port tls).Paired entries := by
  obtain ⟨e, he, hmap⟩ := List.exists_of_findSome?_eq_some h
  obtain ⟨⟨svc', ns'⟩, hdns, heq⟩ := Option.map_eq_some_iff.mp hmap
  simp only [Prod.mk.injEq] at heq
  obtain ⟨rfl, rfl, hport, htls⟩ := heq
  exact ⟨e, he, hdns, hport, htls⟩

theorem firstFqdn_paired {kind : BackendKind} {entries : List HostPort} {hostname : String}
    {port : ℤ} {tls : Bool} (h : firstFqdn kind entries = some (hostname, port, tls)) :
    (Classification.fqdn hostname port tls).Paired entries := by
  cases kind with
  | service => simp [firstFqdn] at h
  | envoyBackend =>
    obtain ⟨e, he, heq⟩ := Option.map_eq_some_iff.mp h
    simp only [Prod.mk.injEq] at heq
    exact ⟨e, List.mem_of_find?_eq_some he, heq⟩

theorem classifyReference_paired (entries : List HostPort) (kind : BackendKind) :
    (classifyReference entries kind).Paired entries := by
  unfold classifyReference
  cases firstIp entries with
  | some first => exact agreeingIps_paired
  | none =>
    cases hcluster : firstCluster entries with
    | some made => exact firstCluster_paired hcluster
    | none =>
      cases hfqdn : firstFqdn kind entries with
      | some made => exact firstFqdn_paired hfqdn
      | none => trivial

/-- The loop reads off the list what the declarative reading does, and no endpoint pairs an address
with another server's port or scheme. -/
theorem classifyEntries_reads (entries : List HostPort) (kind : BackendKind) :
    classifyEntries entries kind = classifyReference entries kind ∧
      (classifyEntries entries kind).Paired entries := by
  rw [classifyEntries_eq]
  exact ⟨rfl, classifyReference_paired entries kind⟩

end PangolinGateway
