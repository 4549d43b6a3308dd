import PangolinGateway.Transform.ListenerNames
import PangolinGateway.Transform.Named
import PangolinGateway.Transform.Written

/-! # Referential closure of a built desired set

What an object names, a builder wrote under that name in the same turn or before it, and a later
insert only replaces an object by another of the same kind and name. -/
namespace PangolinGateway
set_option autoImplicit false

def ObjectMeta.label (m : ObjectMeta) (key : String) : Option String :=
  m.labels.bind fun labels => labels[key]?

structure ReferentiallyClosed (desired : Desired) : Prop where
  backends : ∀ (k : Kind) (name : String) (route : k.Obj), desired.find k name = some route →
    ∀ ref ∈ k.backendRefs route, ref.kind = some "Backend" → ref.name ∈ desired.envoyBackends
  services : ∀ (k : Kind) (name : String) (route : k.Obj), desired.find k name = some route →
    ∀ ref ∈ k.backendRefs route, ref.kind = some "Service" → ref.ns = none →
      ref.name ∈ desired.services
  slices : ∀ (name : String) (slice : EndpointSlice), desired.endpointSlices[name]? = some slice →
    ∃ svcName, slice.metadata.label serviceNameLabel = some svcName ∧ svcName ∈ desired.services
  hostnames : ∀ (name : String) (route : HTTPRoute), desired.httpRoutes[name]? = some route →
    ∀ host ∈ route.spec.hostnames.getD [], ∃ (lsName : String) (ls : ListenerSet),
      desired.listenerSets[lsName]? = some ls ∧ ∃ listener ∈ ls.spec.listeners,
        listener.protocol = "HTTP" ∧ listener.hostname = some host
  sections : ∀ (proto : L4Protocol) (name : String) (route : (Block.l4 proto).routeKind.Obj),
    desired.find (Block.l4 proto).routeKind name = some route →
    ∀ ref ∈ (Block.l4 proto).routeKind.parentRefs route, ∃ section_,
      ref.sectionName = some section_ ∧ ∃ (lsName : String) (ls : ListenerSet),
        desired.listenerSets[lsName]? = some ls ∧ ∃ listener ∈ ls.spec.listeners,
          listener.name = section_ ∧ listener.protocol = proto.k8sProtocol
  named : desired.Named

variable [DefaultHasher]

/-! ## Backends and services -/

theorem Emits.backend {cfg : Config} {pangName infx : String} {backend : ResolvedBackend}
    {entries : List Entry} (h : Emits cfg pangName infx backend entries)
    (hkind : backend.kind = "Backend") :
    ∃ be : Backend, (⟨.envoyBackend, be⟩ : Entry) ∈ entries ∧
      be.metadata.name = some backend.name := by
  cases h with
  | synthesized => simp at hkind
  | envoy be port hbe => exact ⟨be, List.mem_cons_self, by rw [hbe, managedMetadata_name]⟩
  | direct => simp at hkind

theorem Emits.kind {cfg : Config} {pangName infx : String} {backend : ResolvedBackend}
    {entries : List Entry} (h : Emits cfg pangName infx backend entries) :
    backend.kind = "Backend" ∨ backend.kind = "Service" := by
  cases h with
  | synthesized => exact Or.inr rfl
  | envoy => exact Or.inl rfl
  | direct => exact Or.inr rfl

theorem Emits.service {cfg : Config} {pangName infx : String} {backend : ResolvedBackend}
    {entries : List Entry} (h : Emits cfg pangName infx backend entries)
    (hkind : backend.kind = "Service") (hns : backend.ns = none) :
    ∃ svc : Service, (⟨.service, svc⟩ : Entry) ∈ entries ∧
      svc.metadata.name = some backend.name := by
  cases h with
  | synthesized svc slice policies port hsvc =>
    exact ⟨svc, List.mem_cons_self, by rw [hsvc, managedMetadata_name]⟩
  | envoy => simp at hkind
  | direct => simp at hns

theorem Emits.endpoints {cfg : Config} {pangName infx : String} {backend : ResolvedBackend}
    {entries : List Entry} (h : Emits cfg pangName infx backend entries)
    (hkind : backend.kind = "Service") (hns : backend.ns = none) :
    ∃ slice : EndpointSlice, (⟨.endpointSlice, slice⟩ : Entry) ∈ entries := by
  cases h with
  | synthesized svc slice => exact ⟨slice, List.mem_cons_of_mem _ List.mem_cons_self⟩
  | envoy => simp at hkind
  | direct => simp at hns

theorem TlsPolicies.kind {cfg : Config} {pangName infx : String} {policies : List Entry}
    (h : TlsPolicies cfg pangName infx policies) {entry : Entry} (hmem : entry ∈ policies) :
    entry.1 = .backendTlsPolicy := by
  rcases h with rfl | ⟨policy, _, rfl⟩
  · simp at hmem
  · rw [List.mem_singleton.mp hmem]

/-- A slice is made along with the Service it is labelled with. -/
theorem Emits.slice {cfg : Config} {pangName infx : String} {backend : ResolvedBackend}
    {entries : List Entry} (h : Emits cfg pangName infx backend entries) {slice : EndpointSlice}
    (hmem : (⟨.endpointSlice, slice⟩ : Entry) ∈ entries) :
    slice.metadata.label serviceNameLabel = some backend.name ∧ backend.kind = "Service" ∧
      backend.ns = none := by
  cases h with
  | synthesized svc made policies port _ hslice hpolicies =>
    simp only [List.mem_cons, reduceCtorEq, Sigma.mk.injEq, false_and, false_or, true_and,
      heq_eq_eq] at hmem
    rcases hmem with rfl | hmem
    · refine ⟨?_, rfl, rfl⟩
      rw [ObjectMeta.label, hslice, managedMetadata_labels, Option.bind_some,
        Std.ExtTreeMap.getElem?_insert_self]
    · exact absurd (hpolicies.kind hmem) (by simp)
  | envoy be port hbe => simp at hmem
  | direct service ns policies port hpolicies => exact absurd (hpolicies.kind hmem) (by simp)

/-! ## Sections -/

theorem nextClaims_of_route {cfg : Config} {proto : L4Protocol} {backends : BackendIndex}
    {claims : PortClaims} {entry : String × L4Router} {e : Entry}
    (h : l4RouteEntry cfg proto backends claims entry = some e) :
    nextClaims cfg proto backends claims entry = (claimEntrypoints cfg proto entry claims).1 := by
  obtain ⟨hrule, hsections, backend, hbackend, _⟩ := l4RouteEntry_some h
  unfold nextClaims emitL4Route
  rw [hrule, hbackend]
  simp only [Bool.not_true, Bool.false_eq_true, if_false]
  unfold claimEntrypoints at hsections ⊢
  rw [if_neg (by simpa using hsections)]
  cases proto <;> rfl

theorem nextClaims_grows (cfg : Config) (proto : L4Protocol) (backends : BackendIndex)
    (claims : PortClaims) (entry : String × L4Router) :
    claims.listeners <+: (nextClaims cfg proto backends claims entry).listeners := by
  rcases emitL4Route_claims cfg proto backends (claims, .empty) entry with heq | heq
  · rw [nextClaims, heq]
  · rw [nextClaims, heq]
    exact (claimEntrypoints_grows cfg proto entry claims).1

theorem foldl_nextClaims_grows (cfg : Config) (proto : L4Protocol) (backends : BackendIndex)
    (l : List (String × L4Router)) (claims : PortClaims) :
    claims.listeners <+: (l.foldl (nextClaims cfg proto backends) claims).listeners := by
  induction l generalizing claims with
  | nil => exact List.prefix_rfl
  | cons entry l ih => exact (nextClaims_grows cfg proto backends claims entry).trans (ih _)

variable [UrlCrate]

/-- The sections of a route stay listeners of its family to the end. -/
theorem sections_listed {cfg : Config} {dynConfig : TraefikDynamicConfig} {proto : L4Protocol}
    {claims : PortClaims} {entry : String × L4Router} {e : Entry}
    (hvisit : (claims, entry) ∈ l4Visits cfg dynConfig proto)
    (hroute : l4RouteEntry cfg proto (blockIndex cfg dynConfig (.l4 proto)) claims entry = some e)
    {section_ : String} (hsection : section_ ∈ (claimEntrypoints cfg proto entry claims).2) :
    ∃ listener ∈ (finalClaims cfg dynConfig proto).listeners,
      listener.name = section_ ∧ listener.protocol = proto.k8sProtocol := by
  obtain ⟨front, back, hsplit, rfl⟩ := WriteLog.mem_visits.mp hvisit
  obtain ⟨listener, hlistener, hname⟩ :=
    (claimEntrypoints_grows cfg proto entry _).2 section_ hsection
  refine ⟨listener, ?_, hname⟩
  rw [finalClaims, hsplit, List.foldl_append, List.foldl_cons, nextClaims_of_route hroute]
  exact (foldl_nextClaims_grows cfg proto _ back _).subset hlistener

theorem finalClaims_listed (cfg : Config) (dynConfig : TraefikDynamicConfig) (proto : L4Protocol)
    {listener : ListenerSetListener} (h : listener ∈ (finalClaims cfg dynConfig proto).listeners) :
    listener ∈ (emittedListenerSet cfg dynConfig).spec.listeners := by
  have hl4 : listener ∈ (tcpStage cfg dynConfig).1 ++ (udpStage cfg dynConfig).1 := by
    rw [tcpStage_writes, udpStage_writes]
    cases proto with
    | tcp => exact List.mem_append_left _ h
    | udp => exact List.mem_append_right _ h
  exact List.mem_append_right _ hl4

/-! ## All references -/

theorem mem_of_written {cfg : Config} {dynConfig : TraefikDynamicConfig} {k : Kind} {name : String}
    {obj : k.Obj} (hwritten : Written cfg dynConfig ⟨k, obj⟩)
    (hname : (k.metadata obj).name = some name) :
    name ∈ (buildDesired cfg dynConfig).objects k := by
  obtain ⟨obj', hfind⟩ := find_buildDesired_written hwritten hname
  exact Map.mem_of_getElem? hfind

/-- A backendRef of a route is that of a service, with all that was made for the service. -/
theorem backendRef_origin {cfg : Config} {dynConfig : TraefikDynamicConfig} {k : Kind}
    {name : String} {route : k.Obj} (hfind : (buildDesired cfg dynConfig).find k name = some route)
    {ref : RouteBackendRef} (href : ref ∈ k.backendRefs route) :
    ∃ b service backend d, serviceBackend cfg dynConfig b service = some (backend, d) ∧
      ref = backend.ref := by
  have hkind := Kind.isRoute_of_backendRefs (List.ne_nil_of_mem href)
  obtain ⟨b, _, service, hroute⟩ := (find_buildDesired_origin hfind).1.of_isRoute hkind
  obtain ⟨backend, hbackend, hrefs⟩ := hroute.routeOf.backend
  obtain ⟨d, hservice⟩ := blockIndex_iff.mp hbackend
  exact ⟨b, service, backend, d, hservice, hrefs ref href⟩

/-- For every configuration the built desired set is referentially closed. -/
theorem referentially_closed (cfg : Config) (dynConfig : TraefikDynamicConfig) :
    ReferentiallyClosed (buildDesired cfg dynConfig) where
  backends := by
    intro k name route hfind ref href hkind
    obtain ⟨b, service, backend, d, hservice, rfl⟩ := backendRef_origin hfind href
    obtain ⟨be, hmem, hname⟩ := (serviceBackend_emits hservice).backend (Option.some.inj hkind)
    exact mem_of_written (.service hservice hmem) hname
  services := by
    intro k name route hfind ref href hkind hns
    obtain ⟨b, service, backend, d, hservice, rfl⟩ := backendRef_origin hfind href
    obtain ⟨svc, hmem, hname⟩ := (serviceBackend_emits hservice).service (Option.some.inj hkind) hns
    exact mem_of_written (.service hservice hmem) hname
  slices := by
    intro name slice hlookup
    have hfind : (buildDesired cfg dynConfig).find .endpointSlice name = some slice := hlookup
    obtain ⟨b, service, backend, d, hservice, hmem⟩ :=
      (find_buildDesired_origin hfind).1.of_backendPrefix
        (show Kind.endpointSlice.backendPrefix = some "eps" from rfl)
    have hemits := serviceBackend_emits hservice
    obtain ⟨hlabel, hkind, hns⟩ := hemits.slice hmem
    obtain ⟨svc, hsvc, hname⟩ := hemits.service hkind hns
    exact ⟨backend.name, hlabel, mem_of_written (.service hservice hsvc) hname⟩
  hostnames := by
    intro name route hlookup host hhost
    obtain ⟨routerName, router, hrouter, hroute, _⟩ := httpRoutes_origin hlookup
    rw [(buildRoute_builds hroute).hostnames, Option.getD_some] at hhost
    have hrouted : RoutedHost cfg dynConfig host :=
      ⟨routerName, router, ⟨hrouter, by rw [hroute]; rfl⟩, hhost⟩
    refine ⟨_, emittedListenerSet cfg dynConfig, listenerSets_iff.mpr ⟨rfl, rfl⟩,
      httpListener cfg host, ?_, rfl, rfl⟩
    refine List.mem_append_left _ (List.mem_append_left _ (List.mem_map.mpr ⟨host, ?_, rfl⟩))
    exact Std.ExtTreeSet.mem_toList.mpr (hostnames_iff.mpr hrouted)
  sections := by
    intro proto name route hfind ref href
    have hkind : (Block.l4 proto).routeKind.isRoute = true := Block.routeKind_isRoute _
    obtain ⟨b, routerName, service, hroute⟩ :=
      (find_buildDesired_origin hfind).1.of_isRoute hkind
    obtain rfl : b = .l4 proto := Block.routeKind_injective hroute.routeOf.kind.symm
    generalize hentry : (⟨(Block.l4 proto).routeKind, route⟩ : Entry) = entry at hroute
    cases hroute with
    | @l4 _ claims _ router _ hvisit hroute =>
      obtain ⟨_, _, backend, _, hmade⟩ := l4RouteEntry_some hroute
      have hparents := (l4Route_route cfg (prefixedLabel proto.infixTag routerName)
        (claimEntrypoints cfg proto (routerName, router) claims).2 backend proto).2.2.2.2.2
      rw [← hmade, ← hentry] at hparents
      rw [hparents] at href
      obtain ⟨section_, hsection, rfl⟩ := List.mem_map.mp href
      obtain ⟨listener, hlistener, hlisted⟩ := sections_listed hvisit hroute hsection
      exact ⟨section_, rfl, _, emittedListenerSet cfg dynConfig, listenerSets_iff.mpr ⟨rfl, rfl⟩,
        listener, finalClaims_listed cfg dynConfig proto hlistener, hlisted⟩
  named := buildDesired_named cfg dynConfig

end PangolinGateway
