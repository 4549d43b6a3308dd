import PangolinGateway.Transform.BuildWrites

/-! # Who writes what

The origin of every object of a built desired set: the service of a block it was synthesised for,
the router it routes, or the ListenerSet. -/
namespace PangolinGateway
set_option autoImplicit false

namespace Block

/-- The prefix of the names of the block's routes. -/
def routePrefix : Block → String
  | http => "hr"
  | l4 proto => proto.infixTag

def routeKind : Block → Kind
  | http => .httpRoute
  | l4 .tcp => .tcpRoute
  | l4 .udp => .udpRoute

end Block

/-! ## The references of a route -/

namespace Kind

def parentRefs : (k : Kind) → k.Obj → List RouteParentRef
  | .httpRoute, route => route.spec.parentRefs.getD []
  | .tcpRoute, route => route.spec.parentRefs.getD []
  | .udpRoute, route => route.spec.parentRefs.getD []
  | _, _ => []

def backendRefs : (k : Kind) → k.Obj → List RouteBackendRef
  | .httpRoute, route => (route.spec.rules.getD []).flatMap fun rule => rule.backendRefs.getD []
  | .tcpRoute, route => route.spec.rules.flatMap L4RouteRule.backendRefs
  | .udpRoute, route => route.spec.rules.flatMap L4RouteRule.backendRefs
  | _, _ => []

def isRoute : Kind → Bool
  | .httpRoute | .tcpRoute | .udpRoute => true
  | _ => false

theorem isRoute_of_parentRefs {k : Kind} {obj : k.Obj} (h : k.parentRefs obj ≠ []) :
    k.isRoute = true := by
  cases k <;> first | rfl | exact absurd rfl h

theorem isRoute_of_backendRefs {k : Kind} {obj : k.Obj} (h : k.backendRefs obj ≠ []) :
    k.isRoute = true := by
  cases k <;> first | rfl | exact absurd rfl h

theorem not_isRoute_of_backendPrefix {k : Kind} {base : String} (h : k.backendPrefix = some base) :
    k.isRoute = false := by
  cases k <;> first | rfl | simp [backendPrefix] at h

end Kind

theorem Block.routeKind_isRoute (b : Block) : b.routeKind.isRoute = true := by
  rcases b with _ | _ | _ <;> rfl

theorem Block.routeKind_injective {b b' : Block} (h : b.routeKind = b'.routeKind) : b = b' := by
  rcases b with _ | _ | _ <;> rcases b' with _ | _ | _ <;>
    first | rfl | simp [Block.routeKind] at h

def ResolvedBackend.ref (backend : ResolvedBackend) : RouteBackendRef :=
  ⟨some backend.group, some backend.kind, backend.name, backend.ns, some backend.port, some 1⟩

variable [DefaultHasher] [UrlCrate]

/-! ## Routes -/

/-- The route of a router of the block, whose service is `service`. -/
inductive RoutesTo (cfg : Config) (dynConfig : TraefikDynamicConfig) :
    Block → String → String → Entry → Prop
  | http {routerName : String} {router : Router} {route : HTTPRoute}
      (hrouter : dynConfig.http.routers[routerName]? = some router)
      (hroute : buildRoute cfg dynConfig (backendIndex cfg dynConfig) routerName router = some route) :
      RoutesTo cfg dynConfig .http routerName router.service ⟨.httpRoute, route⟩
  | l4 {proto : L4Protocol} {claims : PortClaims} {routerName : String} {router : L4Router}
      {entry : Entry} (hvisit : (claims, routerName, router) ∈ l4Visits cfg dynConfig proto)
      (hroute : l4RouteEntry cfg proto (blockIndex cfg dynConfig (.l4 proto)) claims
        (routerName, router) = some entry) :
      RoutesTo cfg dynConfig (.l4 proto) routerName router.service entry

/-- What the route of a router says, whatever its block. -/
structure RouteOf (cfg : Config) (dynConfig : TraefikDynamicConfig) (b : Block)
    (routerName service : String) (entry : Entry) : Prop where
  kind : entry.1 = b.routeKind
  name : (entry.1.metadata entry.2).name = some (prefixedLabel b.routePrefix routerName)
  ns : (entry.1.metadata entry.2).ns = some cfg.ns
  labels : (entry.1.metadata entry.2).labels = some (ownerLabels cfg "")
  backend : ∃ backend, (blockIndex cfg dynConfig b)[service]? = some backend ∧
    ∀ ref ∈ entry.1.backendRefs entry.2, ref = backend.ref
  attached : entry.1.parentRefs entry.2 ≠ []
  parents : ∀ ref ∈ entry.1.parentRefs entry.2, ref.group = some gatewayGroup ∧
    ref.kind = some "ListenerSet" ∧ ref.name = cfg.listenerSetName ∧ ref.ns = some cfg.ns

omit [UrlCrate] in
theorem l4RouteEntry_some {cfg : Config} {proto : L4Protocol} {backends : BackendIndex}
    {claims : PortClaims} {entry : String × L4Router} {e : Entry}
    (h : l4RouteEntry cfg proto backends claims entry = some e) :
    ruleIsSupported entry.2 proto = true ∧ (claimEntrypoints cfg proto entry claims).2 ≠ [] ∧
      ∃ backend, backends[entry.2.service]? = some backend ∧
        e = l4Route cfg (prefixedLabel proto.infixTag entry.1)
          (claimEntrypoints cfg proto entry claims).2 backend proto := by
  unfold l4RouteEntry at h
  split at h
  · next hrule =>
    obtain ⟨backend, hbackend, h⟩ := Option.bind_eq_some_iff.mp h
    simp only at h
    split at h
    · simp at h
    · next hsections =>
      exact ⟨hrule, by simpa using hsections, backend, hbackend, (Option.some.inj h).symm⟩
  · simp at h

omit [UrlCrate] in
theorem l4RouteEntry_of {cfg : Config} {proto : L4Protocol} {backends : BackendIndex}
    {claims : PortClaims} {entry : String × L4Router} {backend : ResolvedBackend}
    (hrule : ruleIsSupported entry.2 proto = true)
    (hbackend : backends[entry.2.service]? = some backend)
    (hsections : (claimEntrypoints cfg proto entry claims).2 ≠ []) :
    l4RouteEntry cfg proto backends claims entry = some (l4Route cfg
      (prefixedLabel proto.infixTag entry.1) (claimEntrypoints cfg proto entry claims).2 backend
        proto) := by
  unfold l4RouteEntry
  rw [if_pos hrule, hbackend, Option.bind_some]
  simp [hsections]

omit [DefaultHasher] [UrlCrate] in
theorem l4Route_route (cfg : Config) (routeName : String) (sectionNames : List String)
    (backend : ResolvedBackend) (proto : L4Protocol) :
    let entry := l4Route cfg routeName sectionNames backend proto
    entry.1 = (Block.l4 proto).routeKind ∧ (entry.1.metadata entry.2).name = some routeName ∧
      (entry.1.metadata entry.2).ns = some cfg.ns ∧
      (entry.1.metadata entry.2).labels = some (ownerLabels cfg "") ∧
      entry.1.backendRefs entry.2 = [backend.ref] ∧
      entry.1.parentRefs entry.2 = sectionNames.map fun section_ =>
        ⟨some gatewayGroup, some "ListenerSet", cfg.listenerSetName, some cfg.ns, some section_⟩ := by
  cases proto <;> exact ⟨rfl, rfl, rfl, rfl, rfl, rfl⟩

theorem RoutesTo.routeOf {cfg : Config} {dynConfig : TraefikDynamicConfig} {b : Block}
    {routerName service : String} {entry : Entry}
    (h : RoutesTo cfg dynConfig b routerName service entry) :
    RouteOf cfg dynConfig b routerName service entry := by
  cases h with
  | http hrouter hroute =>
    have hbuilds := buildRoute_builds hroute
    obtain ⟨backend, hbackend, hrules⟩ := hbuilds.rules
    have hmetadata := hbuilds.metadata
    constructor
    · rfl
    · simp only [Kind.metadata, hmetadata, managedMetadataWith_name, Block.routePrefix]
    · exact congrArg ObjectMeta.ns hmetadata
    · simp only [Kind.metadata, hmetadata, managedMetadataWith_labels, ownerLabels]
    · refine ⟨backend, hbackend, ?_⟩
      simp only [Kind.backendRefs, hrules, Option.getD_some, List.flatMap_singleton, routeRule,
        thenSome]
      split <;> simp [ResolvedBackend.ref]
    · simp [Kind.parentRefs, hbuilds.parentRefs]
    · simp [Kind.parentRefs, hbuilds.parentRefs]
  | @l4 proto claims _ router _ _ hroute =>
    obtain ⟨_, hsections, backend, hbackend, rfl⟩ := l4RouteEntry_some hroute
    obtain ⟨hkind, hname, hns, hlabels, hbackendRefs, hparentRefs⟩ := l4Route_route cfg
      (prefixedLabel proto.infixTag routerName)
      (claimEntrypoints cfg proto (routerName, router) claims).2 backend proto
    refine ⟨hkind, by simpa only [Block.routePrefix] using hname, hns, hlabels, ⟨backend, hbackend, ?_⟩, ?_, ?_⟩
    · rw [hbackendRefs]
      simp
    · rw [hparentRefs]
      simpa using hsections
    · rw [hparentRefs]
      simp

theorem RoutesTo.isRoute {cfg : Config} {dynConfig : TraefikDynamicConfig} {b : Block}
    {routerName service : String} {entry : Entry}
    (h : RoutesTo cfg dynConfig b routerName service entry) : entry.1.isRoute = true := by
  rw [h.routeOf.kind, b.routeKind_isRoute]

/-! ## Objects of services -/

/-- What an object made for a service of the block says. -/
structure ObjectOf (cfg : Config) (b : Block) (pangName : String) (entry : Entry) : Prop where
  name : ∃ base, entry.1.backendPrefix = some base ∧
    (entry.1.metadata entry.2).name = some (backendName base b.infixTag pangName)
  ns : (entry.1.metadata entry.2).ns = some cfg.ns
  labels : ∃ labels, (entry.1.metadata entry.2).labels = some labels ∧
    ∀ key, key ≠ serviceNameLabel → labels[key]? = (ownerLabels cfg "")[key]?

omit [UrlCrate] in
theorem ObjectOf.of_owner {cfg : Config} {b : Block} {pangName base label : String} {entry : Entry}
    (hbase : entry.1.backendPrefix = some base)
    (hmetadata : entry.1.metadata entry.2 =
      managedMetadata cfg (backendName base b.infixTag pangName) (ownerLabels cfg label)) :
    ObjectOf cfg b pangName entry where
  name := ⟨base, hbase, by rw [hmetadata, managedMetadata_name]⟩
  ns := by rw [hmetadata]; rfl
  labels := ⟨ownerLabels cfg label, by rw [hmetadata, managedMetadata_labels], fun _ _ => rfl⟩

omit [UrlCrate] in
theorem TlsPolicies.object {cfg : Config} {b : Block} {pangName : String} {policies : List Entry}
    (h : TlsPolicies cfg pangName b.infixTag policies) {entry : Entry} (hmem : entry ∈ policies) :
    ObjectOf cfg b pangName entry := by
  rcases h with rfl | ⟨policy, hpolicy, rfl⟩
  · simp at hmem
  · obtain rfl := List.mem_singleton.mp hmem
    exact .of_owner rfl hpolicy

omit [UrlCrate] in
theorem Emits.object {cfg : Config} {b : Block} {pangName : String} {backend : ResolvedBackend}
    {entries : List Entry} (h : Emits cfg pangName b.infixTag backend entries) {entry : Entry}
    (hmem : entry ∈ entries) : ObjectOf cfg b pangName entry := by
  cases h with
  | synthesized svc slice policies port hsvc hslice hpolicies =>
    rcases List.mem_cons.mp hmem with rfl | hmem
    · exact .of_owner rfl hsvc
    · rcases List.mem_cons.mp hmem with rfl | hmem
      · constructor
        · exact ⟨"eps", rfl, by simp only [Kind.metadata, hslice, managedMetadata_name]⟩
        · simp only [Kind.metadata, hslice]
          rfl
        · refine ⟨(ownerLabels cfg (backendName "svc" b.infixTag pangName)).insert serviceNameLabel
            (backendName "svc" b.infixTag pangName),
            by simp only [Kind.metadata, hslice, managedMetadata_labels], ?_⟩
          intro key hkey
          have hne : compare serviceNameLabel key ≠ .eq := fun heq =>
            hkey (Std.LawfulEqCmp.eq_of_compare heq).symm
          rw [Std.ExtTreeMap.getElem?_insert, if_neg hne]
          simp only [ownerLabels]
      · exact hpolicies.object hmem
  | envoy be port hbe =>
    obtain rfl := List.mem_singleton.mp hmem
    exact .of_owner rfl hbe
  | direct service ns policies port hpolicies => exact hpolicies.object hmem

theorem serviceBackend_emits {cfg : Config} {dynConfig : TraefikDynamicConfig} {b : Block}
    {name : String} {backend : ResolvedBackend} {d : Desired}
    (h : serviceBackend cfg dynConfig b name = some (backend, d)) :
    Emits cfg name b.infixTag backend d.entries := by
  cases b with
  | http =>
    obtain ⟨svc, _, hemission⟩ := Option.bind_eq_some_iff.mp h
    exact emitBackend_emits hemission
  | l4 proto =>
    obtain ⟨svc, _, hemission⟩ := Option.bind_eq_some_iff.mp h
    exact emitBackend_emits hemission

/-! ## Everything -/

def emittedListenerSet (cfg : Config) (dynConfig : TraefikDynamicConfig) : ListenerSet :=
  listenerSet cfg (routesStage cfg dynConfig).1
    ((tcpStage cfg dynConfig).1 ++ (udpStage cfg dynConfig).1)

theorem listenerSets_iff {cfg : Config} {dynConfig : TraefikDynamicConfig} {name : String}
    {ls : ListenerSet} : (buildDesired cfg dynConfig).listenerSets[name]? = some ls ↔
      dnsLabel cfg.listenerSetName = name ∧ emittedListenerSet cfg dynConfig = ls := by
  rw [buildDesired_listenerSets, Std.ExtTreeMap.getElem?_insert]
  split
  · next heq =>
    simp only [Std.LawfulEqCmp.eq_of_compare heq, true_and, Option.some.injEq]
    rfl
  · next hne =>
    have hname : dnsLabel cfg.listenerSetName ≠ name := fun heq => hne (by rw [heq]; simp)
    simp [hname]

inductive Written (cfg : Config) (dynConfig : TraefikDynamicConfig) : Entry → Prop
  | service {b : Block} {name : String} {backend : ResolvedBackend} {d : Desired} {entry : Entry}
      (hservice : serviceBackend cfg dynConfig b name = some (backend, d))
      (hmem : entry ∈ d.entries) : Written cfg dynConfig entry
  | route {b : Block} {routerName service : String} {entry : Entry}
      (hroute : RoutesTo cfg dynConfig b routerName service entry) : Written cfg dynConfig entry
  | policy {routerName : String} {router : Router} {ea : ExtAuthzConfig}
      (htrans : Translated cfg dynConfig routerName router) (hauth : NeedsAuth dynConfig router)
      (hea : cfg.extAuthz = some ea) :
      Written cfg dynConfig
        ⟨.securityPolicy, buildSecurityPolicy cfg ea (prefixedLabel "hr" routerName)⟩
  | listenerSet : Written cfg dynConfig ⟨.listenerSet, emittedListenerSet cfg dynConfig⟩

theorem Written.of_isRoute {cfg : Config} {dynConfig : TraefikDynamicConfig} {entry : Entry}
    (h : Written cfg dynConfig entry) (hroute : entry.1.isRoute = true) :
    ∃ b routerName service, RoutesTo cfg dynConfig b routerName service entry := by
  cases h with
  | service hservice hmem =>
    obtain ⟨base, hbase, _⟩ := ((serviceBackend_emits hservice).object hmem).name
    simp [Kind.not_isRoute_of_backendPrefix hbase] at hroute
  | route h => exact ⟨_, _, _, h⟩
  | policy htrans hauth hea => simp [Kind.isRoute] at hroute
  | listenerSet => simp [Kind.isRoute] at hroute

theorem Written.of_backendPrefix {cfg : Config} {dynConfig : TraefikDynamicConfig} {entry : Entry}
    {base : String} (h : Written cfg dynConfig entry) (hbase : entry.1.backendPrefix = some base) :
    ∃ b name backend d, serviceBackend cfg dynConfig b name = some (backend, d) ∧
      entry ∈ d.entries := by
  have hroute := Kind.not_isRoute_of_backendPrefix hbase
  cases h with
  | service hservice hmem => exact ⟨_, _, _, _, hservice, hmem⟩
  | route h => simp [h.isRoute] at hroute
  | policy htrans hauth hea => simp [Kind.backendPrefix] at hbase
  | listenerSet => simp [Kind.backendPrefix] at hbase

theorem mem_routerEntries {cfg : Config} {dynConfig : TraefikDynamicConfig} {e : Entry} :
    (∃ entry ∈ dynConfig.http.routers.toList, e ∈ routerEntries cfg dynConfig entry) ↔
      (∃ routerName service, RoutesTo cfg dynConfig .http routerName service e) ∨
        ∃ routerName router ea, Translated cfg dynConfig routerName router ∧
          NeedsAuth dynConfig router ∧ cfg.extAuthz = some ea ∧
          e = ⟨.securityPolicy, buildSecurityPolicy cfg ea (prefixedLabel "hr" routerName)⟩ := by
  simp only [routerEntries, List.mem_append, Option.mem_toList, Option.map_eq_some_iff,
    Prod.exists, Std.ExtTreeMap.mem_toList_iff_getElem?_eq_some]
  constructor
  · rintro ⟨routerName, router, hrouter, ⟨spName, sp, hwrite, rfl⟩ | ⟨name, route, hwrite, rfl⟩⟩
    · obtain ⟨hroute, hauth, ea, hea, heq⟩ := policyEntry_eq.mp hwrite
      obtain ⟨_, rfl⟩ := Prod.mk.inj heq
      exact Or.inr ⟨routerName, router, ea, ⟨hrouter, hroute⟩, hauth, hea, rfl⟩
    · exact Or.inl ⟨routerName, router.service, .http hrouter (routeEntry_some hwrite).1⟩
  · rintro (⟨routerName, service, hroute⟩ | ⟨routerName, router, ea, htrans, hauth, hea, rfl⟩)
    · cases hroute with
      | http hrouter hroute =>
        exact ⟨routerName, _, hrouter, Or.inr ⟨prefixedLabel "hr" routerName, _,
          by simp [routeEntry, hroute], rfl⟩⟩
    · exact ⟨routerName, router, htrans.1, Or.inl ⟨_, _,
        policyEntry_eq.mpr ⟨htrans.2, hauth, ea, hea, rfl⟩, rfl⟩⟩

theorem mem_routeWrites_l4 {cfg : Config} {dynConfig : TraefikDynamicConfig} {proto : L4Protocol}
    {e : Entry} : e ∈ routeWrites cfg dynConfig (.l4 proto) ↔
      ∃ routerName service, RoutesTo cfg dynConfig (.l4 proto) routerName service e := by
  simp only [routeWrites, List.mem_flatMap, Option.mem_toList, Prod.exists]
  constructor
  · rintro ⟨claims, routerName, router, hvisit, hroute⟩
    exact ⟨routerName, router.service, .l4 hvisit hroute⟩
  · rintro ⟨routerName, service, hroute⟩
    cases hroute with
    | l4 hvisit hroute => exact ⟨_, _, _, hvisit, hroute⟩

theorem mem_writes {cfg : Config} {dynConfig : TraefikDynamicConfig} {e : Entry} :
    e ∈ writes cfg dynConfig ↔ Written cfg dynConfig e := by
  have hblock : ∀ b : Block, b ∈ [Block.http, .l4 .tcp, .l4 .udp] := by
    rintro (_ | _ | _) <;> decide
  simp only [writes, List.mem_append, List.mem_flatMap, List.mem_singleton]
  constructor
  · rintro (⟨b, _, hmem | hmem⟩ | rfl)
    · obtain ⟨name, backend, d, hservice, hmem⟩ := mem_serviceWrites.mp hmem
      exact .service hservice hmem
    · cases b with
      | http =>
        rcases mem_routerEntries.mp (List.mem_flatMap.mp hmem) with
          ⟨_, _, hroute⟩ | ⟨_, _, ea, htrans, hauth, hea, rfl⟩
        · exact .route hroute
        · exact .policy htrans hauth hea
      | l4 proto =>
        obtain ⟨_, _, hroute⟩ := mem_routeWrites_l4.mp hmem
        exact .route hroute
    · exact .listenerSet
  · intro hwritten
    cases hwritten with
    | @service b name backend d _ hservice hmem =>
      exact Or.inl ⟨b, hblock b, Or.inl (mem_serviceWrites.mpr ⟨name, backend, d, hservice, hmem⟩)⟩
    | @route b routerName service _ hroute =>
      cases b with
      | http =>
        have hmem := mem_routerEntries.mpr (Or.inl ⟨routerName, service, hroute⟩)
        exact Or.inl ⟨.http, hblock _, Or.inr (List.mem_flatMap.mpr hmem)⟩
      | l4 proto =>
        exact Or.inl ⟨.l4 proto, hblock _,
          Or.inr (mem_routeWrites_l4.mpr ⟨routerName, service, hroute⟩)⟩
    | @policy routerName router ea htrans hauth hea =>
      have hmem := mem_routerEntries.mpr (Or.inr ⟨routerName, router, ea, htrans, hauth, hea, rfl⟩)
      exact Or.inl ⟨.http, hblock _, Or.inr (List.mem_flatMap.mpr hmem)⟩
    | listenerSet => exact Or.inr rfl

/-! ## What the desired set holds -/

theorem find_buildDesired_origin {cfg : Config} {dynConfig : TraefikDynamicConfig} {k : Kind}
    {name : String} {obj : k.Obj} (h : (buildDesired cfg dynConfig).find k name = some obj) :
    Written cfg dynConfig ⟨k, obj⟩ ∧ (k.metadata obj).name = some name := by
  rw [buildDesired_writes] at h
  rcases Desired.find_writeAll_origin h with hempty | ⟨hmem, hname⟩
  · simp at hempty
  · exact ⟨mem_writes.mp hmem, hname⟩

/-- Whatever is written leaves an object under its name, its own or that of a later writer. -/
theorem find_buildDesired_written {cfg : Config} {dynConfig : TraefikDynamicConfig} {k : Kind}
    {name : String} {obj : k.Obj} (hwritten : Written cfg dynConfig ⟨k, obj⟩)
    (hname : (k.metadata obj).name = some name) :
    ∃ obj', (buildDesired cfg dynConfig).find k name = some obj' := by
  obtain ⟨obj', _, _, hfind⟩ :=
    Desired.find_writeAll_written .empty (mem_writes.mpr hwritten) hname
  exact ⟨obj', by rw [buildDesired_writes, hfind]⟩

theorem find_buildDesired_sole {cfg : Config} {dynConfig : TraefikDynamicConfig} {k : Kind}
    {name : String} {obj : k.Obj} (hwritten : Written cfg dynConfig ⟨k, obj⟩)
    (hname : (k.metadata obj).name = some name)
    (hsole : ∀ obj' : k.Obj, Written cfg dynConfig ⟨k, obj'⟩ →
      (k.metadata obj').name = some name → obj' = obj) :
    (buildDesired cfg dynConfig).find k name = some obj := by
  rw [buildDesired_writes]
  exact Desired.find_writeAll_sole .empty (mem_writes.mpr hwritten) hname
    fun obj' hmem => hsole obj' (mem_writes.mp hmem)

end PangolinGateway
