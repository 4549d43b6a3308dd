import PangolinGateway.Reconcile.Converges

/-! # Routes and the backends they use, through a reconcile

Backends are applied before routes, and HTTPRoutes are swept before backends; TCPRoutes and
UDPRoutes are swept after them, or not at all when their feature is off. -/
namespace PangolinGateway
set_option autoImplicit false
open Calls

/-- The kind a backendRef asks for: a Service unless it says otherwise. -/
def RouteBackendRef.targetKind (ref : RouteBackendRef) : Option Kind :=
  if ref.kind = some "Backend" then some .envoyBackend
  else if ref.kind = none ∨ ref.kind = some "Service" then some .service
  else none

def RouteBackendRef.FoundIn (ref : RouteBackendRef) (c : Cluster) : Prop :=
  ∃ k, ref.targetKind = some k ∧ ∃ obj, c.find k ref.name = some obj

/-- Every owned route finds the target of each backendRef that has no namespace. -/
def TargetsExist (cfg : Config) (c : Cluster) : Prop :=
  ∀ (k : Kind) (name : String) (route : k.Obj), c.find k name = some route →
    (k.metadata route).owned cfg = true →
      ∀ ref ∈ k.backendRefs route, ref.ns = none → ref.FoundIn c

/-- What an orphaned TCPRoute or UDPRoute uses is not swept: it is desired, or not owned, or of a kind
that is not swept. -/
def L4OrphansSupplied (cfg : Config) (desired : Desired) (c : Cluster) : Prop :=
  ∀ (proto : L4Protocol) (name : String) (route : (Block.l4 proto).routeKind.Obj),
    c.find (Block.l4 proto).routeKind name = some route →
    ((Block.l4 proto).routeKind.metadata route).owned cfg = true →
    desired.find (Block.l4 proto).routeKind name = none →
      ∀ ref ∈ (Block.l4 proto).routeKind.backendRefs route, ref.ns = none →
        ∀ k obj, ref.targetKind = some k → c.find k ref.name = some obj →
          (∃ obj', desired.find k ref.name = some obj') ∨ (k.metadata obj).owned cfg = false ∨
            k ∉ sweepOrder cfg

theorem targetKind_backend {ref : RouteBackendRef} {k : Kind} (h : ref.targetKind = some k) :
    k = .service ∨ k = .envoyBackend := by
  unfold RouteBackendRef.targetKind at h
  split at h
  · exact Or.inr (Option.some.inj h).symm
  · split at h
    · exact Or.inl (Option.some.inj h).symm
    · simp at h

/-- The sweeps up to those of the backends, and the sweeps after them. -/
def backendSweeps (cfg : Config) : List Kind :=
  [.httpRoute, .listenerSet, .endpointSlice, .service] ++
    (if cfg.backendKind = .envoyBackend then [.envoyBackend] else [])

def lateSweeps (cfg : Config) : List Kind :=
  (if cfg.enableTcpRoutes then [.tcpRoute] else []) ++
    (if cfg.enableUdpRoutes then [.udpRoute] else []) ++
    (if cfg.extAuthz.isSome then [.securityPolicy] else []) ++ [.backendTlsPolicy]

theorem sweepOrder_split (cfg : Config) : sweepOrder cfg = backendSweeps cfg ++ lateSweeps cfg := by
  simp only [sweepOrder, backendSweeps, lateSweeps, List.append_assoc]

theorem targetKind_swept {cfg : Config} {ref : RouteBackendRef} {k : Kind}
    (h : ref.targetKind = some k) (hk : k ∈ sweepOrder cfg) : k ∈ backendSweeps cfg := by
  rcases targetKind_backend h with rfl | rfl
  · simp [backendSweeps]
  · cases hkind : cfg.backendKind with
    | envoyBackend => simp [backendSweeps, hkind]
    | service => simp [sweepOrder, hkind] at hk

theorem l4_not_backendSweeps (cfg : Config) (proto : L4Protocol) :
    (Block.l4 proto).routeKind ∉ backendSweeps cfg := by
  unfold backendSweeps
  cases proto <;> split <;> decide

/-! ## While the applies run -/

theorem mem_prefix_of_kind {d : Desired} (h : d.Named) {entries : List Entry} {entry other : Entry}
    (hp : entries <+: d.entries) (hmem : entry ∈ entries) (hother : other ∈ d.entries)
    (hkind : applyOrder.idxOf other.1 < applyOrder.idxOf entry.1) : other ∈ entries := by
  obtain ⟨front, back, rfl⟩ := List.append_of_mem hmem
  obtain ⟨rest, hrest⟩ := hp
  have hsplit : d.entries = front ++ entry :: (back ++ rest) := by
    rw [← hrest, List.append_assoc, List.cons_append]
  exact List.mem_append_left _ (mem_front_of_kind h hsplit hother hkind)

theorem backend_before_route {k k' : Kind} (h : k = .service ∨ k = .envoyBackend)
    (hroute : k'.isRoute = true) : applyOrder.idxOf k < applyOrder.idxOf k' := by
  rcases h with rfl | rfl <;> cases k' <;> first | decide | simp [Kind.isRoute] at hroute

/-- A reference that is found while applies run stays found. -/
theorem foundIn_applied {cfg : Config} {desired : Desired} (hnamed : desired.Named)
    (hro : cfg.readOnly = false) {entries : List Entry} (hp : entries <+: desired.entries)
    {c : Cluster} {ref : RouteBackendRef} (h : ref.FoundIn c) :
    ref.FoundIn (applied cfg answering entries c) := by
  obtain ⟨k, hk, obj, hobj⟩ := h
  rcases find_applied_prefix hnamed hro hp c k ref.name with ⟨obj', _, _, hfind⟩ | ⟨_, hfind⟩
  · exact ⟨k, hk, obj', hfind⟩
  · exact ⟨k, hk, obj, by rw [hfind, hobj]⟩

section Built
variable [DefaultHasher] [UrlCrate]

/-- The target of a desired route is desired. -/
theorem desired_target {cfg : Config} {dynConfig : TraefikDynamicConfig} {k : Kind} {name : String}
    {route : k.Obj} (hfind : (buildDesired cfg dynConfig).find k name = some route)
    {ref : RouteBackendRef} (href : ref ∈ k.backendRefs route) (hns : ref.ns = none) :
    ∃ k', ref.targetKind = some k' ∧ ∃ obj, (buildDesired cfg dynConfig).find k' ref.name = some obj := by
  obtain ⟨b, service, backend, d, hservice, rfl⟩ := backendRef_origin hfind href
  have hemits := serviceBackend_emits hservice
  rcases hemits.kind with hkind | hkind
  · obtain ⟨be, hmem, hname⟩ := hemits.backend hkind
    refine ⟨.envoyBackend, by simp [RouteBackendRef.targetKind, ResolvedBackend.ref, hkind], ?_⟩
    exact find_buildDesired_written (.service hservice hmem) hname
  · obtain ⟨svc, hmem, hname⟩ := hemits.service hkind hns
    refine ⟨.service, by simp [RouteBackendRef.targetKind, ResolvedBackend.ref, hkind], ?_⟩
    exact find_buildDesired_written (.service hservice hmem) hname

/-- The targets are there at every point of the apply phase. -/
theorem targetsExist_applied {cfg : Config} {dynConfig : TraefikDynamicConfig}
    (hro : cfg.readOnly = false) {c : Cluster} (hstart : TargetsExist cfg c) {entries : List Entry}
    (hp : entries <+: (buildDesired cfg dynConfig).entries) :
    TargetsExist cfg (applied cfg answering entries c) := by
  have hnamed := buildDesired_named cfg dynConfig
  intro k name route hfind howned ref href hns
  rcases find_applied_prefix hnamed hro hp c k name with ⟨route', hdesired, hmem, hsame⟩ | ⟨_, hsame⟩
  · obtain rfl : route' = route := Option.some.inj (hsame.symm.trans hfind)
    obtain ⟨k', hk', obj, hobj⟩ := desired_target hdesired href hns
    -- the target was applied before the route
    have hroute : k.isRoute = true := Kind.isRoute_of_backendRefs (List.ne_nil_of_mem href)
    have hbefore : (⟨k', obj⟩ : Entry) ∈ entries :=
      mem_prefix_of_kind hnamed hp hmem (Desired.mem_entries.mpr ⟨ref.name, hobj⟩)
        (backend_before_route (targetKind_backend hk') hroute)
    rcases find_applied_prefix hnamed hro hp c k' ref.name with ⟨obj', _, _, hthere⟩ | ⟨hno, _⟩
    · exact ⟨k', hk', obj', hthere⟩
    · exact absurd hbefore (hno obj hobj)
  · have hfound := hstart k name route (by rw [← hsame, hfind]) howned ref href hns
    exact foundIn_applied hnamed hro hp hfound

/-! ## While the sweeps run -/

omit [DefaultHasher] [UrlCrate] in
/-- Either the HTTPRoutes are still being swept and no other kind was touched, or those to be swept
are gone. -/
theorem httpRoutes_swept_first {cfg : Config} {desired : Desired} {c t : Cluster}
    (ht : t ∈ (gcPhase cfg desired).states (serve answering) c) :
    (∀ k, k ≠ .httpRoute → ∀ name, t.find k name = c.find k name) ∨
      ∀ name, SweptFrom cfg answering desired c .httpRoute name → t.find .httpRoute name = none := by
  obtain ⟨rest, hrest⟩ : ∃ rest, sweepOrder cfg = .httpRoute :: rest := ⟨_, rfl⟩
  have hnodup := sweepOrder_nodup cfg
  rw [hrest] at hnodup
  obtain ⟨hnotin, hnodup⟩ := List.nodup_cons.mp hnodup
  have hrun := run_gcKind cfg answering desired .httpRoute c
  rw [gcPhase, hrest, Program.forEach, Program.mem_states_andThen_ok _ (by rw [hrun]),
    mem_states_gcKind, hrun] at ht
  rcases ht with ht | ht
  · refine Or.inl fun k hk name => ?_
    rcases find_of_mem_sweep cfg answering .httpRoute _ ht k name with hsame | ⟨hkind, _⟩
    · exact hsame
    · exact absurd hkind hk
  · refine Or.inr fun name hswept => ?_
    rcases find_of_mem_sweeps hnodup ht .httpRoute name with hsame | ⟨hin, _⟩
    · rcases find_sweep cfg answering .httpRoute (desired.names .httpRoute) c .httpRoute name with
        ⟨_, _, hnone⟩ | ⟨hno, _⟩
      · rw [hsame, hnone]
      · exact absurd ⟨rfl, hswept⟩ hno
    · exact absurd hin hnotin

omit [DefaultHasher] [UrlCrate] in
/-- What the sweeps take after the applies was there before, owned and not desired. -/
theorem sweptFrom_applied {cfg : Config} {desired : Desired} (hnamed : desired.Named)
    (hro : cfg.readOnly = false) {c : Cluster} {k : Kind} {name : String}
    (h : SweptFrom cfg answering desired (applied cfg answering desired.entries c) k name) :
    desired.find k name = none ∧
      ∃ obj, c.find k name = some obj ∧ (k.metadata obj).owned cfg = true := by
  obtain ⟨_, ⟨obj, hfind, howned⟩, _, hunwanted, _⟩ := h
  have hnone : desired.find k name = none := by
    rw [Desired.mem_names] at hunwanted
    exact Option.eq_none_iff_forall_ne_some.mpr fun obj' hobj' => hunwanted ⟨obj', hobj'⟩
  rw [find_applied_answering hnamed hro, hnone, Option.none_or] at hfind
  exact ⟨hnone, obj, hfind, howned⟩

omit [DefaultHasher] [UrlCrate] in
theorem route_kinds {k : Kind} (h : k.isRoute = true) :
    k = .httpRoute ∨ ∃ proto, k = (Block.l4 proto).routeKind := by
  cases k with
  | httpRoute => exact Or.inl rfl
  | tcpRoute => exact Or.inr ⟨.tcp, rfl⟩
  | udpRoute => exact Or.inr ⟨.udp, rfl⟩
  | service | endpointSlice | envoyBackend | backendTlsPolicy | listenerSet | securityPolicy =>
    simp [Kind.isRoute] at h

omit [DefaultHasher] [UrlCrate] in
/-- The HTTPRoutes go before the backends: an orphan that is still there has its target. -/
theorem orphan_httpRoute_target {cfg : Config} {desired : Desired} (hro : cfg.readOnly = false)
    {c t : Cluster} (ht : t ∈ (gcPhase cfg desired).states (serve answering) c) {name : String}
    {route : HTTPRoute} (hroute : t.find .httpRoute name = some route)
    (hbefore : c.find .httpRoute name = some route) (howned : route.metadata.owned cfg = true)
    (horphan : desired.find .httpRoute name = none) {k : Kind} (hk : k ≠ .httpRoute)
    (target : String) : t.find k target = c.find k target := by
  rcases httpRoutes_swept_first ht with hrest | hswept
  · exact hrest k hk target
  · have hgone := hswept name ⟨rfl, ⟨route, hbefore, howned⟩, hro,
      by simp [Desired.mem_names, horphan], rfl⟩
    rw [hroute] at hgone
    simp at hgone

theorem targetsExist_swept {cfg : Config} {dynConfig : TraefikDynamicConfig}
    (hro : cfg.readOnly = false) {c t : Cluster} (hstart : TargetsExist cfg c)
    (hl4 : L4OrphansSupplied cfg (buildDesired cfg dynConfig) c)
    (ht : t ∈ (gcPhase cfg (buildDesired cfg dynConfig)).states (serve answering)
      (applied cfg answering (buildDesired cfg dynConfig).entries c)) : TargetsExist cfg t := by
  have hnamed := buildDesired_named cfg dynConfig
  have happlied := find_applied_answering hnamed hro c
  have hbefore : TargetsExist cfg (applied cfg answering (buildDesired cfg dynConfig).entries c) :=
    targetsExist_applied hro hstart List.prefix_rfl
  intro k name route hfind howned ref href hns
  rcases find_of_mem_gcPhase ht k name with hroute | ⟨_, _, hnone⟩
  · obtain ⟨k', hk', obj, hobj⟩ := hbefore k name route (hroute ▸ hfind) howned ref href hns
    rcases find_of_mem_gcPhase ht k' ref.name with htarget | ⟨hin, hswept, hgone⟩
    · exact ⟨k', hk', obj, by rw [htarget, hobj]⟩
    · exfalso
      -- the target is removed, so the route is an orphan and its target one too
      obtain ⟨hnotDesired, target, htarget, htargetOwned⟩ := sweptFrom_applied hnamed hro hswept
      cases hdesired : (buildDesired cfg dynConfig).find k name with
      | some desired =>
        rw [hroute, happlied, hdesired, Option.some_or] at hfind
        obtain rfl := Option.some.inj hfind
        obtain ⟨k'', hk'', obj'', hobj''⟩ := desired_target hdesired href hns
        obtain rfl := Option.some.inj (hk'.symm.trans hk'')
        simp [hnotDesired] at hobj''
      | none =>
        have hold : c.find k name = some route := by
          rwa [hroute, happlied, hdesired, Option.none_or] at hfind
        rcases route_kinds (Kind.isRoute_of_backendRefs (List.ne_nil_of_mem href)) with
          rfl | ⟨proto, rfl⟩
        · have hk : k' ≠ .httpRoute := by
            rcases targetKind_backend hk' with rfl | rfl <;> decide
          have hsame := orphan_httpRoute_target hro ht hfind (hroute ▸ hfind) howned hdesired hk
            ref.name
          rw [hsame, hobj] at hgone
          simp at hgone
        · rcases hl4 proto name route hold howned hdesired ref href hns k' target hk' htarget with
            ⟨obj', hobj'⟩ | hforeign | hunswept
          · simp [hnotDesired] at hobj'
          · simp [hforeign] at htargetOwned
          · exact hunswept hin
  · simp [hnone] at hfind

/-! ## The exact condition -/

/-- The cluster between the sweeps of the backends and those of the L4 routes. -/
theorem exists_afterBackendSweeps (cfg : Config) (dynConfig : TraefikDynamicConfig) (c : Cluster) :
    ∃ t ∈ (reconcileOnce cfg (buildDesired cfg dynConfig)).states (serve answering) c,
      ∀ k name,
        (k ∈ backendSweeps cfg ∧ SweptFrom cfg answering (buildDesired cfg dynConfig)
            (applied cfg answering (buildDesired cfg dynConfig).entries c) k name ∧
          t.find k name = none) ∨
        (¬(k ∈ backendSweeps cfg ∧ SweptFrom cfg answering (buildDesired cfg dynConfig)
            (applied cfg answering (buildDesired cfg dynConfig).entries c) k name) ∧
          t.find k name =
            (applied cfg answering (buildDesired cfg dynConfig).entries c).find k name) := by
  have hnamed := buildDesired_named cfg dynConfig
  have hnodup := sweepOrder_nodup cfg
  rw [sweepOrder_split] at hnodup
  obtain ⟨hok, hfind⟩ := run_sweeps cfg answering (buildDesired cfg dynConfig)
    (List.nodup_append.mp hnodup).1 (applied cfg answering (buildDesired cfg dynConfig).entries c)
  refine ⟨_, ?_, hfind⟩
  rw [mem_states_reconcileOnce, gcPhase, sweepOrder_split, Program.forEach_append,
    Program.mem_states_andThen_ok _ hok]
  exact Or.inr ⟨answering_appliesOk cfg hnamed, Or.inl (Program.final_mem_states _ _ _)⟩

theorem supplied_of_targetsExist {cfg : Config} {dynConfig : TraefikDynamicConfig} {c : Cluster}
    (hro : cfg.readOnly = false)
    (h : ∀ t ∈ (reconcileOnce cfg (buildDesired cfg dynConfig)).states (serve answering) c,
      TargetsExist cfg t) : L4OrphansSupplied cfg (buildDesired cfg dynConfig) c := by
  have happlied := find_applied_answering (buildDesired_named cfg dynConfig) hro c
  obtain ⟨t, ht, hfind⟩ := exists_afterBackendSweeps cfg dynConfig c
  intro proto name route hroute howned hdesired ref href hns k target hk htarget
  by_contra hno
  push Not at hno
  obtain ⟨hunwanted, hforeign, hin⟩ := hno
  have hnotDesired : (buildDesired cfg dynConfig).find k ref.name = none :=
    Option.eq_none_iff_forall_ne_some.mpr hunwanted
  have hthere : t.find (Block.l4 proto).routeKind name = some route := by
    rcases hfind (Block.l4 proto).routeKind name with ⟨hswept, _⟩ | ⟨_, hsame⟩
    · exact absurd hswept (l4_not_backendSweeps cfg proto)
    · rw [hsame, happlied, hdesired, Option.none_or, hroute]
  obtain ⟨k', hk', obj, hobj⟩ := h t ht _ name route hthere howned ref href hns
  obtain rfl := Option.some.inj (hk.symm.trans hk')
  rcases hfind k ref.name with ⟨_, _, hgone⟩ | ⟨hkept, _⟩
  · simp [hgone] at hobj
  · refine hkept ⟨targetKind_swept hk hin, rfl, ⟨target, ?_, ?_⟩, hro, ?_, rfl⟩
    · rw [happlied, hnotDesired, Option.none_or, htarget]
    · simpa using hforeign
    · simp [Desired.mem_names, hnotDesired]

/-- Routes keep their targets through a reconcile exactly when the controller is read-only or no
orphaned TCPRoute or UDPRoute uses a backend that is swept. -/
theorem targets_exist_iff (cfg : Config) (dynConfig : TraefikDynamicConfig) (c : Cluster)
    (hstart : TargetsExist cfg c) :
    (∀ t ∈ (reconcileOnce cfg (buildDesired cfg dynConfig)).states (serve answering) c,
        TargetsExist cfg t) ↔
      cfg.readOnly = true ∨ L4OrphansSupplied cfg (buildDesired cfg dynConfig) c := by
  have hnamed := buildDesired_named cfg dynConfig
  constructor
  · intro h
    cases hro : cfg.readOnly with
    | true => exact Or.inl rfl
    | false => exact Or.inr (supplied_of_targetsExist hro h)
  · intro h t ht
    cases hro : cfg.readOnly with
    | true => rwa [readOnly_states hro hnamed ht]
    | false =>
      have hl4 := h.resolve_left (by simp [hro])
      rcases (mem_states_reconcileOnce cfg answering _ c t).mp ht with ⟨entries, hp, rfl⟩ | ⟨_, hgc⟩
      · exact targetsExist_applied hro hstart (hp.trans (attemptedEntries_isPrefix _ _ _))
      · exact targetsExist_swept hro hstart hl4 hgc

end Built

theorem targetsExist_empty (cfg : Config) : TargetsExist cfg .empty := by
  intro k name route hfind
  simp at hfind

/-- The cluster that the first reconcile of the sample leaves. -/
theorem targets_exist_sample : TargetsExist sampleConfig ((reconcileOnce sampleConfig
    (@buildDesired sampleHasher sampleUrlCrate sampleConfig (sampleDynConfig sampleRouters))).run
      (serve answering) .empty).2 := by
  let _ := sampleHasher
  let _ := sampleUrlCrate
  have hsupplied : L4OrphansSupplied sampleConfig
      (buildDesired sampleConfig (sampleDynConfig sampleRouters)) .empty := by
    intro proto name route hfind
    simp at hfind
  exact (targets_exist_iff sampleConfig (sampleDynConfig sampleRouters) .empty
    (targetsExist_empty sampleConfig)).mpr (Or.inr hsupplied) _ (Program.final_mem_states _ _ _)

/-! ## A TCP router that goes away -/

def staleRef : RouteBackendRef := ⟨some "", some "Service", "svc-tcp-db", none, some 5432, some 1⟩

def staleTcpRoute : TCPRoute where
  metadata := managedMetadata sampleConfig "tcp-db" (ownerLabels sampleConfig "tcp-db")
  spec := ⟨none, [⟨[staleRef]⟩]⟩

def staleService : Service where
  metadata := managedMetadata sampleConfig "svc-tcp-db" (ownerLabels sampleConfig "svc-tcp-db")
  spec := none

theorem staleTcpRoute_name : (Kind.tcpRoute.metadata staleTcpRoute).name = some "tcp-db" := rfl

theorem staleService_name : (Kind.service.metadata staleService).name = some "svc-tcp-db" := rfl

/-- What an earlier TCP router `db` left. -/
def staleCluster : Cluster :=
  (Cluster.empty.put .service "svc-tcp-db" staleService staleService_name).put .tcpRoute "tcp-db"
    staleTcpRoute staleTcpRoute_name

theorem staleCluster_route : staleCluster.find .tcpRoute "tcp-db" = some staleTcpRoute := by
  rw [staleCluster, Cluster.find_put_self]

theorem staleCluster_service : staleCluster.find .service "svc-tcp-db" = some staleService := by
  rw [staleCluster, Cluster.find_put_of_ne _ _ _ _ _ (by simp), Cluster.find_put_self]

theorem staleCluster_targets : TargetsExist sampleConfig staleCluster := by
  intro k name route hfind _ ref href _
  by_cases hroute : k = .tcpRoute ∧ name = "tcp-db"
  · obtain ⟨rfl, rfl⟩ := hroute
    obtain rfl := Option.some.inj (staleCluster_route.symm.trans hfind)
    obtain rfl := List.mem_singleton.mp href
    exact ⟨.service, rfl, staleService, staleCluster_service⟩
  · rw [staleCluster, Cluster.find_put_of_ne _ _ _ _ _ hroute] at hfind
    by_cases hservice : k = .service ∧ name = "svc-tcp-db"
    · obtain ⟨rfl, rfl⟩ := hservice
      simp [Kind.backendRefs] at href
    · rw [Cluster.find_put_of_ne _ _ _ _ _ hservice] at hfind
      simp at hfind

/-- The Service of the router is swept before its TCPRoute. -/
theorem tcpRoute_without_service : TargetsExist sampleConfig staleCluster ∧
    ¬∀ t ∈ (reconcileOnce sampleConfig (@buildDesired sampleHasher sampleUrlCrate sampleConfig
      emptyDynConfig)).states (serve answering) staleCluster, TargetsExist sampleConfig t := by
  let _ := sampleHasher
  let _ := sampleUrlCrate
  refine ⟨staleCluster_targets, fun h => ?_⟩
  have hroute : (buildDesired sampleConfig emptyDynConfig).find .tcpRoute "tcp-db" = none := by
    have hnone : ((buildDesired sampleConfig emptyDynConfig).tcpRoutes["tcp-db"]?).isNone = true := by
      decide
    exact Option.isNone_iff_eq_none.mp hnone
  have hservice : (buildDesired sampleConfig emptyDynConfig).find .service "svc-tcp-db" = none := by
    have hnone : ((buildDesired sampleConfig emptyDynConfig).services["svc-tcp-db"]?).isNone =
        true := by decide
    exact Option.isNone_iff_eq_none.mp hnone
  rcases supplied_of_targetsExist rfl h .tcp "tcp-db" staleTcpRoute staleCluster_route (by decide)
    hroute staleRef List.mem_cons_self rfl .service staleService rfl staleCluster_service with
    ⟨obj, hobj⟩ | hforeign | hunswept
  · rw [staleRef, hservice] at hobj
    simp at hobj
  · exact absurd hforeign (by decide)
  · exact hunswept (by decide)

end PangolinGateway
