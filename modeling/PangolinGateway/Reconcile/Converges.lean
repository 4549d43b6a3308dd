import PangolinGateway.Reconcile.ReconcileOnce
import PangolinGateway.Transform.Closed

/-! # What a reconcile makes of the cluster when nothing goes wrong

The labels stamped on every desired object are the ones the sweeps select by, so of the swept kinds
the controller's own objects are the desired ones, and nothing else is touched. -/
namespace PangolinGateway
set_option autoImplicit false

variable [DefaultHasher] [UrlCrate]

/-! ## The labels of desired objects -/

theorem Written.labels {cfg : Config} {dynConfig : TraefikDynamicConfig} {entry : Entry}
    (h : Written cfg dynConfig entry) : ∃ labels, (entry.1.metadata entry.2).labels = some labels ∧
      ∀ key, key ≠ serviceNameLabel → labels[key]? = (ownerLabels cfg "")[key]? := by
  cases h with
  | service hservice hmem => exact ((serviceBackend_emits hservice).object hmem).labels
  | route hroute => exact ⟨_, hroute.routeOf.labels, fun _ _ => rfl⟩
  | policy => exact ⟨ownerLabels cfg "", by simp only [Kind.metadata, buildSecurityPolicy,
      managedMetadata_labels, ownerLabels], fun _ _ => rfl⟩
  | listenerSet => exact ⟨ownerLabels cfg "", by simp only [Kind.metadata, emittedListenerSet,
      PangolinGateway.listenerSet, managedMetadataWith_labels, ownerLabels], fun _ _ => rfl⟩

/-- The two label keys are apart from each other and from the label of EndpointSlices. -/
structure LabelKeysDistinct (cfg : Config) : Prop where
  instanceKey : cfg.managedLabelKey ≠ cfg.instanceLabelKey
  managed : cfg.managedLabelKey ≠ serviceNameLabel
  service : cfg.instanceLabelKey ≠ serviceNameLabel

theorem Written.owned {cfg : Config} {dynConfig : TraefikDynamicConfig} {entry : Entry}
    (h : Written cfg dynConfig entry) (hkeys : LabelKeysDistinct cfg) :
    (entry.1.metadata entry.2).owned cfg = true := by
  obtain ⟨labels, hlabels, hsame⟩ := h.labels
  have hmanaged := hsame _ hkeys.managed
  have hinstance := hsame _ hkeys.service
  have hne : compare cfg.instanceLabelKey cfg.managedLabelKey ≠ .eq := fun heq =>
    hkeys.instanceKey (Std.LawfulEqCmp.eq_of_compare heq).symm
  rw [ownerLabels, Std.ExtTreeMap.getElem?_insert, if_neg hne,
    Std.ExtTreeMap.getElem?_insert_self] at hmanaged
  rw [ownerLabels, Std.ExtTreeMap.getElem?_insert_self] at hinstance
  simp [ObjectMeta.owned, ObjectMeta.matchesSelector, Config.managedSelector, hlabels, hmanaged,
    hinstance]

/-! ## Kinds that are not swept -/

omit [DefaultHasher] [UrlCrate] in
theorem classifyEntries_service (entries : List HostPort) (hostname : String) (port : ℤ)
    (tls : Bool) : classifyEntries entries .service ≠ .fqdn hostname port tls := by
  have hfqdn : (entries.foldl (classifyEntry .service) ⟨[], none, none, none, none⟩).fqdn = none := by
    refine InsertLoop.foldl_keeps ClassifyState.fqdn ?_ entries _
    intro st e
    unfold classifyEntry
    split
    · split
      · rfl
      · split <;> rfl
    · split
      · split <;> rfl
      · rfl
  unfold classifyEntries
  simp only [hfqdn]
  split
  · simp
  · split <;> simp

omit [UrlCrate] in
theorem emitBackend_no_envoy {cfg : Config} {pangName : String} {classification : Classification}
    {infx protocol : String} {skipVerify : Bool} {backend : ResolvedBackend} {d : Desired}
    (hkind : cfg.backendKind = .service)
    (hclass : ∀ hostname port tls, classification ≠ .fqdn hostname port tls)
    (h : emitBackend cfg pangName classification infx protocol skipVerify .empty =
      some (backend, d)) : d.envoyBackends = ∅ := by
  cases classification with
  | empty => simp [emitBackend] at h
  | fqdn hostname port tls => exact absurd rfl (hclass hostname port tls)
  | ips entries port tls =>
    have hd : d = (emitIpBackend cfg pangName entries port infx protocol
        (thenSome tls skipVerify) .empty).2 := by rw [Option.some.inj h]
    rw [hd, emitIpBackend, hkind]
    cases thenSome tls skipVerify <;> cases entries <;> rfl
  | clusterDns service ns port tls =>
    have hd : d = (emitClusterDnsBackend cfg pangName service ns port infx
        (thenSome tls skipVerify) .empty).2 := by rw [Option.some.inj h]
    rw [hd]
    unfold emitClusterDnsBackend
    rw [hkind]
    cases thenSome tls skipVerify with
    | none => rfl
    | some skip =>
      simp only
      split <;> rfl

theorem no_envoyBackend {cfg : Config} {dynConfig : TraefikDynamicConfig}
    (hkind : cfg.backendKind = .service) (be : Backend) :
    ¬Written cfg dynConfig ⟨.envoyBackend, be⟩ := by
  intro hwritten
  obtain ⟨b, name, backend, d, hservice, hmem⟩ :=
    hwritten.of_backendPrefix (show Kind.envoyBackend.backendPrefix = some "be" from rfl)
  have hclass : ∀ {servers : List HostPort} {hostname : String} {port : ℤ} {tls : Bool},
      classifyEntries servers cfg.backendKind ≠ .fqdn hostname port tls := by
    rw [hkind]
    exact classifyEntries_service _ _ _ _
  have hempty : d.envoyBackends = ∅ := by
    cases b with
    | http =>
      obtain ⟨svc, _, hemission⟩ := Option.bind_eq_some_iff.mp hservice
      refine emitBackend_no_envoy hkind ?_ hemission
      intro hostname port tls
      simp only [httpRequest, classifyService]
      split
      · simp
      · split
        · simp
        · exact hclass
    | l4 proto =>
      obtain ⟨svc, _, hemission⟩ := Option.bind_eq_some_iff.mp hservice
      refine emitBackend_no_envoy hkind ?_ hemission
      intro hostname port tls
      simp only [l4Request, classifyL4Service]
      split
      · simp
      · split
        · simp
        · exact hclass
  obtain ⟨name', hfind⟩ := Desired.mem_entries.mp hmem
  rw [Desired.find, Desired.objects, hempty] at hfind
  simp at hfind

theorem no_l4Route {cfg : Config} {dynConfig : TraefikDynamicConfig} {proto : L4Protocol}
    (hblock : l4Block cfg dynConfig proto = ⟨∅, ∅⟩) {entry : Entry}
    (hkind : entry.1 = (Block.l4 proto).routeKind) : ¬Written cfg dynConfig entry := by
  intro hwritten
  obtain ⟨b, routerName, service, hroute⟩ :=
    hwritten.of_isRoute (by rw [hkind, Block.routeKind_isRoute])
  obtain rfl : b = .l4 proto := Block.routeKind_injective (hroute.routeOf.kind.symm.trans hkind)
  cases hroute with
  | l4 hvisit hroute =>
    rw [l4Visits, hblock] at hvisit
    exact absurd hvisit List.not_mem_nil

theorem no_policy {cfg : Config} {dynConfig : TraefikDynamicConfig} (hoff : cfg.extAuthz = none)
    (sp : SecurityPolicy) : ¬Written cfg dynConfig ⟨.securityPolicy, sp⟩ := by
  intro hwritten
  generalize hentry : (⟨.securityPolicy, sp⟩ : Entry) = entry at hwritten
  cases hwritten with
  | service hservice hmem =>
    obtain ⟨base, hbase, _⟩ := ((serviceBackend_emits hservice).object hmem).name
    rw [← hentry] at hbase
    simp [Kind.backendPrefix] at hbase
  | route hroute =>
    have hkind := hroute.isRoute
    rw [← hentry] at hkind
    simp [Kind.isRoute] at hkind
  | policy _ _ hea => simp [hoff] at hea
  | listenerSet => simp at hentry

/-- A kind that is not swept has no desired objects. -/
theorem unswept_not_written {cfg : Config} {dynConfig : TraefikDynamicConfig} {k : Kind}
    (hk : k ∉ sweepOrder cfg) (obj : k.Obj) : ¬Written cfg dynConfig ⟨k, obj⟩ := by
  cases k with
  | envoyBackend =>
    apply no_envoyBackend
    cases hkind : cfg.backendKind with
    | service => rfl
    | envoyBackend => simp [sweepOrder, hkind] at hk
  | tcpRoute =>
    have hoff : cfg.enableTcpRoutes = false := by
      cases hon : cfg.enableTcpRoutes with
      | false => rfl
      | true => simp [sweepOrder, hon] at hk
    exact no_l4Route (show l4Block cfg dynConfig .tcp = ⟨∅, ∅⟩ by simp [l4Block, hoff]) rfl
  | udpRoute =>
    have hoff : cfg.enableUdpRoutes = false := by
      cases hon : cfg.enableUdpRoutes with
      | false => rfl
      | true => simp [sweepOrder, hon] at hk
    exact no_l4Route (show l4Block cfg dynConfig .udp = ⟨∅, ∅⟩ by simp [l4Block, hoff]) rfl
  | securityPolicy =>
    have hoff : cfg.extAuthz = none := by
      cases hon : cfg.extAuthz with
      | none => rfl
      | some ea => simp [sweepOrder, hon] at hk
    exact no_policy hoff obj
  | service => simp [sweepOrder] at hk
  | endpointSlice => simp [sweepOrder] at hk
  | backendTlsPolicy => simp [sweepOrder] at hk
  | listenerSet => simp [sweepOrder] at hk
  | httpRoute => simp [sweepOrder] at hk

theorem find_unswept {cfg : Config} {dynConfig : TraefikDynamicConfig} {k : Kind}
    (hk : k ∉ sweepOrder cfg) (name : String) : (buildDesired cfg dynConfig).find k name = none := by
  cases hfind : (buildDesired cfg dynConfig).find k name with
  | none => rfl
  | some obj => exact absurd (find_buildDesired_origin hfind).1 (unswept_not_written hk obj)

/-! ## The cluster after a reconcile -/

/-- What is left of the cluster `c` in `c'`. -/
structure Converged (cfg : Config) (desired : Desired) (c c' : Cluster) : Prop where
  swept : ∀ k ∈ sweepOrder cfg, ∀ name obj,
    (c'.find k name = some obj ∧ (k.metadata obj).owned cfg = true) ↔
      desired.find k name = some obj
  unswept : ∀ k, k ∉ sweepOrder cfg → ∀ name, c'.find k name = c.find k name
  foreign : ∀ k name, (∀ obj, c.find k name = some obj → (k.metadata obj).owned cfg = false) →
    desired.find k name = none → c'.find k name = c.find k name

omit [DefaultHasher] [UrlCrate] in
/-- Part of the way through the applies an object is the desired one or as it was. -/
theorem find_applied_prefix {cfg : Config} {desired : Desired} (hnamed : desired.Named)
    (hro : cfg.readOnly = false) {entries : List Entry} (hp : entries <+: desired.entries)
    (c : Cluster) (k : Kind) (name : String) :
    (∃ obj, desired.find k name = some obj ∧ (⟨k, obj⟩ : Entry) ∈ entries ∧
        (applied cfg answering entries c).find k name = some obj) ∨
      ((∀ obj, desired.find k name = some obj → (⟨k, obj⟩ : Entry) ∉ entries) ∧
        (applied cfg answering entries c).find k name = c.find k name) := by
  have hentries := hnamed.entries.mono hp
  by_cases hin : ∃ obj, desired.find k name = some obj ∧ (⟨k, obj⟩ : Entry) ∈ entries
  · obtain ⟨obj, hobj, hmem⟩ := hin
    have happ := applies_of_appliesOk hnamed hro (answering_appliesOk cfg hnamed) (hp.subset hmem)
    exact Or.inl ⟨obj, hobj, hmem,
      find_applied hentries hobj (hnamed k name obj hobj) hmem happ c⟩
  · have hno : ∀ obj, desired.find k name = some obj → (⟨k, obj⟩ : Entry) ∉ entries :=
      fun obj hobj hmem => hin ⟨obj, hobj, hmem⟩
    exact Or.inr ⟨hno, find_applied_of_not hentries c fun obj hobj hmem =>
      absurd hmem (hno obj hobj)⟩

omit [DefaultHasher] [UrlCrate] in
theorem find_applied_answering {cfg : Config} {desired : Desired} (hnamed : desired.Named)
    (hro : cfg.readOnly = false) (c : Cluster) (k : Kind) (name : String) :
    (applied cfg answering desired.entries c).find k name =
      (desired.find k name).or (c.find k name) := by
  rcases find_applied_prefix hnamed hro List.prefix_rfl c k name with
    ⟨obj, hobj, _, hfind⟩ | ⟨hno, hfind⟩
  · rw [hfind, hobj, Option.some_or]
  · cases hobj : desired.find k name with
    | none => rw [hfind, Option.none_or]
    | some obj => exact absurd (Desired.mem_entries.mpr ⟨name, hobj⟩) (hno obj hobj)

/-- A reconcile in which all calls succeed leaves the desired objects as the controller's own and
the rest of the cluster alone; in read-only mode it leaves everything alone. -/
theorem reconcile_converges (cfg : Config) (dynConfig : TraefikDynamicConfig) (c : Cluster)
    (hkeys : LabelKeysDistinct cfg) :
    let c' := ((reconcileOnce cfg (buildDesired cfg dynConfig)).run (serve answering) c).2
    (cfg.readOnly = false → Converged cfg (buildDesired cfg dynConfig) c c') ∧
      (cfg.readOnly = true → c' = c) := by
  have hnamed := buildDesired_named cfg dynConfig
  constructor
  · intro hro
    have hfinal := find_reconcileOnce (answering_appliesOk cfg hnamed) c
    simp only [find_applied_answering hnamed hro c] at hfinal
    constructor
    · intro k hk name obj
      constructor
      · rintro ⟨hfind, howned⟩
        rcases hfinal k name with ⟨_, _, hnone⟩ | ⟨hkept, hsame⟩
        · simp [hnone] at hfind
        · cases hobj : (buildDesired cfg dynConfig).find k name with
          | some obj' =>
            rw [hsame, hobj] at hfind
            exact hfind
          | none =>
            -- an owned object that nobody desires would have been swept
            refine absurd ⟨hk, rfl, ⟨obj, ?_, howned⟩, hro, ?_, rfl⟩ hkept
            · rw [find_applied_answering hnamed hro, ← hfind, hsame]
            · simp [Desired.mem_names, hobj]
      · intro hobj
        have howned := (find_buildDesired_origin hobj).1.owned hkeys
        rcases hfinal k name with ⟨_, hswept, _⟩ | ⟨_, hsame⟩
        · exact absurd (Desired.mem_names.mpr ⟨obj, hobj⟩) hswept.2.2.2.1
        · exact ⟨by rw [hsame, hobj]; rfl, howned⟩
    · intro k hk name
      rcases hfinal k name with ⟨hin, _⟩ | ⟨_, hsame⟩
      · exact absurd hin hk
      · rw [hsame, find_unswept hk, Option.none_or]
    · intro k name hforeign hnone
      rcases hfinal k name with ⟨_, ⟨_, ⟨obj, hfind, howned⟩, _⟩, _⟩ | ⟨_, hsame⟩
      · rw [find_applied_answering hnamed hro, hnone, Option.none_or] at hfind
        simp [hforeign obj hfind] at howned
      · rw [hsame, hnone, Option.none_or]
  · intro hro
    exact readOnly_states hro hnamed (Calls.Program.final_mem_states _ _ _)

omit [DefaultHasher] [UrlCrate] in
/-- The first reconcile of the sample leaves the route of its router, owned by the controller. -/
theorem reconcile_converges_sample :
    ∃ obj, (((reconcileOnce sampleConfig (@buildDesired sampleHasher sampleUrlCrate sampleConfig
        (sampleDynConfig sampleRouters))).run (serve answering) .empty).2).find .httpRoute
          "hr-app" = some obj ∧ (Kind.httpRoute.metadata obj).owned sampleConfig = true := by
  let _ := sampleHasher
  let _ := sampleUrlCrate
  have hkeys : LabelKeysDistinct sampleConfig := ⟨by decide, by decide, by decide⟩
  obtain ⟨route, hroute⟩ := httpRoutes_of_translated sample_translated
  have hname : prefixedLabel "hr" "app" = "hr-app" := by decide
  rw [hname] at hroute
  have hconverged := (reconcile_converges sampleConfig (sampleDynConfig sampleRouters) .empty
    hkeys).1 rfl
  exact ⟨route, (hconverged.swept .httpRoute (by decide) "hr-app" route).mpr hroute⟩

end PangolinGateway
