import PangolinGateway.Reconcile.ReconcileOnce
import PangolinGateway.Transform.AuthGate
import PangolinGateway.Transform.Named

/-! # Protected routes during a reconcile

Routes are applied before policies, and swept apart from them. A protected route is covered
throughout only when the cluster already holds a policy for it that the reconcile keeps: until its
own is there, or for good where the route is left over from before. -/
namespace PangolinGateway
set_option autoImplicit false
open Calls

def Covered (c : Cluster) (routeName : String) : Prop :=
  ∃ (spName : String) (sp : SecurityPolicy),
    c.find .securityPolicy spName = some sp ∧ sp.targets routeName = true

def DesiredPolicy (d : Desired) (routeName spName : String) (sp : SecurityPolicy) : Prop :=
  d.find .securityPolicy spName = some sp ∧ sp.targets routeName = true

/-- A policy of the cluster attaches to the route and stays until a desired one has: either a
desired policy for the route is applied before or in its place, or it is not overwritten, and also
not swept unless a desired one is there. -/
def Kept (cfg : Config) (d : Desired) (c : Cluster) (routeName : String) : Prop :=
  ∃ (spName : String) (sp : SecurityPolicy),
    c.find .securityPolicy spName = some sp ∧ sp.targets routeName = true ∧
      ((∃ spName' sp', DesiredPolicy d routeName spName' sp' ∧
          (compare spName' spName).isLE = true) ∨
        (d.find .securityPolicy spName = none ∧
          (sp.metadata.owned cfg = false ∨ ∃ spName' sp', DesiredPolicy d routeName spName' sp')))

/-! ## A kept policy covers its route in every state -/

section Kept
variable {cfg : Config} {env : Environment} {d : Desired} {c : Cluster} {routeName : String}

theorem covered_of_applied (hnamed : d.Named) {entries : List Entry}
    (hentries : EntriesNamed entries d.find) {spName : String} {sp : SecurityPolicy}
    (hpolicy : DesiredPolicy d routeName spName sp) (hmem : ⟨.securityPolicy, sp⟩ ∈ entries)
    (happ : Applies cfg env ⟨.securityPolicy, sp⟩) :
    Covered (applied cfg env entries c) routeName :=
  ⟨spName, sp, find_applied hentries hpolicy.1 (hnamed _ _ _ hpolicy.1) hmem happ c, hpolicy.2⟩

theorem covered_while_applying (hnamed : d.Named) (hkept : Kept cfg d c routeName)
    {entries : List Entry} (hp : entries <+: attemptedEntries cfg env d) :
    Covered (applied cfg env entries c) routeName := by
  have hentries := hnamed.entries.mono (hp.trans (attemptedEntries_isPrefix cfg env d))
  obtain ⟨spName, sp, hfind, htargets, hcase⟩ := hkept
  by_cases hover : ∃ obj, d.find .securityPolicy spName = some obj ∧
      ⟨.securityPolicy, obj⟩ ∈ entries ∧ Applies cfg env ⟨.securityPolicy, obj⟩
  · obtain ⟨obj, hobj, hmem, happ⟩ := hover
    rcases hcase with ⟨spName', sp', hpolicy, hle⟩ | ⟨hnone, _⟩
    · by_cases hname : spName' = spName
      · subst hname
        obtain rfl : sp' = obj := Option.some.inj (hpolicy.1.symm.trans hobj)
        exact covered_of_applied hnamed hentries hpolicy hmem happ
      · -- the desired policy comes earlier, so its apply succeeded
        have hlt : compare spName' spName = .lt := by
          cases hcmp : compare spName' spName with
          | lt => rfl
          | eq => exact absurd (Std.LawfulEqCmp.eq_of_compare hcmp) hname
          | gt => simp [hcmp] at hle
        obtain ⟨hmem', hok⟩ := attempted_of_name hnamed hp hmem hobj hpolicy.1 hlt
        exact covered_of_applied hnamed hentries hpolicy hmem'
          (applies_of_ok (hnamed _ _ _ hpolicy.1) happ.1 hok)
    · rw [hnone] at hobj
      simp at hobj
  · have hkeep := find_applied_of_not hentries c
      fun obj hobj hmem happ => hover ⟨obj, hobj, hmem, happ⟩
    exact ⟨spName, sp, hkeep.trans hfind, htargets⟩

theorem covered_while_sweeping (hnamed : d.Named) (hro : cfg.readOnly = false)
    (hok : AppliesOk cfg env d) (hkept : Kept cfg d c routeName) {t : Cluster}
    (ht : t ∈ (gcPhase cfg d).states (serve env) (applied cfg env d.entries c)) :
    Covered t routeName := by
  obtain ⟨spName, sp, hfind, htargets, hcase⟩ := hkept
  by_cases hdesired : ∃ spName' sp', DesiredPolicy d routeName spName' sp'
  · obtain ⟨spName', sp', hpolicy⟩ := hdesired
    have hentry : (⟨.securityPolicy, sp'⟩ : Entry) ∈ d.entries :=
      Desired.mem_entries.mpr ⟨spName', hpolicy.1⟩
    have hthere := find_applied hnamed.entries hpolicy.1 (hnamed _ _ _ hpolicy.1) hentry
      (applies_of_appliesOk hnamed hro hok hentry) c
    rcases find_of_mem_gcPhase ht .securityPolicy spName' with hsame | ⟨_, hswept, _⟩
    · exact ⟨spName', sp', hsame.trans hthere, hpolicy.2⟩
    · exact absurd (Desired.mem_names.mpr ⟨sp', hpolicy.1⟩) hswept.2.2.2.1
  · rcases hcase with ⟨spName', sp', hpolicy, _⟩ | ⟨hnone, hunowned | hpolicy⟩
    · exact absurd ⟨spName', sp', hpolicy⟩ hdesired
    · have hthere : (applied cfg env d.entries c).find .securityPolicy spName = some sp := by
        rw [find_applied_of_not hnamed.entries c fun obj hobj => by simp [hnone] at hobj, hfind]
      rcases find_of_mem_gcPhase ht .securityPolicy spName with hsame | ⟨_, hswept, _⟩
      · exact ⟨spName, sp, hsame.trans hthere, htargets⟩
      · obtain ⟨obj, hobj, howned⟩ := hswept.2.1
        obtain rfl : sp = obj := Option.some.inj (hthere.symm.trans hobj)
        exact absurd (howned.symm.trans hunowned) (by simp)
    · exact absurd hpolicy hdesired

theorem covered_of_kept (hnamed : d.Named) (hro : cfg.readOnly = false)
    (hkept : Kept cfg d c routeName) {t : Cluster}
    (ht : t ∈ (reconcileOnce cfg d).states (serve env) c) : Covered t routeName := by
  rcases (mem_states_reconcileOnce cfg env d c t).mp ht with ⟨entries, hp, rfl⟩ | ⟨hok, hgc⟩
  · exact covered_while_applying hnamed hkept hp
  · exact covered_while_sweeping hnamed hro hok hkept hgc

/-! ## A route covered in every state has a kept policy -/

def policyFor (routeName : String) : Entry → Bool
  | ⟨.securityPolicy, sp⟩ => SecurityPolicy.targets sp routeName
  | _ => false

theorem policyFor_eq {entry : Entry} (h : policyFor routeName entry = true) :
    ∃ sp : SecurityPolicy, entry = ⟨.securityPolicy, sp⟩ ∧ sp.targets routeName = true := by
  obtain ⟨k, obj⟩ := entry
  cases k with
  | securityPolicy => exact ⟨obj, rfl, h⟩
  | _ => simp [policyFor] at h

/-- The state just before the first desired policy for the route is written. -/
theorem kept_of_front (hnamed : d.Named) (hro : cfg.readOnly = false) {spName : String}
    {sp : SecurityPolicy} (hpolicy : DesiredPolicy d routeName spName sp) {front back : List Entry}
    (hsplit : d.entries = front ++ ⟨.securityPolicy, sp⟩ :: back)
    (hfront : ∀ entry ∈ front, policyFor routeName entry = false)
    (hcovered : Covered (applied cfg answering front c) routeName) : Kept cfg d c routeName := by
  have hp : front <+: d.entries := ⟨_, hsplit.symm⟩
  have hentries := hnamed.entries.mono hp
  have hok := answering_appliesOk cfg hnamed
  obtain ⟨spName', sp', hfind, htargets⟩ := hcovered
  by_cases hover : ∃ obj, d.find .securityPolicy spName' = some obj ∧ ⟨.securityPolicy, obj⟩ ∈ front
  · -- it would be a desired policy for the route that comes earlier still
    obtain ⟨obj, hobj, hmem⟩ := hover
    have happ := applies_of_appliesOk hnamed hro hok (hp.subset hmem)
    have hthere := find_applied hentries hobj (hnamed _ _ _ hobj) hmem happ c
    obtain rfl : sp' = obj := Option.some.inj (hfind.symm.trans hthere)
    exact absurd (hfront _ hmem) (by simp [policyFor, htargets])
  · have hstart : c.find .securityPolicy spName' = some sp' := by
      rw [← hfind, find_applied_of_not hentries c fun obj hobj hmem _ => hover ⟨obj, hobj, hmem⟩]
    refine ⟨spName', sp', hstart, htargets, ?_⟩
    cases hobj : d.find .securityPolicy spName' with
    | none => exact Or.inr ⟨rfl, Or.inr ⟨spName, sp, hpolicy⟩⟩
    | some obj =>
      refine Or.inl ⟨spName, sp, hpolicy, ?_⟩
      cases hcmp : compare spName spName' with
      | lt => rfl
      | eq => rfl
      | gt =>
        have hlt : compare spName' spName = .lt := Std.OrientedCmp.lt_of_gt hcmp
        exact absurd ⟨obj, hobj, mem_front_of_name hnamed hsplit hpolicy.1 hobj hlt⟩ hover

/-- The last state, when no desired policy attaches to the route and the policies are swept. -/
theorem kept_of_final (hro : cfg.readOnly = false) (hext : cfg.extAuthz.isSome = true)
    (hnamed : d.Named) (hok : AppliesOk cfg env d)
    (hlets : ∀ spName, LetsSweep cfg env .securityPolicy spName)
    (hno : ∀ spName sp, ¬DesiredPolicy d routeName spName sp)
    (hcovered : Covered ((reconcileOnce cfg d).run (serve env) c).2 routeName) :
    Kept cfg d c routeName := by
  obtain ⟨spName, sp, hfind, htargets⟩ := hcovered
  rcases find_reconcileOnce hok c .securityPolicy spName with ⟨_, _, hnone⟩ | ⟨hnot, hkeep⟩
  · rw [hnone] at hfind
    simp at hfind
  · have hfind' := hkeep.symm.trans hfind
    cases hobj : d.find .securityPolicy spName with
    | some obj =>
      have hentry : (⟨.securityPolicy, obj⟩ : Entry) ∈ d.entries :=
        Desired.mem_entries.mpr ⟨spName, hobj⟩
      have hthere := find_applied hnamed.entries hobj (hnamed _ _ _ hobj) hentry
        (applies_of_appliesOk hnamed hro hok hentry) c
      obtain rfl : sp = obj := Option.some.inj (hfind'.symm.trans hthere)
      exact absurd ⟨hobj, htargets⟩ (hno spName sp)
    | none =>
      have hstart : c.find .securityPolicy spName = some sp := by
        rw [← hfind', find_applied_of_not hnamed.entries c fun obj h => by simp [hobj] at h]
      refine ⟨spName, sp, hstart, htargets, Or.inr ⟨hobj, Or.inl ?_⟩⟩
      by_contra hunowned
      have howned : sp.metadata.owned cfg = true := by simpa using hunowned
      obtain ⟨hlist, heff⟩ := hlets spName
      have hswept : SweptFrom cfg env d (applied cfg env d.entries c) .securityPolicy spName := by
        refine ⟨hlist, ⟨sp, hfind', howned⟩, hro, ?_, heff⟩
        intro hname
        obtain ⟨obj, h⟩ := Desired.mem_names.mp hname
        simp [hobj] at h
      exact hnot ⟨by simp [sweepOrder, hext], hswept⟩

theorem kept_of_covered (hnamed : d.Named) (hro : cfg.readOnly = false)
    (hext : cfg.extAuthz.isSome = true) {route : HTTPRoute}
    (hroute : d.find .httpRoute routeName = some route)
    (h : ∀ t ∈ (reconcileOnce cfg d).states (serve answering) c,
      (t.find .httpRoute routeName).isSome = true → Covered t routeName) :
    Kept cfg d c routeName := by
  have hok := answering_appliesOk cfg hnamed
  have hentry : (⟨.httpRoute, route⟩ : Entry) ∈ d.entries := Desired.mem_entries.mpr ⟨_, hroute⟩
  have happ := applies_of_appliesOk hnamed hro hok hentry
  cases hfirst : d.entries.find? (policyFor routeName) with
  | none =>
    have hno : ∀ spName sp, ¬DesiredPolicy d routeName spName sp := by
      intro spName sp hpolicy
      have hnot := List.find?_eq_none.mp hfirst _ (Desired.mem_entries.mpr ⟨spName, hpolicy.1⟩)
      exact hnot hpolicy.2
    refine kept_of_final hro hext hnamed hok (fun _ => ⟨rfl, rfl⟩) hno
      (h _ (Program.final_mem_states _ _ _) ?_)
    have hthere := find_applied hnamed.entries hroute (hnamed _ _ _ hroute) hentry happ c
    rcases find_reconcileOnce hok c .httpRoute routeName with ⟨_, hswept, _⟩ | ⟨_, hkeep⟩
    · exact absurd (Desired.mem_names.mpr ⟨route, hroute⟩) hswept.2.2.2.1
    · rw [hkeep, hthere]
      rfl
  | some entry =>
    obtain ⟨hentry', front, back, hsplit, hfront⟩ := List.find?_eq_some_iff_append.mp hfirst
    obtain ⟨sp, rfl, htargets⟩ := policyFor_eq hentry'
    obtain ⟨spName, hsp⟩ := Desired.mem_entries.mp (List.mem_of_find?_eq_some hfirst)
    have hp : front <+: d.entries := ⟨_, hsplit.symm⟩
    -- all routes are written before the first policy
    have hkinds : applyOrder.idxOf .httpRoute < applyOrder.idxOf .securityPolicy := by decide
    have hmem := mem_front_of_kind hnamed hsplit hentry hkinds
    refine kept_of_front hnamed hro ⟨hsp, htargets⟩ hsplit (by simpa using hfront) (h _ ?_ ?_)
    · refine (mem_states_reconcileOnce cfg answering d c _).mpr (Or.inl ⟨front, ?_, rfl⟩)
      rwa [attemptedEntries_of_ok hok]
    · rw [find_applied (hnamed.entries.mono hp) hroute (hnamed _ _ _ hroute) hmem happ c]
      rfl

/-! ## A route that is left over -/

/-- With the list of routes refused the route stays and its policies are swept. -/
theorem kept_of_covered_leftOver (hnamed : d.Named) (hro : cfg.readOnly = false)
    (hext : cfg.extAuthz.isSome = true) (hnone : d.find .httpRoute routeName = none)
    (hno : ∀ spName sp, ¬DesiredPolicy d routeName spName sp)
    (hroute : (c.find .httpRoute routeName).isSome = true)
    (h : ∀ t ∈ (reconcileOnce cfg d).states (serve routesUnlisted) c,
      (t.find .httpRoute routeName).isSome = true → Covered t routeName) :
    Kept cfg d c routeName := by
  have hok : AppliesOk cfg routesUnlisted d := appliesOk_of_answered cfg hnamed fun _ _ _ _ => rfl
  refine kept_of_final hro hext hnamed hok (fun _ => ⟨rfl, rfl⟩) hno
    (h _ (Program.final_mem_states _ _ _) ?_)
  rcases find_reconcileOnce hok c .httpRoute routeName with ⟨_, hswept, _⟩ | ⟨_, hkeep⟩
  · exact nomatch hswept.1
  · rwa [hkeep, find_applied_of_not hnamed.entries c fun obj hobj => by simp [hnone] at hobj]

/-- A route that is neither desired nor there at the start never comes. -/
theorem absent_throughout (hnamed : d.Named) (hnone : d.find .httpRoute routeName = none)
    (hstart : c.find .httpRoute routeName = none) {t : Cluster}
    (ht : t ∈ (reconcileOnce cfg d).states (serve env) c) :
    t.find .httpRoute routeName = none := by
  have hunwritten : ∀ entries, entries <+: d.entries →
      (applied cfg env entries c).find .httpRoute routeName = none := fun entries hp => by
    rw [find_applied_of_not (hnamed.entries.mono hp) c fun obj hobj => by simp [hnone] at hobj,
      hstart]
  rcases (mem_states_reconcileOnce cfg env d c t).mp ht with ⟨entries, hp, rfl⟩ | ⟨_, hgc⟩
  · exact hunwritten entries (hp.trans (attemptedEntries_isPrefix cfg env d))
  · rcases find_of_mem_gcPhase hgc .httpRoute routeName with hkeep | ⟨_, _, hgone⟩
    · exact hkeep.trans (hunwritten d.entries List.prefix_rfl)
    · exact hgone

end Kept

/-! ## The protected routes of a dynamic config -/

section Routes
variable [DefaultHasher] [UrlCrate]

/-- No translated router takes the route name, so a route of this name is left over from before. -/
def LeftOver (cfg : Config) (dynConfig : TraefikDynamicConfig) (routeName : String) : Prop :=
  ∀ entry, ¬RouterOf cfg dynConfig routeName entry

/-- The name of the route of a protected router, which is built from the router or left over. -/
def ProtectedRoute (cfg : Config) (dynConfig : TraefikDynamicConfig) (routeName : String) : Prop :=
  ∃ routerName router, dynConfig.http.routers[routerName]? = some router ∧
    NeedsAuth dynConfig router ∧ routeName = prefixedLabel "hr" routerName ∧
    (RouterOf cfg dynConfig routeName (routerName, router) ∨ LeftOver cfg dynConfig routeName)

/-- Every protected route that is in the cluster is covered. -/
def NoneExposed (cfg : Config) (dynConfig : TraefikDynamicConfig) (c : Cluster) : Prop :=
  ∀ routeName, ProtectedRoute cfg dynConfig routeName →
    (c.find .httpRoute routeName).isSome = true → Covered c routeName

variable {cfg : Config} {dynConfig : TraefikDynamicConfig} {c : Cluster} {routeName : String}

theorem LeftOver.unbuilt (h : LeftOver cfg dynConfig routeName) :
    (buildDesired cfg dynConfig).find .httpRoute routeName = none := by
  refine Option.eq_none_iff_forall_ne_some.mpr fun route hroute => ?_
  obtain ⟨entry, hrouter, _⟩ := httpRoutes_routerOf.mp hroute
  exact h entry hrouter

/-- A desired policy comes with the route that it targets. -/
theorem LeftOver.untargeted (h : LeftOver cfg dynConfig routeName) (spName : String)
    (sp : SecurityPolicy) : ¬DesiredPolicy (buildDesired cfg dynConfig) routeName spName sp := by
  rintro ⟨hsp, htargets⟩
  obtain ⟨routerName, router, ea, htrans, _, _, rfl, _⟩ := securityPolicies_origin hsp
  obtain ⟨route, hroute⟩ := httpRoutes_of_translated htrans
  rw [buildSecurityPolicy_targets.mp htargets] at hroute
  exact absurd (h.unbuilt.symm.trans hroute) (by simp)

theorem kept_of_noneExposed (hext : cfg.extAuthz.isSome = true) (hro : cfg.readOnly = false)
    (h : ∀ env, ∀ t ∈ (reconcileOnce cfg (buildDesired cfg dynConfig)).states (serve env) c,
      NoneExposed cfg dynConfig t) (hroute : ProtectedRoute cfg dynConfig routeName) :
    (LeftOver cfg dynConfig routeName ∧ c.find .httpRoute routeName = none) ∨
      Kept cfg (buildDesired cfg dynConfig) c routeName := by
  have hnamed := buildDesired_named cfg dynConfig
  have hcovered := fun env t ht => h env t ht routeName hroute
  obtain ⟨routerName, router, _, _, _, hrouter | hleft⟩ := hroute
  · obtain ⟨route, hbuilt⟩ := hrouter.built
    exact Or.inr (kept_of_covered hnamed hro hext hbuilt (hcovered answering))
  · cases hfind : c.find .httpRoute routeName with
    | none => exact Or.inl ⟨hleft, rfl⟩
    | some route =>
      exact Or.inr (kept_of_covered_leftOver hnamed hro hext hleft.unbuilt hleft.untargeted
        (by rw [hfind]; rfl) (hcovered routesUnlisted))

/-- From a start in which no protected route is exposed, none is in any state of the reconcile at
any failure point exactly when the controller only reads or each is left over and not there, or has
a policy that is kept. -/
theorem never_exposed_iff (cfg : Config) (dynConfig : TraefikDynamicConfig) (c : Cluster)
    (hext : cfg.extAuthz.isSome = true) (hstart : NoneExposed cfg dynConfig c) :
    (∀ env, ∀ t ∈ (reconcileOnce cfg (buildDesired cfg dynConfig)).states (serve env) c,
        NoneExposed cfg dynConfig t) ↔
      cfg.readOnly = true ∨ ∀ routeName, ProtectedRoute cfg dynConfig routeName →
        (LeftOver cfg dynConfig routeName ∧ c.find .httpRoute routeName = none) ∨
          Kept cfg (buildDesired cfg dynConfig) c routeName := by
  have hnamed := buildDesired_named cfg dynConfig
  constructor
  · intro h
    cases hro : cfg.readOnly with
    | true => exact Or.inl rfl
    | false => exact Or.inr fun routeName hroute => kept_of_noneExposed hext hro h hroute
  · intro h env t ht
    cases hro : cfg.readOnly with
    | true => rwa [readOnly_states hro hnamed ht]
    | false =>
      rcases h with hro' | hsafe
      · simp [hro] at hro'
      · intro routeName hroute hthere
        rcases hsafe routeName hroute with ⟨hleft, habsent⟩ | hkept
        · rw [absent_throughout hnamed hleft.unbuilt habsent ht] at hthere
          simp at hthere
        · exact covered_of_kept hnamed hro hkept ht

end Routes

/-! ## The sample, from an empty cluster and from one that holds the policy -/

theorem sample_protectedRoute (routeName : String) :
    @ProtectedRoute sampleHasher sampleUrlCrate sampleConfig (sampleDynConfig sampleRouters)
      routeName ↔ routeName = "hr-app" := by
  let _ := sampleHasher
  let _ := sampleUrlCrate
  have happ : prefixedLabel "hr" "app" = "hr-app" := by decide
  constructor
  · rintro ⟨routerName, router, hrouter, hauth, rfl, _⟩
    have honly : ∀ entry ∈ (sampleDynConfig sampleRouters).http.routers.toList,
        requiresBadgerAuth entry.2.middlewares
          (sampleDynConfig sampleRouters).http.middlewares = true → entry.1 = "app" := by
      decide
    have hname := honly (routerName, router)
      (Std.ExtTreeMap.mem_toList_iff_getElem?_eq_some.mpr hrouter) hauth
    rw [← happ, show routerName = "app" from hname]
  · rintro rfl
    have hauth : NeedsAuth (sampleDynConfig sampleRouters)
        ⟨"Host(`a.b`)", "app", ["badger"], ["https"], none, none⟩ := by
      unfold NeedsAuth
      decide
    have hrouter : RouterOf sampleConfig (sampleDynConfig sampleRouters) "hr-app"
        ("app", ⟨"Host(`a.b`)", "app", ["badger"], ["https"], none, none⟩) := rfl
    exact ⟨"app", _, rfl, hauth, happ.symm, Or.inl hrouter⟩

def samplePolicy : SecurityPolicy :=
  @buildSecurityPolicy sampleHasher sampleConfig sampleExtAuthz "hr-app"

theorem samplePolicy_name :
    (Kind.securityPolicy.metadata samplePolicy).name = some "sp-hr-app" := by
  decide

def samplePolicyCluster : Cluster :=
  Cluster.empty.put .securityPolicy "sp-hr-app" samplePolicy samplePolicy_name

theorem samplePolicyCluster_noRoutes (routeName : String) :
    samplePolicyCluster.find .httpRoute routeName = none := by
  rw [samplePolicyCluster, Cluster.find_put_of_ne _ _ _ _ _ (by simp), Cluster.find_empty]

theorem sample_kept : Kept sampleConfig (@buildDesired sampleHasher sampleUrlCrate sampleConfig
    (sampleDynConfig sampleRouters)) samplePolicyCluster "hr-app" := by
  have hdesired : ((@buildDesired sampleHasher sampleUrlCrate sampleConfig
      (sampleDynConfig sampleRouters)).securityPolicies["sp-hr-app"]?).any
        (fun sp => sp.targets "hr-app") = true := by decide
  obtain ⟨sp, hsp, htargets⟩ := (Option.any_eq_true _ _).mp hdesired
  exact ⟨"sp-hr-app", samplePolicy, Cluster.find_put_self _ _ _ _ _, by decide,
    Or.inl ⟨"sp-hr-app", sp, ⟨hsp, htargets⟩, by decide⟩⟩

/-- With its policy in place beforehand, the protected route of the sample is never exposed. -/
theorem never_exposed_sample :
    @NoneExposed sampleHasher sampleUrlCrate sampleConfig (sampleDynConfig sampleRouters)
        samplePolicyCluster ∧
      ∀ env, ∀ t ∈ (reconcileOnce sampleConfig (@buildDesired sampleHasher sampleUrlCrate
          sampleConfig (sampleDynConfig sampleRouters))).states (serve env) samplePolicyCluster,
        @NoneExposed sampleHasher sampleUrlCrate sampleConfig (sampleDynConfig sampleRouters) t := by
  let _ := sampleHasher
  let _ := sampleUrlCrate
  have hstart : NoneExposed sampleConfig (sampleDynConfig sampleRouters) samplePolicyCluster := by
    intro routeName _ hroute
    simp [samplePolicyCluster_noRoutes] at hroute
  refine ⟨hstart, (never_exposed_iff _ _ _ rfl hstart).mpr (Or.inr fun routeName hroute => ?_)⟩
  rw [(sample_protectedRoute routeName).mp hroute]
  exact Or.inr sample_kept

/-- From an empty cluster the route of the sample's protected router is up before its policy. -/
theorem exposed_from_empty :
    @NoneExposed sampleHasher sampleUrlCrate sampleConfig (sampleDynConfig sampleRouters) .empty ∧
      ∃ t ∈ (reconcileOnce sampleConfig (@buildDesired sampleHasher sampleUrlCrate sampleConfig
          (sampleDynConfig sampleRouters))).states (serve answering) .empty,
        ¬@NoneExposed sampleHasher sampleUrlCrate sampleConfig (sampleDynConfig sampleRouters) t := by
  let _ := sampleHasher
  let _ := sampleUrlCrate
  constructor
  · intro routeName _ hroute
    simp at hroute
  · by_contra hno
    simp only [not_exists, not_and, not_not] at hno
    obtain ⟨route, hbuilt⟩ := httpRoutes_of_translated sample_translated
    have hname : prefixedLabel "hr" "app" = "hr-app" := by decide
    rw [hname] at hbuilt
    have hkept : Kept sampleConfig (buildDesired sampleConfig (sampleDynConfig sampleRouters))
        .empty "hr-app" :=
      kept_of_covered (buildDesired_named _ _) rfl rfl hbuilt fun t ht =>
        hno t ht _ ((sample_protectedRoute _).mpr rfl)
    obtain ⟨spName, sp, hfind, _⟩ := hkept
    simp at hfind

end PangolinGateway
