import PangolinGateway.Reconcile.ProtectedRoutes

/-! # Route GC and policy GC

Each kind is swept on its own and a failed list or delete is logged only, so the policy of an
orphaned route can go while the route stays. -/
namespace PangolinGateway
set_option autoImplicit false
open Calls

/-- An owned route outside the desired set, and an owned policy that attaches to it. -/
def GuardedOrphan (cfg : Config) (desired : Desired) (c : Cluster) (routeName spName : String) :
    Prop :=
  (∃ route : HTTPRoute, c.find .httpRoute routeName = some route ∧
    route.metadata.owned cfg = true) ∧
  desired.find .httpRoute routeName = none ∧
  ∃ sp : SecurityPolicy, c.find .securityPolicy spName = some sp ∧
    sp.metadata.owned cfg = true ∧ sp.targets routeName = true

/-- No such route is left by the sweeps without its policy. -/
def InLockstep (cfg : Config) (desired : Desired) (env : Environment) (c : Cluster) : Prop :=
  ∀ routeName spName, GuardedOrphan cfg desired c routeName spName →
    (((gcPhase cfg desired).run (serve env) c).2.find .httpRoute routeName).isSome = true →
      (((gcPhase cfg desired).run (serve env) c).2.find .securityPolicy spName).isSome = true

theorem find_gcPhase_of_owned {cfg : Config} (desired : Desired) (env : Environment) {c : Cluster}
    {k : Kind} (hk : k ∈ sweepOrder cfg) (hro : cfg.readOnly = false) {name : String} {obj : k.Obj}
    (hfind : c.find k name = some obj) (howned : (k.metadata obj).owned cfg = true) :
    (((gcPhase cfg desired).run (serve env) c).2.find k name).isSome = true ↔
      (desired.find k name).isSome = true ∨ ¬LetsSweep cfg env k name := by
  have hswept : SweptFrom cfg env desired c k name ↔
      desired.find k name = none ∧ LetsSweep cfg env k name := by
    have hnames : name ∉ desired.names k ↔ desired.find k name = none := by
      rw [Desired.mem_names, ← Option.isSome_iff_exists, Option.not_isSome_iff_eq_none]
    constructor
    · rintro ⟨hlist, _, _, hname, heff⟩
      exact ⟨hnames.mp hname, hlist, heff⟩
    · rintro ⟨hname, hlist, heff⟩
      exact ⟨hlist, ⟨obj, hfind, howned⟩, hro, hnames.mpr hname, heff⟩
  rcases (run_gcPhase cfg env desired c).2 k name with ⟨_, hremoved, hnone⟩ | ⟨hnot, hkeep⟩
  · obtain ⟨hdesired, hlets⟩ := hswept.mp hremoved
    simp [hnone, hdesired, hlets]
  · rw [hkeep, hfind]
    simp only [Option.isSome_some, true_iff]
    by_contra hno
    rw [not_or, not_not, Option.not_isSome_iff_eq_none] at hno
    exact hnot ⟨hk, hswept.mpr hno⟩

/-- Routes and their policies stay in lockstep exactly when the controller only reads or, for each
orphaned route with a policy outside the desired set, the route goes or the policy stays. -/
theorem lockstep_iff (cfg : Config) (desired : Desired) (env : Environment) (c : Cluster)
    (hext : cfg.extAuthz.isSome = true) :
    InLockstep cfg desired env c ↔ cfg.readOnly = true ∨
      ∀ routeName spName, GuardedOrphan cfg desired c routeName spName →
        (desired.find .securityPolicy spName).isSome = true ∨
          LetsSweep cfg env .httpRoute routeName ∨ ¬LetsSweep cfg env .securityPolicy spName := by
  have hroute : Kind.httpRoute ∈ sweepOrder cfg := by simp [sweepOrder]
  have hpolicy : Kind.securityPolicy ∈ sweepOrder cfg := by simp [sweepOrder, hext]
  cases hro : cfg.readOnly with
  | true =>
    simp only [true_or, iff_true]
    rintro routeName spName ⟨_, _, sp, hsp, _⟩ _
    rcases (run_gcPhase cfg env desired c).2 .securityPolicy spName with
      ⟨_, hswept, _⟩ | ⟨_, hkeep⟩
    · simp [hswept.2.2.1] at hro
    · rw [hkeep, hsp]
      rfl
  | false =>
    simp only [Bool.false_eq_true, false_or]
    refine forall_congr' fun routeName => forall_congr' fun spName => ?_
    apply imp_congr_right
    rintro ⟨⟨route, hfind, howned⟩, horphan, sp, hsp, hspOwned, _⟩
    rw [find_gcPhase_of_owned desired env hroute hro hfind howned,
      find_gcPhase_of_owned desired env hpolicy hro hsp hspOwned, horphan]
    simp only [Option.isSome_none, Bool.false_eq_true, false_or]
    rw [← or_iff_not_imp_left]
    exact or_left_comm

/-! ## The sample's protected route after its router is gone -/

def sampleOrphanRoute : HTTPRoute where
  metadata := managedMetadata sampleConfig "hr-app" (ownerLabels sampleConfig "hr-app")
  spec := ⟨none, some ["a.b"], none⟩

theorem sampleOrphanRoute_name :
    (Kind.httpRoute.metadata sampleOrphanRoute).name = some "hr-app" := rfl

def sampleGuardedCluster : Cluster :=
  (Cluster.empty.put .httpRoute "hr-app" sampleOrphanRoute sampleOrphanRoute_name).put .securityPolicy "sp-hr-app"
    samplePolicy samplePolicy_name

def sampleNoRouters : Desired :=
  @buildDesired sampleHasher sampleUrlCrate sampleConfig emptyDynConfig

def sampleBeforeGc : Cluster :=
  ((applyPhase sampleConfig sampleNoRouters).run (serve routesUnlisted) sampleGuardedCluster).2

theorem sampleNoRouters_named : sampleNoRouters.Named :=
  @buildDesired_named sampleHasher sampleUrlCrate _ _

theorem sampleNoRouters_noRoute : sampleNoRouters.find .httpRoute "hr-app" = none := by
  have h : (sampleNoRouters.httpRoutes["hr-app"]?).isNone = true := by decide
  exact Option.isNone_iff_eq_none.mp h

theorem sampleNoRouters_noPolicy : sampleNoRouters.find .securityPolicy "sp-hr-app" = none := by
  have h : (sampleNoRouters.securityPolicies["sp-hr-app"]?).isNone = true := by decide
  exact Option.isNone_iff_eq_none.mp h

theorem sampleBeforeGc_find {k : Kind} {name : String} (h : sampleNoRouters.find k name = none) :
    sampleBeforeGc.find k name = sampleGuardedCluster.find k name := by
  rw [sampleBeforeGc, (run_applyPhase _ _ _ _).2]
  refine find_applied_of_not (sampleNoRouters_named.entries.mono
    (attemptedEntries_isPrefix _ _ _)) _ fun obj hobj => ?_
  rw [h] at hobj
  simp at hobj

theorem sampleBeforeGc_route :
    sampleBeforeGc.find .httpRoute "hr-app" = some sampleOrphanRoute := by
  rw [sampleBeforeGc_find sampleNoRouters_noRoute, sampleGuardedCluster,
    Cluster.find_put_of_ne _ _ _ _ _ (by simp), Cluster.find_put_self]

theorem sampleBeforeGc_policy :
    sampleBeforeGc.find .securityPolicy "sp-hr-app" = some samplePolicy := by
  rw [sampleBeforeGc_find sampleNoRouters_noPolicy, sampleGuardedCluster, Cluster.find_put_self]

theorem sampleOrphanRoute_owned : sampleOrphanRoute.metadata.owned sampleConfig = true := by
  decide

theorem samplePolicy_owned : samplePolicy.metadata.owned sampleConfig = true := by decide

theorem sample_guardedOrphan :
    GuardedOrphan sampleConfig sampleNoRouters sampleBeforeGc "hr-app" "sp-hr-app" :=
  ⟨⟨sampleOrphanRoute, sampleBeforeGc_route, sampleOrphanRoute_owned⟩, sampleNoRouters_noRoute,
    samplePolicy, sampleBeforeGc_policy, samplePolicy_owned, by decide⟩

/-- With the list of routes refused, the policy of the orphaned route is deleted all the same. -/
theorem lockstep_broken :
    ((applyPhase sampleConfig sampleNoRouters).run (serve routesUnlisted) sampleGuardedCluster).1 =
        .ok () ∧
      ¬InLockstep sampleConfig sampleNoRouters routesUnlisted sampleBeforeGc := by
  constructor
  · exact (run_applyPhase _ _ _ _).1.mpr
      (appliesOk_of_answered _ sampleNoRouters_named fun _ _ _ _ => rfl)
  · intro hlockstep
    have hroute : Kind.httpRoute ∈ sweepOrder sampleConfig := by decide
    have hpolicy : Kind.securityPolicy ∈ sweepOrder sampleConfig := by decide
    have hleft := (find_gcPhase_of_owned sampleNoRouters routesUnlisted hroute rfl
      sampleBeforeGc_route sampleOrphanRoute_owned).mpr (Or.inr fun h => nomatch h.1)
    have hstays := hlockstep _ _ sample_guardedOrphan hleft
    rcases (find_gcPhase_of_owned sampleNoRouters routesUnlisted hpolicy rfl
      sampleBeforeGc_policy samplePolicy_owned).mp hstays with hdesired | hnot
    · rw [sampleNoRouters_noPolicy] at hdesired
      simp at hdesired
    · exact hnot ⟨rfl, rfl⟩

/-- With every call answered the route of the sample goes along with its policy. -/
theorem lockstep_sample :
    InLockstep sampleConfig sampleNoRouters answering sampleBeforeGc :=
  (lockstep_iff _ _ _ _ rfl).mpr (Or.inr fun _ _ _ => Or.inr (Or.inl ⟨rfl, rfl⟩))

end PangolinGateway
