import PangolinGateway.Reconcile.ApplyPhase

/-! # One reconcile: apply the desired set, sweep what is no longer wanted, report statuses -/
namespace PangolinGateway
set_option autoImplicit false
open Calls

/-- The kinds swept under a configuration: those whose definitions may not be installed only when
their feature is on. -/
def sweepOrder (cfg : Config) : List Kind :=
  [.httpRoute, .listenerSet, .endpointSlice, .service] ++
    (if cfg.backendKind = .envoyBackend then [.envoyBackend] else []) ++
    (if cfg.enableTcpRoutes then [.tcpRoute] else []) ++
    (if cfg.enableUdpRoutes then [.udpRoute] else []) ++
    (if cfg.extAuthz.isSome then [.securityPolicy] else []) ++
    [.backendTlsPolicy]

/-- The failure of a sweep is logged only. -/
def gcKind (cfg : Config) (desired : Desired) (k : Kind) : KubeProgram :=
  (sweep cfg k (desired.names k)).bind fun _ => .done (.ok ())

def gcPhase (cfg : Config) (desired : Desired) : KubeProgram :=
  Program.forEach (gcKind cfg desired) (sweepOrder cfg)

def reportStatus (cfg : Config) (k : Kind) : KubeProgram :=
  .call (.list k cfg.managedSelector) fun _ => .done (.ok ())

def statusOrder (cfg : Config) : List Kind :=
  [.httpRoute, .listenerSet] ++ (if cfg.enableTcpRoutes then [.tcpRoute] else []) ++
    (if cfg.enableUdpRoutes then [.udpRoute] else [])

def statusPhase (cfg : Config) : KubeProgram :=
  Program.forEach (reportStatus cfg) (statusOrder cfg)

def reconcileOnce (cfg : Config) (desired : Desired) : KubeProgram :=
  (applyPhase cfg desired).andThen ((gcPhase cfg desired).andThen (statusPhase cfg))

/-! ## The sweeps -/

theorem run_gcKind (cfg : Config) (env : Environment) (desired : Desired) (k : Kind) (c : Cluster) :
    (gcKind cfg desired k).run (serve env) c =
      (.ok (), ((sweep cfg k (desired.names k)).run (serve env) c).2) := by
  rw [gcKind, Program.run_bind, Program.run_done]

theorem mem_states_gcKind (cfg : Config) (env : Environment) (desired : Desired) (k : Kind)
    (c t : Cluster) : t ∈ (gcKind cfg desired k).states (serve env) c ↔
      t ∈ (sweep cfg k (desired.names k)).states (serve env) c := by
  rw [gcKind, Program.mem_states_bind, Program.states_done, List.mem_singleton,
    or_iff_left_iff_imp]
  rintro rfl
  exact Program.final_mem_states _ _ _

/-- The sweep of `k` removes the object of this name from `c`. -/
abbrev SweptFrom (cfg : Config) (env : Environment) (desired : Desired) (c : Cluster) (k : Kind)
    (name : String) : Prop :=
  Sweeps cfg env k (desired.names k) c name

theorem sweptFrom_congr {cfg : Config} {env : Environment} {desired : Desired} {c c' : Cluster}
    {k : Kind} {name : String} (h : c.find k name = c'.find k name) :
    SweptFrom cfg env desired c k name ↔ SweptFrom cfg env desired c' k name := by
  unfold SweptFrom Sweeps
  rw [h]

/-- The environment lets the sweep of `k` list its objects and delete the one of this name. -/
def LetsSweep (cfg : Config) (env : Environment) (k : Kind) (name : String) : Prop :=
  env (.list k cfg.managedSelector) = .answered ∧ (env (.delete k name)).takesEffect = true

/-- The sweeps of distinct kinds never fail, and remove what each removes from its own kind. -/
theorem run_sweeps (cfg : Config) (env : Environment) (desired : Desired) {ks : List Kind}
    (hks : ks.Nodup) (c : Cluster) :
    ((Program.forEach (gcKind cfg desired) ks).run (serve env) c).1 = .ok () ∧
      ∀ k name, (k ∈ ks ∧ SweptFrom cfg env desired c k name ∧
          (((Program.forEach (gcKind cfg desired) ks).run (serve env) c).2).find k name = none) ∨
        (¬(k ∈ ks ∧ SweptFrom cfg env desired c k name) ∧
          (((Program.forEach (gcKind cfg desired) ks).run (serve env) c).2).find k name =
            c.find k name) := by
  induction ks generalizing c with
  | nil => exact ⟨rfl, fun k name => Or.inr ⟨by simp, rfl⟩⟩
  | cons k₀ ks ih =>
    obtain ⟨hnotin, hnodup⟩ := List.nodup_cons.mp hks
    have hfirst := find_sweep cfg env k₀ (desired.names k₀) c
    have hrun := run_gcKind cfg env desired k₀ c
    rw [Program.forEach, Program.run_andThen_ok (serve env) (by rw [hrun]), hrun]
    generalize ((sweep cfg k₀ (desired.names k₀)).run (serve env) c).2 = c₁ at hfirst
    obtain ⟨hok, hrest⟩ := ih hnodup c₁
    refine ⟨hok, ?_⟩
    intro k name
    rcases hfirst k name with ⟨rfl, hswept, hnone⟩ | ⟨hno, hkeep⟩
    · rcases hrest k name with ⟨hin, _⟩ | ⟨_, hlast⟩
      · exact absurd hin hnotin
      · exact Or.inl ⟨List.mem_cons_self, hswept, hlast.trans hnone⟩
    · rcases hrest k name with ⟨hin, hswept, hnone⟩ | ⟨hno', hlast⟩
      · exact Or.inl ⟨List.mem_cons_of_mem _ hin, (sweptFrom_congr hkeep).mp hswept, hnone⟩
      · refine Or.inr ⟨?_, hlast.trans hkeep⟩
        rintro ⟨hin, hswept⟩
        rcases List.mem_cons.mp hin with rfl | hin
        · exact hno ⟨rfl, hswept⟩
        · exact hno' ⟨hin, (sweptFrom_congr hkeep).mpr hswept⟩

/-- During the sweeps an object is as it was, or one that the sweep of its kind removes. -/
theorem find_of_mem_sweeps {cfg : Config} {env : Environment} {desired : Desired} {ks : List Kind}
    (hks : ks.Nodup) {c t : Cluster}
    (ht : t ∈ (Program.forEach (gcKind cfg desired) ks).states (serve env) c) (k : Kind)
    (name : String) :
    t.find k name = c.find k name ∨
      (k ∈ ks ∧ SweptFrom cfg env desired c k name ∧ t.find k name = none) := by
  induction ks generalizing c with
  | nil =>
    rw [Program.forEach, Program.states_done, List.mem_singleton] at ht
    exact Or.inl (by rw [ht])
  | cons k₀ ks ih =>
    obtain ⟨hnotin, hnodup⟩ := List.nodup_cons.mp hks
    have hrun := run_gcKind cfg env desired k₀ c
    rw [Program.forEach, Program.mem_states_andThen_ok (serve env) (by rw [hrun]),
      mem_states_gcKind, hrun] at ht
    rcases ht with ht | ht
    · rcases find_of_mem_sweep cfg env k₀ (desired.names k₀) ht k name with
        hkeep | ⟨rfl, hswept, hnone⟩
      · exact Or.inl hkeep
      · exact Or.inr ⟨List.mem_cons_self, hswept, hnone⟩
    · rcases find_sweep cfg env k₀ (desired.names k₀) c k name with
        ⟨rfl, hswept, hnone⟩ | ⟨_, hkeep⟩
      · rcases ih hnodup ht with hsame | ⟨hin, _⟩
        · exact Or.inr ⟨List.mem_cons_self, hswept, hsame.trans hnone⟩
        · exact absurd hin hnotin
      · rcases ih hnodup ht with hsame | ⟨hin, hswept, hnone⟩
        · exact Or.inl (hsame.trans hkeep)
        · exact Or.inr ⟨List.mem_cons_of_mem _ hin, (sweptFrom_congr hkeep).mp hswept, hnone⟩

theorem sweepOrder_nodup (cfg : Config) : (sweepOrder cfg).Nodup := by
  unfold sweepOrder
  split <;> split <;> split <;> split <;> decide

theorem run_gcPhase (cfg : Config) (env : Environment) (desired : Desired) (c : Cluster) :
    ((gcPhase cfg desired).run (serve env) c).1 = .ok () ∧
      ∀ k name, (k ∈ sweepOrder cfg ∧ SweptFrom cfg env desired c k name ∧
          (((gcPhase cfg desired).run (serve env) c).2).find k name = none) ∨
        (¬(k ∈ sweepOrder cfg ∧ SweptFrom cfg env desired c k name) ∧
          (((gcPhase cfg desired).run (serve env) c).2).find k name = c.find k name) :=
  run_sweeps cfg env desired (sweepOrder_nodup cfg) c

theorem find_of_mem_gcPhase {cfg : Config} {env : Environment} {desired : Desired} {c t : Cluster}
    (ht : t ∈ (gcPhase cfg desired).states (serve env) c) (k : Kind) (name : String) :
    t.find k name = c.find k name ∨
      (k ∈ sweepOrder cfg ∧ SweptFrom cfg env desired c k name ∧ t.find k name = none) :=
  find_of_mem_sweeps (sweepOrder_nodup cfg) ht k name

/-! ## The whole reconcile -/

theorem reportStatus_acts (cfg : Config) (env : Environment) (k : Kind) :
    Program.Acts (serve env) (reportStatus cfg k) (.ok ()) id :=
  Program.Acts.call fun _ => rfl

theorem statusPhase_acts (cfg : Config) (env : Environment) :
    Program.Acts (serve env) (statusPhase cfg) (.ok ()) id := by
  have hacts : ∀ k ∈ statusOrder cfg, Program.Acts (serve env) (reportStatus cfg k) (.ok ()) id :=
    fun k _ => reportStatus_acts cfg env k
  have hid : ∀ (ks : List Kind) (c : Cluster), ks.foldl (fun c _ => id c) c = c := by
    intro ks c
    induction ks with
    | nil => rfl
    | cons k ks ih => exact ih
  constructor
  · intro c
    obtain ⟨hok, hstate⟩ := Program.run_forEach hacts c
    rw [hid] at hstate
    exact Prod.ext (hok.mpr fun _ _ => rfl) hstate
  · intro c t ht
    obtain ⟨ks, _, rfl⟩ := (Program.mem_states_forEach hacts c t).mp ht
    exact Or.inl (hid ks c)

/-- The reconcile succeeds exactly when every apply does, whatever becomes of the sweeps. -/
theorem reconcileOnce_ok (cfg : Config) (env : Environment) (desired : Desired) (c : Cluster) :
    ((reconcileOnce cfg desired).run (serve env) c).1 = .ok () ↔ AppliesOk cfg env desired := by
  rw [← (run_applyPhase cfg env desired c).1]
  cases hout : ((applyPhase cfg desired).run (serve env) c).1 with
  | ok =>
    have hgc := (run_gcPhase cfg env desired ((applyPhase cfg desired).run (serve env) c).2).1
    rw [reconcileOnce, Program.run_andThen_ok _ hout, Program.run_andThen_ok _ hgc,
      (statusPhase_acts cfg env).run]
  | error e => rw [reconcileOnce, Program.run_andThen_error _ hout]

theorem run_reconcileOnce_failed {cfg : Config} {env : Environment} {desired : Desired}
    (h : ¬AppliesOk cfg env desired) (c : Cluster) :
    ((reconcileOnce cfg desired).run (serve env) c).2 =
      applied cfg env (attemptedEntries cfg env desired) c := by
  rw [← (run_applyPhase cfg env desired c).1] at h
  cases hout : ((applyPhase cfg desired).run (serve env) c).1 with
  | ok => exact absurd hout h
  | error e =>
    rw [reconcileOnce, Program.run_andThen_error _ hout]
    exact (run_applyPhase cfg env desired c).2

/-- A reconcile that succeeds leaves all the applies, less what the sweeps remove. -/
theorem find_reconcileOnce {cfg : Config} {env : Environment} {desired : Desired}
    (h : AppliesOk cfg env desired) (c : Cluster) (k : Kind) (name : String) :
    let c₁ := applied cfg env desired.entries c
    let c₂ := ((reconcileOnce cfg desired).run (serve env) c).2
    (k ∈ sweepOrder cfg ∧ SweptFrom cfg env desired c₁ k name ∧ c₂.find k name = none) ∨
      (¬(k ∈ sweepOrder cfg ∧ SweptFrom cfg env desired c₁ k name) ∧
        c₂.find k name = c₁.find k name) := by
  have happly := (run_applyPhase cfg env desired c).2
  rw [attemptedEntries_of_ok h] at happly
  obtain ⟨hgc, hfind⟩ := run_gcPhase cfg env desired (applied cfg env desired.entries c)
  simp only
  rw [reconcileOnce, Program.run_andThen_ok _ ((run_applyPhase cfg env desired c).1.mpr h), happly,
    Program.run_andThen_ok _ hgc, (statusPhase_acts cfg env).run]
  exact hfind k name

/-- The states of a reconcile: those of the apply phase, then those of the sweeps. -/
theorem mem_states_reconcileOnce (cfg : Config) (env : Environment) (desired : Desired)
    (c t : Cluster) : t ∈ (reconcileOnce cfg desired).states (serve env) c ↔
      (∃ entries, entries <+: attemptedEntries cfg env desired ∧ t = applied cfg env entries c) ∨
      (AppliesOk cfg env desired ∧
        t ∈ (gcPhase cfg desired).states (serve env) (applied cfg env desired.entries c)) := by
  rw [← mem_states_applyPhase]
  by_cases h : AppliesOk cfg env desired
  · have happly := (run_applyPhase cfg env desired c).2
    rw [attemptedEntries_of_ok h] at happly
    have hgc := (run_gcPhase cfg env desired (applied cfg env desired.entries c)).1
    rw [reconcileOnce, Program.mem_states_andThen_ok _ ((run_applyPhase cfg env desired c).1.mpr h),
      happly, Program.mem_states_andThen_ok _ hgc, (statusPhase_acts cfg env).mem_states]
    have hfinal := Program.final_mem_states (serve env) (gcPhase cfg desired)
      (applied cfg env desired.entries c)
    simp only [h, id, or_self, true_and]
    constructor
    · rintro (hin | hin | rfl)
      · exact Or.inl hin
      · exact Or.inr hin
      · exact Or.inr hfinal
    · rintro (hin | hin)
      · exact Or.inl hin
      · exact Or.inr (Or.inl hin)
  · cases hout : ((applyPhase cfg desired).run (serve env) c).1 with
    | ok => exact absurd ((run_applyPhase cfg env desired c).1.mp hout) h
    | error e =>
      rw [reconcileOnce, Program.mem_states_andThen_error _ hout]
      simp [h]

/-! ## Read-only mode, and two environments -/

theorem readOnly_states {cfg : Config} {env : Environment} {desired : Desired}
    (hro : cfg.readOnly = true) (hnamed : desired.Named) {c t : Cluster}
    (ht : t ∈ (reconcileOnce cfg desired).states (serve env) c) : t = c := by
  have happlied : ∀ entries, entries <+: desired.entries → applied cfg env entries c = c := by
    intro entries hp
    apply Cluster.ext_find
    intro k name
    exact find_applied_of_not (hnamed.entries.mono hp) c fun _ _ _ happ => by simp [happ.1] at hro
  rcases (mem_states_reconcileOnce cfg env desired c t).mp ht with ⟨entries, hp, rfl⟩ | ⟨_, hgc⟩
  · exact happlied entries (hp.trans (attemptedEntries_isPrefix cfg env desired))
  · rw [happlied desired.entries List.prefix_rfl] at hgc
    apply Cluster.ext_find
    intro k name
    rcases find_of_mem_gcPhase hgc k name with hkeep | ⟨_, hswept, _⟩
    · exact hkeep
    · simp [hswept.2.2.1] at hro

def answering : Environment := fun _ => .answered

/-- Every call is answered but the list of routes, which the API server refuses. -/
def routesUnlisted : Environment
  | .list .httpRoute _ => .failed (.api 500)
  | _ => .answered

theorem appliesOk_of_answered (cfg : Config) {env : Environment} {desired : Desired}
    (hnamed : desired.Named)
    (henv : ∀ k name obj hname, env (.patch k name obj hname) = .answered) :
    AppliesOk cfg env desired := by
  intro entry hentry
  obtain ⟨name, hname, _⟩ := hnamed.entries entry hentry
  exact (applyResult_ok hname).mpr fun _ => henv _ _ _ _

theorem answering_appliesOk (cfg : Config) {desired : Desired} (hnamed : desired.Named) :
    AppliesOk cfg answering desired :=
  appliesOk_of_answered cfg hnamed fun _ _ _ _ => rfl

/-- Outside read-only mode a successful reconcile has written every desired object. -/
theorem applies_of_appliesOk {cfg : Config} {env : Environment} {desired : Desired}
    (hnamed : desired.Named) (hro : cfg.readOnly = false) (hok : AppliesOk cfg env desired)
    {entry : Entry} (hentry : entry ∈ desired.entries) : Applies cfg env entry := by
  obtain ⟨name, hname, _⟩ := hnamed.entries entry hentry
  exact applies_of_ok hname hro (hok entry hentry)

end PangolinGateway
