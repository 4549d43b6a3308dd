import PangolinGateway.Reconcile.Goal
import PangolinGateway.Reconcile.SideBySide

/-! # Several controllers toward one goal

However the calls of several reconciles are interleaved and whichever of them fail, a place moves at
most once, to what the goal has there. A reconcile whose own calls are all answered has brought its
places to the goal when it returns, whatever became of the others' calls. -/
namespace PangolinGateway
set_option autoImplicit false
open Calls

/-! ## A reconcile that is answered -/

section Answered
variable {cfg : Config} {desired : Desired} {c₀ g : Cluster}

/-- On the way from `c₀` to the goal, and there already at `places`. -/
def Reached (c₀ g : Cluster) (places : Place → Prop) (c : Cluster) : Prop :=
  TowardGoal g c₀ c ∧ ∀ p, places p → c.view p = g.view p

theorem reached_stable (c₀ : Cluster) (places : Place → Prop) :
    Program.Stable (TowardGoal g) (Reached c₀ g places) :=
  fun _ _ hstep h => ⟨h.1.trans hstep, fun p hp => hstep.kept (h.2 p hp)⟩

/-- With its own calls answered, among others that move toward `g`, the program succeeds. -/
abbrev Answered (g : Cluster) (p : KubeProgram) (post : Cluster → Prop) (c : Cluster) : Prop :=
  p.Keeps (fun _ : Environment => serve answering) (TowardGoal g) (TowardGoal g)
    (fun out c' => out = .ok () ∧ post c') c

theorem ssaApply_answered (haims : Aims cfg desired c₀ g) (hro : cfg.readOnly = false)
    {entry : Entry} {name : String} (hname : (entry.1.metadata entry.2).name = some name)
    (hfind : desired.find entry.1 name = some entry.2) {c : Cluster} (hc : TowardGoal g c₀ c) :
    Answered g (ssaApply cfg entry)
      (fun c' => TowardGoal g c₀ c' ∧ c'.view (entry.1, name) = g.view (entry.1, name)) c := by
  rw [Answered, ssaApply_of_name cfg hname, hro]
  have hgoal := haims.written hro _ _ _ hfind
  refine .call (stable_toward c₀) hc fun c' _ hc' => ?_
  have hmove := serve_toward (.patch entry.1 name entry.2 hname) hgoal answering c'
  refine ⟨hmove, .done (reached_stable c₀ (· = (entry.1, name))) ⟨hc'.trans hmove, ?_⟩
    fun c'' h => ⟨rfl, h.1, h.2 _ rfl⟩⟩
  rintro p rfl
  exact (Cluster.find_put_self c' entry.1 name entry.2 hname).trans hgoal.symm

theorem applyPhase_answered (hnamed : desired.Named) (haims : Aims cfg desired c₀ g)
    (hro : cfg.readOnly = false) {c : Cluster} (hc : TowardGoal g c₀ c) :
    Answered g (applyPhase cfg desired)
      (Reached c₀ g fun p => ∃ obj, desired.find p.1 p.2 = some obj) c := by
  rw [Answered, applyPhase_eq]
  refine (Program.Keeps.forEach_each (stable_toward c₀) (fun entry _ => stable_at fun p : Place =>
      p.1 = entry.1 ∧ (entry.1.metadata entry.2).name = some p.2)
    (fun entry _ => stable_at _) (fun entry hentry c' hc' => ?_) hc).mono ?_
  · obtain ⟨name, hname, hfind⟩ := hnamed.entries entry hentry
    refine (ssaApply_answered haims hro hname hfind hc').mono ?_
    rintro out c'' ⟨rfl, htoward, hat⟩
    refine ⟨rfl, htoward, ?_⟩
    rintro ⟨k, name'⟩ ⟨rfl, hname'⟩
    obtain rfl : name = name' := Option.some.inj (hname.symm.trans hname')
    exact hat
  · rintro out c' ⟨rfl, htoward, hat⟩
    refine ⟨rfl, htoward, fun p ⟨obj, hobj⟩ => ?_⟩
    exact hat ⟨p.1, obj⟩ (Desired.mem_entries.mpr ⟨p.2, hobj⟩) p ⟨rfl, hnamed _ _ _ hobj⟩

/-- The places of the kind that hold the controller's own objects at the start. -/
def OwnedOf (cfg : Config) (c₀ : Cluster) (k : Kind) (p : Place) : Prop :=
  p.1 = k ∧ ∃ obj, c₀.find p.1 p.2 = some obj ∧ (p.1.metadata obj).owned cfg = true

theorem sweepItem_answered {k : Kind} {item : k.Obj} (hro : cfg.readOnly = false)
    (haims : ∀ name, (k.metadata item).name = some name → desired.find k name = none →
      g.find k name = none)
    {places : Place → Prop} {c : Cluster} (hc : Reached c₀ g places c) :
    Answered g (sweepItem cfg k (desired.names k) item) (fun c' => Reached c₀ g places c' ∧
      ∀ p : Place, (p.1 = k ∧ (k.metadata item).name = some p.2 ∧ desired.find p.1 p.2 = none) →
        c'.view p = g.view p) c := by
  unfold sweepItem
  cases hname : (k.metadata item).name with
  | none => exact .done (reached_stable c₀ places) hc fun _ h => ⟨rfl, h, by simp⟩
  | some name =>
    by_cases hwanted : name ∈ desired.names k
    · simp only [hwanted, if_true]
      refine .done (reached_stable c₀ places) hc fun _ h => ⟨rfl, h, ?_⟩
      rintro ⟨k', name'⟩ ⟨rfl, heq, hnone⟩
      obtain rfl : name = name' := Option.some.inj heq
      obtain ⟨obj, hobj⟩ := Desired.mem_names.mp hwanted
      simp [hobj] at hnone
    · simp only [hwanted, if_false, hro]
      refine .call (reached_stable c₀ places) hc fun c' _ hc' => ?_
      have hnone : desired.find k name = none := Option.eq_none_iff_forall_ne_some.mpr
        fun obj hobj => hwanted (Desired.mem_names.mpr ⟨obj, hobj⟩)
      have hgoal := haims name hname hnone
      have hmove := serve_toward (.delete k name) hgoal answering c'
      have hgone : (serve answering (.delete k name) c').2.view (k, name) = g.view (k, name) := by
        refine Eq.trans ?_ hgoal.symm
        simp [serve, answering, Outcome.takesEffect, Cluster.view, Cluster.find_remove]
      refine ⟨hmove, .done (reached_stable c₀ fun p => places p ∨ p = (k, name))
        ⟨hc'.1.trans hmove, ?_⟩ fun c'' h => ⟨rfl, ⟨h.1, fun p hp => h.2 p (Or.inl hp)⟩, ?_⟩⟩
      · rintro p (hp | rfl)
        · exact hmove.kept (hc'.2 p hp)
        · exact hgone
      · rintro ⟨k', name'⟩ ⟨rfl, heq, _⟩
        obtain rfl : name = name' := Option.some.inj heq
        exact h.2 _ (Or.inr rfl)

theorem gcKind_answered (haims : Aims cfg desired c₀ g) (hro : cfg.readOnly = false) {k : Kind}
    (hk : k ∈ sweepOrder cfg) {c : Cluster}
    (hc : Reached c₀ g (fun p => ∃ obj, desired.find p.1 p.2 = some obj) c) :
    Answered g (gcKind cfg desired k) (fun c' =>
      Reached c₀ g (fun p => ∃ obj, desired.find p.1 p.2 = some obj) c' ∧
        ∀ p, OwnedOf cfg c₀ k p → c'.view p = g.view p) c := by
  suffices hsweep : (sweep cfg k (desired.names k)).Keeps (fun _ : Environment => serve answering)
      (TowardGoal g) (TowardGoal g) (fun _ => Reached c₀ g fun p =>
        (∃ obj, desired.find p.1 p.2 = some obj) ∨ OwnedOf cfg c₀ k p) c from
    hsweep.bind fun _ c' hc' => .done (reached_stable c₀ _) hc' fun c'' h =>
      ⟨rfl, ⟨h.1, fun p hp => h.2 p (Or.inl hp)⟩, fun p hp => h.2 p (Or.inr hp)⟩
  refine .call (reached_stable c₀ _) hc fun c' _ hc' => ⟨.refl c', ?_⟩
  have hitems : ∀ item ∈ c'.select k cfg.managedSelector, ∀ name,
      (k.metadata item).name = some name → desired.find k name = none → g.find k name = none :=
    fun item hitem name hname hnone => haims.listed hro hk hc'.1 hitem hname hnone
  have hloop := Program.Keeps.forEach_each (reached_stable c₀ _)
    (fun item _ => stable_at fun p : Place =>
      p.1 = k ∧ (k.metadata item).name = some p.2 ∧ desired.find p.1 p.2 = none)
    (fun item _ => stable_at _)
    (fun item hitem d hd => sweepItem_answered hro (hitems item hitem) hd) hc'
  -- what is at the goal when the objects are listed stays there
  refine (hloop.retain (stable_at fun p => c'.view p = g.view p)
    (stable_at fun p => c'.view p = g.view p) fun p hp => hp).mono ?_
  rintro out d ⟨⟨rfl, hd, hswept⟩, hkept⟩
  refine ⟨hd.1, ?_⟩
  rintro ⟨k', name⟩ (hp | ⟨rfl, obj, hobj, howned⟩)
  · exact hd.2 _ hp
  · cases hdesired : desired.find k' name with
    | some own => exact hd.2 _ ⟨own, hdesired⟩
    | none =>
      rcases hc'.1 (k', name) with hsame | hgoal
      · have hfind : c'.find k' name = some obj := Eq.trans hsame hobj
        exact hswept obj (Cluster.mem_select.mpr ⟨⟨name, hfind⟩, howned⟩) (k', name)
          ⟨rfl, Cluster.find_named hfind, hdesired⟩
      · exact hkept _ hgoal

/-- A reconcile whose calls are answered succeeds and leaves its places at the goal. -/
theorem reconcileOnce_answered (hnamed : desired.Named) (haims : Aims cfg desired c₀ g)
    (hro : cfg.readOnly = false) {c : Cluster} (hc : TowardGoal g c₀ c) :
    Answered g (reconcileOnce cfg desired) (Reached c₀ g (Brings cfg desired c₀)) c := by
  refine (applyPhase_answered hnamed haims hro hc).andThen_ok fun c' hc' => ?_
  have hsweeps : Answered g (gcPhase cfg desired) (Reached c₀ g (Brings cfg desired c₀)) c' := by
    refine (Program.Keeps.forEach_each (reached_stable c₀ _)
      (fun k _ => stable_at (OwnedOf cfg c₀ k)) (fun k _ => stable_at _)
      (fun k hk d hd => gcKind_answered haims hro hk hd) hc').mono ?_
    rintro out d ⟨rfl, hd, hswept⟩
    refine ⟨rfl, hd.1, ?_⟩
    rintro p (hp | ⟨hk, howned⟩)
    · exact hd.2 p hp
    · exact hswept p.1 hk p ⟨rfl, howned⟩
  refine hsweeps.andThen_ok fun c'' hc'' => ?_
  refine (Program.Keeps.forEach_each (Q := fun _ _ => True) (reached_stable c₀ _)
    (fun _ _ _ _ _ h => h) (fun _ _ _ _ _ h => h) (fun k _ d hd => ?_) hc'').mono ?_
  · exact .call (reached_stable c₀ _) hd fun d' _ hd' =>
      ⟨.refl d', .done (reached_stable c₀ _) hd' fun _ h => ⟨rfl, h, trivial⟩⟩
  · rintro out d ⟨rfl, hd, _⟩
    exact ⟨rfl, hd⟩

end Answered

/-! ## Replicas of one controller -/

section
variable {ι : Type} [DecidableEq ι]

/-- Every call of controller `i` is answered; of the calls of the others any may fail. -/
def answersOnly (i j : ι) : Environment → Server Call Call.Reply Cluster :=
  if j = i then fun _ => serve answering else serve

/-- Reconciles of the same desired set at the same time. -/
abbrev replicas (ι : Type) (cfg : Config) (desired : Desired) (c : Cluster) :
    System ι Call Call.Reply (Except ReconcileError Unit) Cluster :=
  reconciles (fun _ => cfg) (fun _ => desired) c

variable {cfg : Config} {desired : Desired} {c : Cluster}

theorem replicas_keep (hnamed : desired.Named)
    {sys : System ι Call Call.Reply (Except ReconcileError Unit) Cluster}
    (hreach : (replicas ι cfg desired c).Reaches serve sys) :
    TowardGoal (settled cfg desired c) c sys.state ∧
      ∀ i, KeepsToward (settled cfg desired c) (sys.programs i)
        (TowardGoal (settled cfg desired c) c) sys.state :=
  hreach.toward fun _ => reconcileOnce_toward hnamed (settled_aims cfg hnamed c) (.refl c)

theorem replica_keeps (hnamed : desired.Named) (hro : cfg.readOnly = false) {i : ι}
    {sys : System ι Call Call.Reply (Except ReconcileError Unit) Cluster}
    (hreach : (replicas ι cfg desired c).Mixes (answersOnly i) sys) :
    TowardGoal (settled cfg desired c) c sys.state ∧ ∀ j, (sys.programs j).Keeps (answersOnly i j)
      (TowardGoal (settled cfg desired c)) (TowardGoal (settled cfg desired c))
      (fun out c' => j = i → out = .ok () ∧
        Reached c (settled cfg desired c) (Brings cfg desired c) c') sys.state := by
  have haims := settled_aims cfg hnamed c
  refine System.Mixes.toward (fun j => ?_) hreach
  by_cases hj : j = i
  · simp only [answersOnly, if_pos hj]
    exact (reconcileOnce_answered hnamed haims hro (.refl c)).mono fun _ _ h _ => h
  · simp only [answersOnly, if_neg hj]
    exact (reconcileOnce_toward hnamed haims (.refl c)).mono fun _ _ _ hji => absurd hji hj

/-- Once a replica whose calls were answered has returned, the cluster is at the goal. -/
theorem replica_returned (hnamed : desired.Named) (hro : cfg.readOnly = false) {i : ι}
    {sys : System ι Call Call.Reply (Except ReconcileError Unit) Cluster}
    (hreach : (replicas ι cfg desired c).Mixes (answersOnly i) sys)
    {out : Except ReconcileError Unit} (hdone : sys.programs i = .done out) :
    out = .ok () ∧ sys.state = settled cfg desired c := by
  obtain ⟨htoward, hkeeps⟩ := replica_keeps hnamed hro hreach
  obtain ⟨hok, _, hbrought⟩ := (hkeeps i).returned hdone rfl
  refine ⟨hok, Cluster.ext_view fun p => ?_⟩
  by_cases hp : Brings cfg desired c p
  · exact hbrought p hp
  · exact (htoward p).elim (fun hsame => hsame.trans (settled_of_not_brings hnamed hp).symm) id

theorem settled_settled (hnamed : desired.Named) (c : Cluster) :
    settled cfg desired (settled cfg desired c) = settled cfg desired c := by
  cases hro : cfg.readOnly with
  | true => rw [settled_readOnly hnamed hro, settled_readOnly hnamed hro]
  | false =>
    apply Cluster.ext_find
    intro k name
    rw [find_settled hnamed hro, find_settled hnamed hro]
    cases desired.find k name with
    | some obj => rfl
    | none => simp [Option.filter_filter]

end

/-- A reconcile has nothing to do: the desired objects are there, and no other object is the
controller's to sweep. -/
def AtRest (cfg : Config) (desired : Desired) (c : Cluster) : Prop :=
  ∀ k name, (∀ obj, desired.find k name = some obj → c.find k name = some obj) ∧
    (desired.find k name = none → ∀ obj, c.find k name = some obj → notSwept cfg k obj = true)

theorem atRest_iff {cfg : Config} {desired : Desired} (hnamed : desired.Named)
    (hro : cfg.readOnly = false) {c : Cluster} :
    AtRest cfg desired c ↔ settled cfg desired c = c := by
  rw [Cluster.ext_find_iff]
  refine forall_congr' fun k => forall_congr' fun name => ?_
  rw [find_settled hnamed hro]
  cases desired.find k name with
  | some obj =>
    rw [Option.some_or]
    exact ⟨fun h => (h.1 obj rfl).symm,
      fun h => ⟨fun _ hobj => by rw [← h, hobj], fun hno => nomatch hno⟩⟩
  | none =>
    rw [Option.none_or, filter_eq_self]
    exact ⟨fun h => h.2 rfl, fun h => ⟨fun _ hobj => (nomatch hobj), fun _ => h⟩⟩

/-- However the calls of replicas are interleaved and whichever of them fail, a place is as it was
at the start or as one undisturbed reconcile would leave it, and once it is the latter it stays so. -/
theorem replicas_move_once [DefaultHasher] [UrlCrate] (ι : Type) [DecidableEq ι] (cfg : Config)
    (dynConfig : TraefikDynamicConfig) (c : Cluster)
    (sys sys' : System ι Call Call.Reply (Except ReconcileError Unit) Cluster)
    (hreach : (replicas ι cfg (buildDesired cfg dynConfig) c).Reaches serve sys)
    (hlater : sys.Reaches serve sys') (k : Kind) (name : String) :
    (sys.state.find k name = c.find k name ∨
        sys.state.find k name = (settled cfg (buildDesired cfg dynConfig) c).find k name) ∧
      (sys.state.find k name = (settled cfg (buildDesired cfg dynConfig) c).find k name →
        sys'.state.find k name = (settled cfg (buildDesired cfg dynConfig) c).find k name) := by
  obtain ⟨htoward, hkeeps⟩ := replicas_keep (buildDesired_named cfg dynConfig) hreach
  have hrest := (hlater.toward hkeeps).1
  exact ⟨htoward (k, name), fun hgoal => hrest.kept (p := (k, name)) hgoal⟩

/-- What a controller with the sample configuration wants for the sample routers. -/
def sampleDesired : Desired :=
  @buildDesired sampleHasher sampleUrlCrate sampleConfig (sampleDynConfig sampleRouters)

/-- Two replicas from an empty cluster, the second gone through its calls. -/
theorem replicas_move_once_sample :
    ∃ sys, (replicas Bool sampleConfig sampleDesired .empty).Reaches serve sys ∧
      (∃ out, sys.programs true = .done out) ∧
      (sys.state.find .httpRoute "hr-app" = Cluster.empty.find .httpRoute "hr-app" ∨
        sys.state.find .httpRoute "hr-app" =
          (settled sampleConfig sampleDesired .empty).find .httpRoute "hr-app") := by
  obtain ⟨sys, hsolo, hdone, _⟩ := System.solo_returns (fun _ : Bool => serve) answering true
    (replicas Bool sampleConfig sampleDesired .empty)
  have hreach : (replicas Bool sampleConfig sampleDesired .empty).Reaches serve sys :=
    (System.Reaches.along (P := fun _ => True) (fun _ _ _ _ h => h) .refl hsolo).1
  exact ⟨sys, hreach, ⟨_, hdone⟩, (@replicas_move_once sampleHasher sampleUrlCrate Bool _
    sampleConfig (sampleDynConfig sampleRouters) .empty sys sys hreach .refl .httpRoute "hr-app").1⟩

/-- A replica whose calls are answered returns, and then the cluster is and stays what one
undisturbed reconcile makes of it, whatever becomes of the calls of the others. -/
theorem replica_settles [DefaultHasher] [UrlCrate] (ι : Type) [DecidableEq ι] (cfg : Config)
    (dynConfig : TraefikDynamicConfig) (c : Cluster) (i : ι) (hro : cfg.readOnly = false)
    (sys : System ι Call Call.Reply (Except ReconcileError Unit) Cluster)
    (hreach : (replicas ι cfg (buildDesired cfg dynConfig) c).Mixes (answersOnly i) sys) :
    (∀ out, sys.programs i = .done out → out = .ok () ∧
        ∀ sys', sys.Mixes (answersOnly i) sys' →
          sys'.state = settled cfg (buildDesired cfg dynConfig) c) ∧
      ∃ sys', Relation.ReflTransGen (System.Step (answersOnly i i) i) sys sys' ∧
        sys'.programs i = .done (.ok ()) := by
  have hnamed := buildDesired_named cfg dynConfig
  constructor
  · intro out hdone
    refine ⟨(replica_returned hnamed hro hreach hdone).1, fun sys' hlater => ?_⟩
    have hrest : TowardGoal _ _ _ :=
      (System.Mixes.toward (replica_keeps hnamed hro hreach).2 hlater).1
    rw [(replica_returned hnamed hro hreach hdone).2] at hrest
    exact hrest.reached
  · obtain ⟨sys', hsolo, hdone, _⟩ := System.solo_returns (answersOnly i) answering i sys
    have hout := (replica_returned hnamed hro (hreach.along hsolo) hdone).1
    exact ⟨sys', hsolo, by rw [hdone, hout]⟩

theorem replica_settles_sample :
    ∃ sys, (replicas Bool sampleConfig sampleDesired .empty).Mixes (answersOnly true) sys ∧
      sys.programs true = .done (.ok ()) ∧
      sys.state = settled sampleConfig sampleDesired .empty := by
  obtain ⟨sys, hsolo, hdone, _⟩ := System.solo_returns (answersOnly true) answering true
    (replicas Bool sampleConfig sampleDesired .empty)
  have hreach := System.Mixes.along .refl hsolo
  obtain ⟨hok, hstate⟩ := (@replica_settles sampleHasher sampleUrlCrate Bool _ sampleConfig
    (sampleDynConfig sampleRouters) .empty true rfl sys hreach).1 _ hdone
  exact ⟨sys, hreach, by rw [hdone, hok], hstate sys .refl⟩

/-- Reconciles of a body leave a cluster alone, in whatever order their calls are made and whichever
of them fail, exactly when it is at rest for that body; an undisturbed reconcile leaves it so. -/
theorem left_alone_iff [DefaultHasher] [UrlCrate] (ι : Type) [DecidableEq ι] [Nonempty ι]
    (cfg : Config) (dynConfig : TraefikDynamicConfig) (hro : cfg.readOnly = false) (c : Cluster) :
    ((∀ sys, (replicas ι cfg (buildDesired cfg dynConfig) c).Reaches serve sys → sys.state = c) ↔
        AtRest cfg (buildDesired cfg dynConfig) c) ∧
      AtRest cfg (buildDesired cfg dynConfig) (settled cfg (buildDesired cfg dynConfig) c) := by
  have hnamed := buildDesired_named cfg dynConfig
  rw [atRest_iff hnamed hro, atRest_iff hnamed hro]
  refine ⟨⟨fun h => ?_, fun h sys hreach => ?_⟩, settled_settled hnamed c⟩
  · -- one replica alone, with every call answered
    obtain ⟨i⟩ := ‹Nonempty ι›
    obtain ⟨sys, hsolo, _, hstate⟩ := System.solo_returns (fun _ : ι => serve) answering i
      (replicas ι cfg (buildDesired cfg dynConfig) c)
    exact hstate.symm.trans (h sys (System.Mixes.along .refl hsolo))
  · have htoward := (replicas_keep hnamed hreach).1
    rw [h] at htoward
    exact htoward.reached

theorem left_alone_sample :
    AtRest sampleConfig sampleDesired (settled sampleConfig sampleDesired .empty) :=
  (@left_alone_iff sampleHasher sampleUrlCrate Bool _ _ sampleConfig (sampleDynConfig sampleRouters)
    rfl .empty).2

end PangolinGateway
