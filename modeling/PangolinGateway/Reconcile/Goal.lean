import PangolinGateway.Calls.Toward
import PangolinGateway.Reconcile.Converges

/-! # The goal of a reconcile

What one answered reconcile makes of a cluster is what every call of a reconcile moves it toward:
an apply puts a place where the goal has it, and so does a delete, whoever else runs meanwhile. -/
namespace PangolinGateway
set_option autoImplicit false
open Calls

/-- The cluster after a reconcile of which every call is answered. -/
def settled (cfg : Config) (desired : Desired) (c : Cluster) : Cluster :=
  ((reconcileOnce cfg desired).run (serve answering) c).2

/-- Of an object that nobody desires: it is not the controller's to sweep. -/
def notSwept (cfg : Config) (k : Kind) (obj : k.Obj) : Bool :=
  !(decide (k ∈ sweepOrder cfg) && (k.metadata obj).owned cfg)

theorem filter_eq_self {α : Type} {o : Option α} {p : α → Bool} :
    o.filter p = o ↔ ∀ a, o = some a → p a = true := by
  cases o with
  | none => simp
  | some a =>
    rw [Option.filter_some]
    split <;> simp_all

theorem sweptFrom_answering {cfg : Config} {desired : Desired} (hro : cfg.readOnly = false)
    {c : Cluster} {k : Kind} {name : String} {obj : k.Obj} (hobj : c.find k name = some obj) :
    (k ∈ sweepOrder cfg ∧ SweptFrom cfg answering desired c k name) ↔
      desired.find k name = none ∧ notSwept cfg k obj = false := by
  have hsweeps : SweptFrom cfg answering desired c k name ↔
      (k.metadata obj).owned cfg = true ∧ desired.find k name = none := by
    simp only [SweptFrom, Sweeps, Deletes, Desired.mem_names, hobj, Option.some.injEq, exists_eq_left',
      hro, true_and, Option.eq_none_iff_forall_ne_some, not_exists, ne_eq]
    exact ⟨fun h => ⟨h.2.1, h.2.2.1⟩, fun h => ⟨rfl, h.1, h.2, rfl⟩⟩
  rw [hsweeps, notSwept, Bool.not_eq_false', Bool.and_eq_true, decide_eq_true_iff]
  tauto

theorem find_settled {cfg : Config} {desired : Desired} (hnamed : desired.Named)
    (hro : cfg.readOnly = false) (c : Cluster) (k : Kind) (name : String) :
    (settled cfg desired c).find k name =
      (desired.find k name).or ((c.find k name).filter (notSwept cfg k)) := by
  have hfinal := find_reconcileOnce (answering_appliesOk cfg hnamed) c k name
  have happlied := find_applied_answering hnamed hro c k name
  generalize applied cfg answering desired.entries c = c₁ at hfinal happlied
  change (_ ∧ _ ∧ (settled cfg desired c).find k name = none) ∨
    (_ ∧ (settled cfg desired c).find k name = _) at hfinal
  cases hfind : c₁.find k name with
  | none =>
    obtain ⟨hdesired, hnone⟩ := Option.or_eq_none_iff.mp (happlied.symm.trans hfind)
    rw [hdesired, hnone]
    rcases hfinal with ⟨_, _, hgone⟩ | ⟨_, hkept⟩
    · exact hgone
    · exact hkept.trans hfind
  | some obj =>
    rw [hfind] at happlied hfinal
    rw [← and_assoc, sweptFrom_answering hro hfind] at hfinal
    cases hobj : desired.find k name with
    | some own =>
      rw [hobj, Option.some_or] at happlied
      rcases hfinal with ⟨⟨hdesired, _⟩, _⟩ | ⟨_, hkept⟩
      · simp [hobj] at hdesired
      · rw [hkept, happlied, Option.some_or]
    | none =>
      rw [hobj, Option.none_or] at happlied
      rw [← happlied, Option.none_or, Option.filter_some]
      rcases hfinal with ⟨⟨_, hswept⟩, hgone⟩ | ⟨hno, hkept⟩
      · rw [hgone, hswept]
        rfl
      · rw [hkept, if_pos]
        exact Bool.of_not_eq_false fun hswept => hno ⟨hobj, hswept⟩

theorem settled_readOnly {cfg : Config} {desired : Desired} (hnamed : desired.Named)
    (hro : cfg.readOnly = true) (c : Cluster) : settled cfg desired c = c :=
  readOnly_states hro hnamed (Program.final_mem_states _ _ _)

/-! ## Calls toward a goal -/

abbrev Place := Kind × String

def Cluster.view (c : Cluster) (p : Place) : Option p.1.Obj := c.find p.1 p.2

theorem Cluster.ext_view {c c' : Cluster} (h : ∀ p, c.view p = c'.view p) : c = c' :=
  Cluster.ext_find fun k name => h (k, name)

/-- From one cluster to another, places change to what they are in `g` only. -/
abbrev TowardGoal (g : Cluster) : Cluster → Cluster → Prop := Toward Cluster.view g.view

theorem TowardGoal.reached {g c : Cluster} (h : TowardGoal g g c) : c = g :=
  Cluster.ext_view (h.eq fun _ => rfl)

/-- The call writes or deletes as `g` has it. -/
def Call.Aims (g : Cluster) : Call → Prop
  | .patch k name obj _ => g.find k name = some obj
  | .list _ _ => True
  | .delete k name => g.find k name = none

theorem serve_toward {g : Cluster} (call : Call) (h : call.Aims g) (env : Environment)
    (c : Cluster) : TowardGoal g c (serve env call c).2 := by
  rintro ⟨k', name'⟩
  cases call with
  | list k selector => exact Or.inl rfl
  | patch k name obj hname =>
    simp only [serve]
    split
    · by_cases hsame : k' = k ∧ name' = name
      · obtain ⟨rfl, rfl⟩ := hsame
        exact Or.inr ((Cluster.find_put_self _ _ _ _ _).trans h.symm)
      · exact Or.inl (Cluster.find_put_of_ne _ _ _ _ _ hsame)
    · exact Or.inl rfl
  | delete k name =>
    simp only [serve]
    split
    · by_cases hsame : k' = k ∧ name' = name
      · obtain ⟨rfl, rfl⟩ := hsame
        refine Or.inr (Eq.trans ?_ h.symm)
        rw [Cluster.view, Cluster.find_remove, if_pos ⟨rfl, rfl⟩]
      · refine Or.inl ?_
        rw [Cluster.view, Cluster.find_remove, if_neg hsame]
        rfl
    · exact Or.inl rfl

/-- `g` is where the controller takes the cluster `c`: it has the desired objects, and none that the
controller sweeps. -/
structure Aims (cfg : Config) (desired : Desired) (c g : Cluster) : Prop where
  written : cfg.readOnly = false → ∀ k name obj, desired.find k name = some obj →
    g.find k name = some obj
  swept : cfg.readOnly = false → ∀ k ∈ sweepOrder cfg, ∀ name obj,
    (c.find k name = some obj ∨ g.find k name = some obj) → (k.metadata obj).owned cfg = true →
      desired.find k name = none → g.find k name = none

/-- A place that the controller writes or sweeps. -/
def Brings (cfg : Config) (desired : Desired) (c : Cluster) (p : Place) : Prop :=
  (∃ obj, desired.find p.1 p.2 = some obj) ∨ p.1 ∈ sweepOrder cfg ∧
    ∃ obj, c.find p.1 p.2 = some obj ∧ (p.1.metadata obj).owned cfg = true

theorem settled_aims (cfg : Config) {desired : Desired} (hnamed : desired.Named) (c : Cluster) :
    Aims cfg desired c (settled cfg desired c) := by
  constructor
  · intro hro k name obj hobj
    rw [find_settled hnamed hro, hobj, Option.some_or]
  · intro hro k hk name obj hfind howned hnone
    have hswept : notSwept cfg k obj = false := by simp [notSwept, hk, howned]
    rw [find_settled hnamed hro, hnone, Option.none_or] at hfind ⊢
    rcases hfind with hfind | hfind
    · rw [hfind, Option.filter_some, hswept]
      rfl
    · have hkept := (Option.filter_eq_some_iff.mp hfind).2
      simp [hswept] at hkept

/-- Elsewhere a settled cluster is as it was. -/
theorem settled_of_not_brings {cfg : Config} {desired : Desired} (hnamed : desired.Named)
    {c : Cluster} {p : Place} (h : ¬Brings cfg desired c p) :
    (settled cfg desired c).view p = c.view p := by
  cases hro : cfg.readOnly with
  | true => rw [settled_readOnly hnamed hro]
  | false =>
    obtain ⟨hwritten, hswept⟩ := not_or.mp h
    have hnone : desired.find p.1 p.2 = none :=
      Option.eq_none_iff_forall_ne_some.mpr fun obj hobj => hwritten ⟨obj, hobj⟩
    rw [Cluster.view, find_settled hnamed hro, hnone, Option.none_or, Cluster.view, filter_eq_self]
    refine fun obj hfind => Bool.of_not_eq_false fun hno => hswept ?_
    rw [notSwept, Bool.not_eq_false', Bool.and_eq_true, decide_eq_true_iff] at hno
    exact ⟨hno.1, obj, hfind, hno.2⟩

/-! ## The calls of a reconcile, however they are answered -/

section
variable {cfg : Config} {desired : Desired} {c₀ g : Cluster}

/-- Among others that move toward `g`, the program does too. -/
abbrev KeepsToward (g : Cluster) (p : KubeProgram) (post : Cluster → Prop) (c : Cluster) : Prop :=
  p.Keeps serve (TowardGoal g) (TowardGoal g) (fun _ => post) c

theorem ssaApply_toward (haims : Aims cfg desired c₀ g) {entry : Entry} {name : String}
    (hname : (entry.1.metadata entry.2).name = some name)
    (hfind : desired.find entry.1 name = some entry.2) {c : Cluster} (hc : TowardGoal g c₀ c) :
    KeepsToward g (ssaApply cfg entry) (TowardGoal g c₀) c := by
  rw [KeepsToward, ssaApply_of_name cfg hname]
  cases hro : cfg.readOnly with
  | true => exact .done (stable_toward c₀) hc fun _ h => h
  | false =>
    refine .call (stable_toward c₀) hc fun c' env hc' => ?_
    have hmove := serve_toward (.patch entry.1 name entry.2 hname)
      (haims.written hro _ _ _ hfind) env c'
    exact ⟨hmove, .done (stable_toward c₀) (hc'.trans hmove) fun _ h => h⟩

/-- What an object that the controller lists says about the goal. -/
theorem Aims.listed (haims : Aims cfg desired c₀ g) (hro : cfg.readOnly = false) {k : Kind}
    (hk : k ∈ sweepOrder cfg) {c : Cluster} (hc : TowardGoal g c₀ c) {item : k.Obj}
    (hitem : item ∈ c.select k cfg.managedSelector) {name : String}
    (hname : (k.metadata item).name = some name) (hnone : desired.find k name = none) :
    g.find k name = none := by
  obtain ⟨name', hname', hfind, howned⟩ := select_named cfg k hitem
  obtain rfl : name = name' := Option.some.inj (hname.symm.trans hname')
  refine haims.swept hro k hk name item ?_ howned hnone
  rcases hc (k, name) with hsame | hgoal
  · exact Or.inl (hsame.symm.trans hfind)
  · exact Or.inr (hgoal.symm.trans hfind)

theorem sweepItem_toward {k : Kind} {item : k.Obj}
    (haims : cfg.readOnly = false → ∀ name, (k.metadata item).name = some name →
      desired.find k name = none → g.find k name = none)
    {c : Cluster} (hc : TowardGoal g c₀ c) :
    KeepsToward g (sweepItem cfg k (desired.names k) item) (TowardGoal g c₀) c := by
  unfold sweepItem
  cases hname : (k.metadata item).name with
  | none => exact .done (stable_toward c₀) hc fun _ h => h
  | some name =>
    by_cases hwanted : name ∈ desired.names k
    · simp only [hwanted, if_true]
      exact .done (stable_toward c₀) hc fun _ h => h
    · simp only [hwanted, if_false]
      cases hro : cfg.readOnly with
      | true => exact .done (stable_toward c₀) hc fun _ h => h
      | false =>
        refine .call (stable_toward c₀) hc fun c' env hc' => ?_
        have hnone : desired.find k name = none := Option.eq_none_iff_forall_ne_some.mpr
          fun obj hobj => hwanted (Desired.mem_names.mpr ⟨obj, hobj⟩)
        have hmove := serve_toward (.delete k name) (haims hro name hname hnone) env c'
        exact ⟨hmove, .done (stable_toward c₀) (hc'.trans hmove) fun _ h => h⟩

theorem sweep_toward (haims : Aims cfg desired c₀ g) {k : Kind} (hk : k ∈ sweepOrder cfg)
    {c : Cluster} (hc : TowardGoal g c₀ c) :
    KeepsToward g (sweep cfg k (desired.names k)) (TowardGoal g c₀) c := by
  refine .call (stable_toward c₀) hc fun c' env hc' => ⟨.refl c', ?_⟩
  simp only [serve]
  cases env (.list k cfg.managedSelector) with
  | failed e => exact .done (stable_toward c₀) hc' fun _ h => h
  | lost e => exact .done (stable_toward c₀) hc' fun _ h => h
  | answered =>
    exact Program.Keeps.forEach (stable_toward c₀) (fun item hitem c'' hc'' =>
      sweepItem_toward (fun hro name hname hnone => haims.listed hro hk hc' hitem hname hnone) hc'')
      hc'

/-- Every call of a reconcile moves the cluster toward the goal. -/
theorem reconcileOnce_toward (hnamed : desired.Named) (haims : Aims cfg desired c₀ g) {c : Cluster}
    (hc : TowardGoal g c₀ c) : KeepsToward g (reconcileOnce cfg desired) (TowardGoal g c₀) c := by
  refine .andThen (stable_toward c₀) ?_ fun c' hc' => .andThen (stable_toward c₀) ?_ fun c'' hc'' => ?_
  · rw [applyPhase_eq]
    refine .forEach (stable_toward c₀) (fun entry hentry d hd => ?_) hc
    obtain ⟨name, hname, hfind⟩ := hnamed.entries entry hentry
    exact ssaApply_toward haims hname hfind hd
  · refine .forEach (stable_toward c₀) (fun k hk d hd => ?_) hc'
    exact (sweep_toward haims hk hd).bind fun _ d' hd' => .done (stable_toward c₀) hd' fun _ h => h
  · refine .forEach (stable_toward c₀) (fun k _ d hd => ?_) hc''
    exact .call (stable_toward c₀) hd fun d' _ hd' =>
      ⟨.refl d', .done (stable_toward c₀) hd' fun _ h => h⟩

end

end PangolinGateway
