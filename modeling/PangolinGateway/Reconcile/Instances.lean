import PangolinGateway.Reconcile.Replicas

/-! # Instances with places apart

The reconciles of several controllers, told apart by their instance labels, leave the cluster that
they would leave one after another, in whatever order. -/
namespace PangolinGateway
set_option autoImplicit false
open Calls

/-- The object stays when nobody writes its place. -/
def spares (cfg : Config) (k : Kind) (obj : k.Obj) : Bool := cfg.readOnly || notSwept cfg k obj

theorem spares_eq_false {cfg : Config} {k : Kind} {obj : k.Obj} :
    spares cfg k obj = false ↔
      cfg.readOnly = false ∧ k ∈ sweepOrder cfg ∧ (k.metadata obj).owned cfg = true := by
  simp [spares, notSwept]

section
variable {ι : Type} {cfg : ι → Config} {desired : ι → Desired}

/-- The controllers reconcile one after another, each undisturbed. -/
def inTurn (cfg : ι → Config) (desired : ι → Desired) (order : List ι) (c : Cluster) : Cluster :=
  order.foldl (fun c i => settled (cfg i) (desired i) c) c

theorem find_settled_unwritten (hnamed : ∀ i, (desired i).Named) {i : ι} {k : Kind} {name : String}
    (hno : ∀ own, ¬Writes cfg desired i k name own) (c : Cluster) :
    (settled (cfg i) (desired i) c).find k name = (c.find k name).filter (spares (cfg i) k) := by
  cases hro : (cfg i).readOnly with
  | true =>
    rw [settled_readOnly (hnamed i) hro, eq_comm, filter_eq_self]
    simp [spares, hro]
  | false =>
    have hnone : (desired i).find k name = none :=
      Option.eq_none_iff_forall_ne_some.mpr fun own hown => hno own ⟨hro, hown⟩
    rw [find_settled (hnamed i) hro, hnone, Option.none_or]
    congr 1
    funext obj
    simp [spares, hro]

/-- A place that nobody writes keeps its object if no controller sweeps it. -/
theorem find_inTurn_unwritten (hnamed : ∀ i, (desired i).Named) {k : Kind} {name : String}
    (hno : ∀ i own, ¬Writes cfg desired i k name own) (order : List ι) (c : Cluster) :
    (inTurn cfg desired order c).find k name =
      (c.find k name).filter fun obj => order.all fun i => spares (cfg i) k obj := by
  induction order generalizing c with
  | nil =>
    rw [eq_comm, inTurn, List.foldl_nil, filter_eq_self]
    exact fun _ _ => rfl
  | cons i order ih =>
    have hrest := ih (settled (cfg i) (desired i) c)
    rw [find_settled_unwritten hnamed (hno i), Option.filter_filter] at hrest
    exact hrest

/-- A place that `j` writes, and no object of which another controller owns, keeps its object until
the turn of `j`. -/
theorem find_inTurn_written (hnamed : ∀ i, (desired i).Named) {j : ι} {k : Kind} {name : String}
    {own : k.Obj} (hwrites : Writes cfg desired j k name own)
    (hothers : ∀ i, i ≠ j → ∀ other, ¬Writes cfg desired i k name other)
    (hown : ∀ i, i ≠ j → (k.metadata own).owned (cfg i) = false) (order : List ι) {c : Cluster}
    (hc : ∀ i, i ≠ j → ∀ obj, c.find k name = some obj → (k.metadata obj).owned (cfg i) = false) :
    (j ∈ order → (inTurn cfg desired order c).find k name = some own) ∧
      (c.find k name = some own → (inTurn cfg desired order c).find k name = some own) := by
  induction order generalizing c with
  | nil => exact ⟨fun h => absurd h List.not_mem_nil, id⟩
  | cons i order ih =>
    by_cases hi : i = j
    · subst hi
      have hsettled : (settled (cfg i) (desired i) c).find k name = some own := by
        rw [find_settled (hnamed i) hwrites.1, hwrites.2, Option.some_or]
      have hrest := (ih (c := settled (cfg i) (desired i) c) fun n hn obj hobj => by
        rw [hsettled] at hobj
        exact Option.some.inj hobj ▸ hown n hn).2 hsettled
      exact ⟨fun _ => hrest, fun _ => hrest⟩
    · have hsettled : (settled (cfg i) (desired i) c).find k name = c.find k name := by
        rw [find_settled_unwritten hnamed (hothers i hi), filter_eq_self]
        exact fun obj hobj => by simp [spares, notSwept, hc i hi obj hobj]
      obtain ⟨hlater, hkept⟩ := ih (c := settled (cfg i) (desired i) c) fun n hn obj hobj =>
        hc n hn obj (hsettled ▸ hobj)
      rw [hsettled] at hkept
      exact ⟨fun hj => hlater ((List.mem_cons.mp hj).resolve_left fun heq => hi heq.symm), hkept⟩

/-! ## The goal of all of them -/

/-- No two controllers write one place, and none writes where another's object is. -/
structure Apart (cfg : ι → Config) (desired : ι → Desired) (c : Cluster) : Prop where
  writes : ∀ i j, i ≠ j → ∀ k name own other, Writes cfg desired i k name own →
    ¬Writes cfg desired j k name other
  start : ∀ i j, i ≠ j → ∀ k name own obj, Writes cfg desired i k name own →
    c.find k name = some obj → (k.metadata obj).owned (cfg j) = false
  targets : ∀ i j, i ≠ j → ∀ k name own, Writes cfg desired i k name own →
    (k.metadata own).owned (cfg j) = false

variable {c : Cluster} {order : List ι}

theorem Apart.find_inTurn (hapart : Apart cfg desired c) (hnamed : ∀ i, (desired i).Named) {j : ι}
    (hj : j ∈ order) {k : Kind} {name : String} {own : k.Obj}
    (hwrites : Writes cfg desired j k name own) :
    (inTurn cfg desired order c).find k name = some own :=
  (find_inTurn_written hnamed hwrites
    (fun i hi other hother => hapart.writes j i hi.symm k name own other hwrites hother)
    (fun i hi => hapart.targets j i hi.symm k name own hwrites) order
    (fun i hi obj hobj => hapart.start j i hi.symm k name own obj hwrites hobj)).1 hj

theorem Apart.aims (hapart : Apart cfg desired c) (hnamed : ∀ i, (desired i).Named)
    (horder : ∀ i, i ∈ order) (i : ι) :
    Aims (cfg i) (desired i) c (inTurn cfg desired order c) := by
  constructor
  · exact fun hro k name obj hobj => hapart.find_inTurn hnamed (horder i) ⟨hro, hobj⟩
  · intro hro k hk name obj hfind howned hnone
    by_cases hwritten : ∃ j own, Writes cfg desired j k name own
    · obtain ⟨j, own, hwrites⟩ := hwritten
      have hij : j ≠ i := by
        rintro rfl
        simp [hwrites.2] at hnone
      have hforeign : (k.metadata obj).owned (cfg i) = false := by
        rcases hfind with hfind | hfind
        · exact hapart.start j i hij k name own obj hwrites hfind
        · rw [hapart.find_inTurn hnamed (horder j) hwrites] at hfind
          exact Option.some.inj hfind ▸ hapart.targets j i hij k name own hwrites
      simp [hforeign] at howned
    · have hno : ∀ i own, ¬Writes cfg desired i k name own := fun i own h => hwritten ⟨i, own, h⟩
      have hswept : spares (cfg i) k obj = false := spares_eq_false.mpr ⟨hro, hk, howned⟩
      have hall : (order.all fun i => spares (cfg i) k obj) = false :=
        List.all_eq_false.mpr ⟨i, horder i, by simp [hswept]⟩
      rw [find_inTurn_unwritten hnamed hno] at hfind ⊢
      rcases hfind with hfind | hfind
      · rw [hfind, Option.filter_some, hall]
        rfl
      · have hkept := (Option.filter_eq_some_iff.mp hfind).2
        simp [hall] at hkept

/-- The goal differs from the start only where some controller brings it about. -/
theorem inTurn_brings (hnamed : ∀ i, (desired i).Named) (c : Cluster) (order : List ι) (p : Place) :
    (inTurn cfg desired order c).view p = c.view p ∨
      ∃ i, (cfg i).readOnly = false ∧ Brings (cfg i) (desired i) c p := by
  by_cases hwritten : ∃ j own, Writes cfg desired j p.1 p.2 own
  · obtain ⟨j, own, hwrites⟩ := hwritten
    exact Or.inr ⟨j, hwrites.1, Or.inl ⟨own, hwrites.2⟩⟩
  · have hno : ∀ i own, ¬Writes cfg desired i p.1 p.2 own := fun i own h => hwritten ⟨i, own, h⟩
    by_cases hswept : ∃ i obj, c.find p.1 p.2 = some obj ∧ spares (cfg i) p.1 obj = false
    · obtain ⟨i, obj, hobj, hspares⟩ := hswept
      obtain ⟨hro, hk, howned⟩ := spares_eq_false.mp hspares
      exact Or.inr ⟨i, hro, Or.inr ⟨hk, obj, hobj, howned⟩⟩
    · refine Or.inl ?_
      rw [Cluster.view, find_inTurn_unwritten hnamed hno, Cluster.view, filter_eq_self]
      intro obj hobj
      refine List.all_eq_true.mpr fun i _ => Bool.of_not_eq_false fun hspares => ?_
      exact hswept ⟨i, obj, hobj, hspares⟩

/-! ## Interleaved -/

theorem owned_of_carries {cfg cfg' : Config} (hside : SideBySide cfg cfg') {m : ObjectMeta}
    (h : m.Carries cfg) : m.owned cfg' = false :=
  Bool.eq_false_iff.mpr fun howned => hside.not_carries h (carries_of_owned howned)

theorem apart_of_placesApart [DefaultHasher] [UrlCrate] {dynConfig : ι → TraefikDynamicConfig}
    (hside : ∀ i j, i ≠ j → SideBySide (cfg i) (cfg j))
    (hkey : ∀ i, (cfg i).instanceLabelKey ≠ serviceNameLabel)
    (h : PlacesApart cfg (fun i => buildDesired (cfg i) (dynConfig i)) c) :
    Apart cfg (fun i => buildDesired (cfg i) (dynConfig i)) c where
  writes i j hij k name own other hwrites :=
    ((placesApart_iff hside hkey).mp h i j hij k name own hwrites).2 other
  start i j hij k name own obj hwrites hobj := Bool.eq_false_iff.mpr fun howned =>
    ((placesApart_iff hside hkey).mp h i j hij k name own hwrites).1 obj hobj (carries_of_owned howned)
  targets i j hij _ _ _ hwrites :=
    owned_of_carries (hside i j hij) ((find_buildDesired_origin hwrites.2).1.carries (hkey i))

theorem instances_keep [DecidableEq ι] (hnamed : ∀ i, (desired i).Named)
    (hapart : Apart cfg desired c) (horder : ∀ i, i ∈ order)
    {sys : System ι Call Call.Reply (Except ReconcileError Unit) Cluster}
    (hreach : (reconciles cfg desired c).Reaches serve sys) :
    TowardGoal (inTurn cfg desired order c) c sys.state :=
  (hreach.toward fun i =>
    reconcileOnce_toward (hnamed i) (hapart.aims hnamed horder i) (.refl c)).1

/-- When all have returned, their calls answered, the cluster is what they make of it in turn. -/
theorem instances_returned [DecidableEq ι] (hnamed : ∀ i, (desired i).Named)
    (hapart : Apart cfg desired c) (horder : ∀ i, i ∈ order)
    {sys : System ι Call Call.Reply (Except ReconcileError Unit) Cluster}
    (hreach : (reconciles cfg desired c).Mixes (fun _ (_ : Environment) => serve answering) sys)
    (hdone : ∀ i, ∃ out, sys.programs i = .done out) :
    sys.state = inTurn cfg desired order c := by
  have hstart : ∀ i, (reconcileOnce (cfg i) (desired i)).Keeps
      (fun _ : Environment => serve answering) (TowardGoal (inTurn cfg desired order c))
      (TowardGoal (inTurn cfg desired order c)) (fun _ c' => (cfg i).readOnly = false →
        Reached c (inTurn cfg desired order c) (Brings (cfg i) (desired i) c) c') c := by
    intro i
    have haims := hapart.aims hnamed horder i
    cases hro : (cfg i).readOnly with
    | false =>
      exact (reconcileOnce_answered (hnamed i) haims hro (.refl c)).mono fun _ _ h _ => h.2
    | true =>
      exact ((reconcileOnce_toward (hnamed i) haims (.refl c)).narrow fun _ => answering).mono
        fun _ _ _ hwrites => nomatch hwrites
  obtain ⟨htoward, hkeeps⟩ := hreach.toward hstart
  apply Cluster.ext_view
  intro p
  rcases inTurn_brings hnamed c order p with hsame | ⟨i, hro, hbrings⟩
  · exact (htoward p).elim (fun hkept => hkept.trans hsame.symm) id
  · obtain ⟨out, hout⟩ := hdone i
    exact ((hkeeps i).returned hout hro).2 p hbrings

end

/-- The reconciles of controllers whose places are apart are serialisable: whatever fails, a place is
as at the start or as they would leave it in turn, and when all have returned, their calls answered,
all places are the latter. So the order in which they would take turns does not matter. -/
theorem instances_serialisable [DefaultHasher] [UrlCrate] {ι : Type} [DecidableEq ι]
    (cfg : ι → Config) (dynConfig : ι → TraefikDynamicConfig) (c : Cluster) (order : List ι)
    (horder : ∀ i, i ∈ order) (hside : ∀ i j, i ≠ j → SideBySide (cfg i) (cfg j))
    (hkey : ∀ i, (cfg i).instanceLabelKey ≠ serviceNameLabel)
    (hapart : PlacesApart cfg (fun i => buildDesired (cfg i) (dynConfig i)) c) :
    (∀ sys, (reconciles cfg (fun i => buildDesired (cfg i) (dynConfig i)) c).Reaches serve sys →
      ∀ k name, sys.state.find k name = c.find k name ∨ sys.state.find k name =
        (inTurn cfg (fun i => buildDesired (cfg i) (dynConfig i)) order c).find k name) ∧
      ∀ sys, (reconciles cfg (fun i => buildDesired (cfg i) (dynConfig i)) c).Mixes
          (fun _ (_ : Environment) => serve answering) sys →
        (∀ i, ∃ out, sys.programs i = .done out) →
          sys.state = inTurn cfg (fun i => buildDesired (cfg i) (dynConfig i)) order c := by
  have hnamed : ∀ i, (buildDesired (cfg i) (dynConfig i)).Named := fun i => buildDesired_named _ _
  have hplaces := apart_of_placesApart hside hkey hapart
  exact ⟨fun sys hreach k name => instances_keep hnamed hplaces horder hreach (k, name),
    fun sys hreach hdone => instances_returned hnamed hplaces horder hreach hdone⟩

theorem sample_placesApart : PlacesApart sampleConfigs
    (fun i => @buildDesired sampleHasher sampleUrlCrate (sampleConfigs i) (sampleDynConfigs i))
      .empty := by
  let _ := sampleHasher
  let _ := sampleUrlCrate
  refine (placesApart_iff sampleConfigs_sideBySide sampleConfigs_key).mpr ?_
  intro i j hij k name own hown
  refine ⟨fun obj hobj => by simp at hobj, fun other hother => ?_⟩
  cases i <;> cases j
  · exact hij rfl
  · exact no_place_shared k name own other hown.2 hother.2
  · exact no_place_shared k name other own hother.2 hown.2
  · exact hij rfl

/-- The two sample controllers leave one cluster, whichever would go first. -/
theorem instances_serialisable_sample :
    ∃ sys, (reconciles sampleConfigs (fun i => @buildDesired sampleHasher sampleUrlCrate
          (sampleConfigs i) (sampleDynConfigs i)) .empty).Mixes
        (fun _ (_ : Environment) => serve answering) sys ∧
      sys.state = inTurn sampleConfigs (fun i => @buildDesired sampleHasher sampleUrlCrate
          (sampleConfigs i) (sampleDynConfigs i)) [false, true] .empty ∧
        sys.state = inTurn sampleConfigs (fun i => @buildDesired sampleHasher sampleUrlCrate
          (sampleConfigs i) (sampleDynConfigs i)) [true, false] .empty := by
  let start := reconciles sampleConfigs (fun i => @buildDesired sampleHasher sampleUrlCrate
    (sampleConfigs i) (sampleDynConfigs i)) .empty
  let serves : Bool → Environment → Server Call Call.Reply Cluster := fun _ _ => serve answering
  -- first `false` alone, then `true` alone
  obtain ⟨half, hfirst, hfalse, _⟩ := System.solo_returns serves answering false start
  obtain ⟨sys, hsecond, htrue, _⟩ := System.solo_returns serves answering true half
  have hhalf : start.Mixes serves half := .along .refl hfirst
  have hreach : start.Mixes serves sys := hhalf.along hsecond
  have hdone : ∀ i, ∃ out, sys.programs i = .done out := by
    intro i
    cases i with
    | false => exact ⟨_, (System.other_along hsecond Bool.false_ne_true).trans hfalse⟩
    | true => exact ⟨_, htrue⟩
  exact ⟨sys, hreach, (@instances_serialisable sampleHasher sampleUrlCrate Bool _ sampleConfigs
      sampleDynConfigs .empty [false, true] (by decide) sampleConfigs_sideBySide sampleConfigs_key
      sample_placesApart).2 sys hreach hdone,
    (@instances_serialisable sampleHasher sampleUrlCrate Bool _ sampleConfigs sampleDynConfigs
      .empty [true, false] (by decide) sampleConfigs_sideBySide sampleConfigs_key
      sample_placesApart).2 sys hreach hdone⟩

end PangolinGateway
