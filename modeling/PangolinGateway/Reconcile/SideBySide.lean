import PangolinGateway.Calls.Interleave
import PangolinGateway.Reconcile.Converges

/-! # Several controllers in one namespace

Each sweeps only what carries its own instance label, but applies by kind and name with force: where
two controllers want an object of the same kind and name, each takes it from the other. -/
namespace PangolinGateway
set_option autoImplicit false
open Calls

/-- Two configurations that are told apart by their instance labels and ListenerSets. -/
structure SideBySide (cfg cfg' : Config) : Prop where
  ns : cfg.ns = cfg'.ns
  managedKey : cfg.managedLabelKey = cfg'.managedLabelKey
  managedValue : cfg.managedLabelValue = cfg'.managedLabelValue
  instanceKey : cfg.instanceLabelKey = cfg'.instanceLabelKey
  instanceValue : cfg.instanceLabelValue ≠ cfg'.instanceLabelValue
  listenerSet : cfg.listenerSetName ≠ cfg'.listenerSetName

/-- The object has the instance label of this controller. -/
def ObjectMeta.Carries (cfg : Config) (m : ObjectMeta) : Prop :=
  (m.labels.bind fun labels => labels[cfg.instanceLabelKey]?) = some cfg.instanceLabelValue

theorem carries_of_owned {cfg : Config} {m : ObjectMeta} (h : m.owned cfg = true) : m.Carries cfg := by
  simp only [ObjectMeta.owned, ObjectMeta.matchesSelector, Config.managedSelector, List.all_cons,
    List.all_nil, Bool.and_true, Bool.and_eq_true, beq_iff_eq] at h
  exact h.2

theorem SideBySide.not_carries {cfg cfg' : Config} (h : SideBySide cfg cfg') {m : ObjectMeta}
    (hm : m.Carries cfg) : ¬m.Carries cfg' := by
  intro hm'
  unfold ObjectMeta.Carries at hm hm'
  rw [← h.instanceKey, hm] at hm'
  exact h.instanceValue (Option.some.inj hm')

section
variable {ι : Type} (cfg : ι → Config) (desired : ι → Desired)

/-- The controllers at the start of a reconcile each. -/
def reconciles (c : Cluster) : System ι Call Call.Reply (Except ReconcileError Unit) Cluster :=
  ⟨fun i => reconcileOnce (cfg i) (desired i), c⟩

/-- Whatever the order of the calls and whichever of them fail, no call of one controller changes or
deletes an object that carries the instance label of another. -/
def LabelsRespected [DecidableEq ι] (c : Cluster) : Prop :=
  ∀ sys sys' i, (reconciles cfg desired c).Reaches serve sys → System.Step serve i sys sys' →
    ∀ j, j ≠ i → ∀ (k : Kind) (name : String) (obj : k.Obj), sys.state.find k name = some obj →
      (k.metadata obj).Carries (cfg j) → sys'.state.find k name = some obj

/-- The controller applies this object. -/
def Writes (i : ι) (k : Kind) (name : String) (obj : k.Obj) : Prop :=
  (cfg i).readOnly = false ∧ (desired i).find k name = some obj

/-- An object with the label of another controller, where one writes, is the one it writes. -/
def Spared (c : Cluster) : Prop :=
  ∀ i j, i ≠ j → ∀ (k : Kind) (name : String) (own obj : k.Obj), Writes cfg desired i k name own →
    c.find k name = some obj → (k.metadata obj).Carries (cfg j) → obj = own

/-- Neither in the cluster nor among what the others write does a controller want the place of an
object with a label that is not its own. -/
structure PlacesApart (c : Cluster) : Prop where
  start : Spared cfg desired c
  targets : ∀ i j n, i ≠ n → ∀ (k : Kind) (name : String) (own other : k.Obj),
    Writes cfg desired i k name own → Writes cfg desired j k name other →
      (k.metadata other).Carries (cfg n) → other = own

/-! ## What one controller does to the others -/

/-- A step of controller `i`: what it changes has no other's label, and is removed or becomes what
the controller writes there. -/
def Move (i : ι) (c c' : Cluster) : Prop :=
  ∀ (k : Kind) (name : String), c'.find k name = c.find k name ∨
    ((∀ obj, c.find k name = some obj → ∀ j, j ≠ i → ¬(k.metadata obj).Carries (cfg j)) ∧
      (c'.find k name = none ∨
        ∃ own, Writes cfg desired i k name own ∧ c'.find k name = some own))

/-- What controller `i` guarantees the others. -/
def Guarantee (i : ι) (c c' : Cluster) : Prop := Spared cfg desired c' ∧ Move cfg desired i c c'

/-- What controller `i` relies on. -/
def Relies (i : ι) (c c' : Cluster) : Prop := ∃ j, j ≠ i ∧ Guarantee cfg desired j c c'

variable {cfg desired}

theorem Move.refl (i : ι) (c : Cluster) : Move cfg desired i c c := fun _ _ => Or.inl rfl

theorem Writes.unique {i : ι} {k : Kind} {name : String} {own own' : k.Obj}
    (h : Writes cfg desired i k name own) (h' : Writes cfg desired i k name own') : own = own' :=
  Option.some.inj (h.2.symm.trans h'.2)

theorem Move.spared {c₀ : Cluster} (hapart : PlacesApart cfg desired c₀) {i : ι} {c c' : Cluster}
    (h : Move cfg desired i c c') (hc : Spared cfg desired c) : Spared cfg desired c' := by
  intro m n hmn k name own obj hwrites hfind hcarries
  rcases h k name with hsame | ⟨_, hnone | ⟨mine, hmine, hput⟩⟩
  · exact hc m n hmn k name own obj hwrites (hsame ▸ hfind) hcarries
  · simp [hnone] at hfind
  · obtain rfl : mine = obj := Option.some.inj (hput.symm.trans hfind)
    exact hapart.targets m i n hmn k name own mine hwrites hmine hcarries

theorem spared_stable (i : ι) : Program.Stable (Relies cfg desired i) (Spared cfg desired) := by
  rintro c c' ⟨j, _, hspared, _⟩ _
  exact hspared

/-- The move of a call that the controller may make, whatever the environment makes of it. -/
theorem guarantee_of_effect {c₀ : Cluster} (hapart : PlacesApart cfg desired c₀) {i : ι}
    {c c' : Cluster} (hc : Spared cfg desired c) (hmove : Move cfg desired i c c')
    (effective : Bool) : Guarantee cfg desired i c (if effective then c' else c) := by
  cases effective with
  | false => exact ⟨hc, .refl i c⟩
  | true => exact ⟨hmove.spared hapart hc, hmove⟩

/-! ## The apply phase -/

theorem put_move {i : ι} {k : Kind} {name : String} {own : k.Obj}
    (hwrites : Writes cfg desired i k name own) (hname : (k.metadata own).name = some name)
    {c : Cluster} (hc : Spared cfg desired c) : Move cfg desired i c (c.put k name own hname) := by
  intro k' name'
  by_cases hsame : k' = k ∧ name' = name
  · obtain ⟨rfl, rfl⟩ := hsame
    rw [Cluster.find_put_self]
    by_cases hforeign : ∃ obj, c.find k' name' = some obj ∧
        ∃ j, j ≠ i ∧ (k'.metadata obj).Carries (cfg j)
    · obtain ⟨obj, hfind, j, hj, hcarries⟩ := hforeign
      rw [hfind, hc i j hj.symm k' name' own obj hwrites hfind hcarries]
      exact Or.inl rfl
    · refine Or.inr ⟨fun obj hfind j hj hcarries => ?_, Or.inr ⟨own, hwrites, rfl⟩⟩
      exact hforeign ⟨obj, hfind, j, hj, hcarries⟩
  · exact Or.inl (Cluster.find_put_of_ne _ _ _ _ _ hsame)

/-- Among the others, a program of controller `i` keeps its guarantee and leaves `Spared` behind. -/
abbrev KeepsGuarantee (cfg : ι → Config) (desired : ι → Desired) (i : ι) (p : KubeProgram)
    (c : Cluster) : Prop :=
  p.Keeps serve (Relies cfg desired i) (Guarantee cfg desired i) (fun _ => Spared cfg desired) c

section
variable {c₀ : Cluster} (hapart : PlacesApart cfg desired c₀) (i : ι)
include hapart

theorem ssaApply_keeps {entry : Entry} {name : String}
    (hname : (entry.1.metadata entry.2).name = some name)
    (hfind : (desired i).find entry.1 name = some entry.2) {c : Cluster} (hc : Spared cfg desired c) :
    KeepsGuarantee cfg desired i (ssaApply (cfg i) entry) c := by
  rw [KeepsGuarantee, ssaApply_of_name (cfg i) hname]
  cases hro : (cfg i).readOnly with
  | true => exact .done (spared_stable i) hc fun _ h => h
  | false =>
    refine .call (spared_stable i) hc fun c' env hc' => ?_
    have hguarantee := guarantee_of_effect hapart hc' (put_move ⟨hro, hfind⟩ hname hc')
      (env (.patch entry.1 name entry.2 hname)).takesEffect
    exact ⟨hguarantee, .done (spared_stable i) hguarantee.1 fun _ h => h⟩

theorem applyPhase_keeps (hnamed : (desired i).Named) {c : Cluster} (hc : Spared cfg desired c) :
    KeepsGuarantee cfg desired i (applyPhase (cfg i) (desired i)) c := by
  rw [KeepsGuarantee, applyPhase_eq]
  refine .forEach (spared_stable i) (fun entry hentry c' hc' => ?_) hc
  obtain ⟨name, hname, hfind⟩ := hnamed.entries entry hentry
  exact ssaApply_keeps hapart i hname hfind hc'

end

/-! ## The sweeps -/

/-- The place of an object that controller `i` has listed: while others run it is empty or holds an
object with the label of `i`. -/
def Listed (cfg : ι → Config) (desired : ι → Desired) (i : ι) (k : Kind) (name : String)
    (c : Cluster) : Prop :=
  (∀ obj, c.find k name = some obj → (k.metadata obj).Carries (cfg i)) ∧
    ∀ j, j ≠ i → ∀ other, Writes cfg desired j k name other → (k.metadata other).Carries (cfg i)

/-- What the loop over the listed items needs of the cluster. -/
def SweepReady (cfg : ι → Config) (desired : ι → Desired) (i : ι) (k : Kind) (items : List k.Obj)
    (c : Cluster) : Prop :=
  Spared cfg desired c ∧ ∀ item ∈ items, ∀ name, (k.metadata item).name = some name →
    Listed cfg desired i k name c

theorem Listed.move {i j : ι} (hj : j ≠ i) {k : Kind} {name : String} {c c' : Cluster}
    (h : Listed cfg desired i k name c) (hmove : Move cfg desired j c c') :
    Listed cfg desired i k name c' := by
  refine ⟨fun obj hfind => ?_, h.2⟩
  rcases hmove k name with hsame | ⟨_, hnone | ⟨own, hown, hput⟩⟩
  · exact h.1 obj (hsame ▸ hfind)
  · simp [hnone] at hfind
  · obtain rfl : own = obj := Option.some.inj (hput.symm.trans hfind)
    exact h.2 j hj own hown

theorem sweepReady_stable (i : ι) (k : Kind) (items : List k.Obj) :
    Program.Stable (Relies cfg desired i) (SweepReady cfg desired i k items) := by
  rintro c c' ⟨j, hj, hspared, hmove⟩ ⟨_, hlisted⟩
  exact ⟨hspared, fun item hitem name hname => (hlisted item hitem name hname).move hj hmove⟩

theorem Listed.remove {i : ι} {k : Kind} {name name' : String} {c : Cluster}
    (h : Listed cfg desired i k name c) : Listed cfg desired i k name (c.remove k name') := by
  refine ⟨fun obj hfind => ?_, h.2⟩
  rw [Cluster.find_remove] at hfind
  split at hfind
  · simp at hfind
  · exact h.1 obj hfind

section
variable (hside : ∀ i j, i ≠ j → SideBySide (cfg i) (cfg j))
include hside

theorem remove_move {i : ι} {k : Kind} {name : String} {c : Cluster}
    (h : Listed cfg desired i k name c) : Move cfg desired i c (c.remove k name) := by
  intro k' name'
  rw [Cluster.find_remove]
  by_cases hsame : k' = k ∧ name' = name
  · obtain ⟨rfl, rfl⟩ := hsame
    refine Or.inr ⟨fun obj hfind j hj => ?_, Or.inl (by simp)⟩
    exact (hside i j hj.symm).not_carries (h.1 obj hfind)
  · exact Or.inl (if_neg hsame)

variable {c₀ : Cluster} (hapart : PlacesApart cfg desired c₀) (i : ι)
include hapart

theorem sweepItem_keeps (k : Kind) (desiredNames : StringSet) {items : List k.Obj} {item : k.Obj}
    (hitem : item ∈ items) {c : Cluster} (hc : SweepReady cfg desired i k items c) :
    (sweepItem (cfg i) k desiredNames item).Keeps serve (Relies cfg desired i)
      (Guarantee cfg desired i) (fun _ => SweepReady cfg desired i k items) c := by
  have hstable : Program.Stable (Relies cfg desired i) (SweepReady cfg desired i k items) :=
    sweepReady_stable i k items
  unfold sweepItem
  cases hname : (k.metadata item).name with
  | none => exact .done hstable hc fun _ h => h
  | some name =>
    by_cases hwanted : name ∈ desiredNames
    · simp only [hwanted, if_true]
      exact .done hstable hc fun _ h => h
    · simp only [hwanted, if_false]
      cases (cfg i).readOnly with
      | true => exact .done hstable hc fun _ h => h
      | false =>
        refine .call hstable hc fun c' env hc' => ?_
        have hguarantee := guarantee_of_effect hapart hc'.1
          (remove_move hside (hc'.2 item hitem name hname)) (env (.delete k name)).takesEffect
        refine ⟨hguarantee, .done hstable ⟨hguarantee.1, fun other hother name' hname' => ?_⟩
          fun _ h => h⟩
        have hlisted := hc'.2 other hother name' hname'
        simp only [serve]
        split
        · exact hlisted.remove
        · exact hlisted

theorem sweep_keeps (k : Kind) (desiredNames : StringSet) {c : Cluster}
    (hc : Spared cfg desired c) :
    KeepsGuarantee cfg desired i (sweep (cfg i) k desiredNames) c := by
  refine .call (spared_stable i) hc fun c' env hc' => ⟨⟨hc', .refl i c'⟩, ?_⟩
  simp only [serve]
  cases env (.list k (cfg i).managedSelector) with
  | failed e => exact .done (spared_stable i) hc' fun _ h => h
  | lost e => exact .done (spared_stable i) hc' fun _ h => h
  | answered =>
    have hready : SweepReady cfg desired i k (c'.select k (cfg i).managedSelector) c' := by
      refine ⟨hc', fun item hitem name hname => ?_⟩
      obtain ⟨name', hname', hfind, howned⟩ := select_named (cfg i) k hitem
      obtain rfl : name = name' := Option.some.inj (hname.symm.trans hname')
      have hcarries := carries_of_owned howned
      refine ⟨fun obj hobj => ?_, fun j hj other hother => ?_⟩
      · rwa [← Option.some.inj (hfind.symm.trans hobj)]
      -- another controller writes at this place, so it writes the object that is there
      · rwa [← hc' j i hj k name other item hother hfind hcarries]
    exact (Program.Keeps.forEach (sweepReady_stable i k _) (fun item hitem c'' hc'' =>
      sweepItem_keeps hside hapart i k desiredNames hitem hc'') hready).mono fun _ _ h => h.1

theorem reconcileOnce_keeps (hnamed : (desired i).Named) {c : Cluster} (hc : Spared cfg desired c) :
    KeepsGuarantee cfg desired i (reconcileOnce (cfg i) (desired i)) c := by
  refine .andThen (spared_stable i) (applyPhase_keeps hapart i hnamed hc) fun c' hc' => ?_
  refine .andThen (spared_stable i) ?_ fun c'' hc'' => ?_
  · refine .forEach (spared_stable i) (fun k _ d hd => ?_) hc'
    exact (sweep_keeps hside hapart i k _ hd).bind fun _ d' hd' =>
      .done (spared_stable i) hd' fun _ h => h
  · refine .forEach (spared_stable i) (fun k _ d hd => ?_) hc''
    exact .call (spared_stable i) hd fun d' _ hd' =>
      ⟨⟨hd', .refl i d'⟩, .done (spared_stable i) hd' fun _ h => h⟩

end

/-! ## Whose labels are respected -/

theorem labelsRespected_of_apart [DecidableEq ι]
    (hside : ∀ i j, i ≠ j → SideBySide (cfg i) (cfg j)) (hnamed : ∀ i, (desired i).Named)
    {c : Cluster} (hapart : PlacesApart cfg desired c) : LabelsRespected cfg desired c := by
  intro sys sys' i hreach hstep j hj k name obj hfind hcarries
  have hstart : ∀ m, KeepsGuarantee cfg desired m ((reconciles cfg desired c).programs m) c :=
    fun m => reconcileOnce_keeps hside hapart m (hnamed m) hapart.start
  have hkeeps : ∀ m, KeepsGuarantee cfg desired m (sys.programs m) sys.state :=
    hreach.keeps (fun m n hnm d d' hguarantee => ⟨m, hnm.symm, hguarantee⟩) hstart
  rcases (hstep.guar (hkeeps i)).1.2 k name with hsame | ⟨hforeign, _⟩
  · rw [hsame, hfind]
  · exact absurd hcarries (hforeign obj hfind j hj)

/-- Controller `i` alone gets through its applies. -/
theorem solo_applies [DecidableEq ι] {i : ι} (hro : (cfg i).readOnly = false)
    (hnamed : (desired i).Named)
    {sys : System ι Call Call.Reply (Except ReconcileError Unit) Cluster}
    (hprogram : sys.programs i = reconcileOnce (cfg i) (desired i)) :
    ∃ sys', Relation.ReflTransGen (System.Step serve i) sys sys' ∧
      (∀ j, j ≠ i → sys'.programs j = sys.programs j) ∧
      ∀ k name own, (desired i).find k name = some own → sys'.state.find k name = some own := by
  have hok := answering_appliesOk (cfg i) hnamed
  have hrun := (run_applyPhase (cfg i) answering (desired i) sys.state).2
  rw [attemptedEntries_of_ok hok] at hrun
  refine ⟨_, System.solo answering _ _ sys hprogram, fun j hj => Function.update_of_ne hj _ _, ?_⟩
  intro k name own hown
  simp only [hrun]
  rw [find_applied_answering hnamed hro, hown, Option.some_or]

theorem apart_of_labelsRespected [DecidableEq ι] (hnamed : ∀ i, (desired i).Named) {c : Cluster}
    (h : LabelsRespected cfg desired c) : PlacesApart cfg desired c := by
  constructor
  · intro i j hij k name own obj hwrites hfind hcarries
    obtain ⟨sys, hrun, _, happlied⟩ := solo_applies hwrites.1 (hnamed i)
      (show (reconciles cfg desired c).programs i = _ from rfl)
    have hkept := (System.Reaches.along (P := fun d => d.find k name = some obj)
      (fun sys₁ sys₂ hreach hstep hobj => h sys₁ sys₂ i hreach hstep j hij.symm k name obj hobj
        hcarries) .refl hrun).2 hfind
    exact Option.some.inj (hkept.symm.trans (happlied k name own hwrites.2))
  · intro i j n hin k name own other hwrites hother hcarries
    by_cases hji : j = i
    · subst hji
      exact hother.unique hwrites
    -- first `j` applies, then `i`
    obtain ⟨sys, hrun, hprograms, happlied⟩ := solo_applies hother.1 (hnamed j)
      (show (reconciles cfg desired c).programs j = _ from rfl)
    have hreach := (System.Reaches.along (P := fun _ => True) (fun _ _ _ _ h => h) .refl hrun).1
    obtain ⟨sys', hrun', _, happlied'⟩ := solo_applies hwrites.1 (hnamed i)
      (hprograms i (fun heq => hji heq.symm))
    have hkept := (hreach.along (P := fun d => d.find k name = some other)
      (fun sys₁ sys₂ hreach hstep hobj => h sys₁ sys₂ i hreach hstep n hin.symm k name other hobj
        hcarries) hrun').2 (happlied k name other hother.2)
    exact Option.some.inj (hkept.symm.trans (happlied' k name own hwrites.2))

section
variable [DefaultHasher] [UrlCrate] {dynConfig : ι → TraefikDynamicConfig}

omit cfg desired in
/-- What a controller writes has its label, if the label is not that of the EndpointSlices. -/
theorem Written.carries {cfg : Config} {dynConfig : TraefikDynamicConfig} {entry : Entry}
    (h : Written cfg dynConfig entry) (hkey : cfg.instanceLabelKey ≠ serviceNameLabel) :
    (entry.1.metadata entry.2).Carries cfg := by
  obtain ⟨labels, hlabels, hsame⟩ := h.labels
  rw [ObjectMeta.Carries, hlabels, Option.bind_some, hsame _ hkey, ownerLabels,
    Std.ExtTreeMap.getElem?_insert_self]

/-- Then places are apart when none is wanted by two, and none holds an object with the label of
another than the one that wants it. -/
theorem placesApart_iff (hside : ∀ i j, i ≠ j → SideBySide (cfg i) (cfg j))
    (hkey : ∀ i, (cfg i).instanceLabelKey ≠ serviceNameLabel) {c : Cluster} :
    PlacesApart cfg (fun i => buildDesired (cfg i) (dynConfig i)) c ↔
      ∀ i j, i ≠ j → ∀ (k : Kind) (name : String) (own : k.Obj),
        Writes cfg (fun i => buildDesired (cfg i) (dynConfig i)) i k name own →
          (∀ obj, c.find k name = some obj → ¬(k.metadata obj).Carries (cfg j)) ∧
          ∀ other, ¬Writes cfg (fun i => buildDesired (cfg i) (dynConfig i)) j k name other := by
  have hcarries : ∀ i k name own,
      Writes cfg (fun i => buildDesired (cfg i) (dynConfig i)) i k name own →
        (k.metadata own).Carries (cfg i) :=
    fun i k name own h => (find_buildDesired_origin h.2).1.carries (hkey i)
  constructor
  · intro h i j hij k name own hwrites
    have hown := hcarries i k name own hwrites
    constructor
    · intro obj hfind hobj
      rw [h.start i j hij k name own obj hwrites hfind hobj] at hobj
      exact (hside i j hij).not_carries hown hobj
    · intro other hother
      have hlabel := hcarries j k name other hother
      rw [h.targets i j j hij k name own other hwrites hother hlabel] at hlabel
      exact (hside i j hij).not_carries hown hlabel
  · intro h
    constructor
    · exact fun i j hij k name own obj hwrites hfind hobj =>
        absurd hobj ((h i j hij k name own hwrites).1 obj hfind)
    · intro i j n hin k name own other hwrites hother hobj
      by_cases hij : i = j
      · subst hij
        exact hother.unique hwrites
      · exact absurd hother ((h i j hij k name own hwrites).2 other)

end

/-- The instance labels are respected exactly when no controller wants the place of an object with
another's label. -/
theorem labelsRespected_iff [DefaultHasher] [UrlCrate] [DecidableEq ι] (cfg : ι → Config)
    (dynConfig : ι → TraefikDynamicConfig) (c : Cluster)
    (hside : ∀ i j, i ≠ j → SideBySide (cfg i) (cfg j)) :
    LabelsRespected cfg (fun i => buildDesired (cfg i) (dynConfig i)) c ↔
      PlacesApart cfg (fun i => buildDesired (cfg i) (dynConfig i)) c := by
  have hnamed : ∀ i, (buildDesired (cfg i) (dynConfig i)).Named := fun i => buildDesired_named _ _
  exact ⟨apart_of_labelsRespected hnamed, labelsRespected_of_apart hside hnamed⟩

end

/-! ## Two controllers -/

/-- The sample configuration, and one that differs in its instance label and ListenerSet. -/
def sampleConfigs (second : Bool) : Config :=
  if second then { sampleConfig with instanceLabelValue := "second", listenerSetName := "second" }
  else sampleConfig

theorem sampleConfigs_sideBySide (i j : Bool) (hij : i ≠ j) :
    SideBySide (sampleConfigs i) (sampleConfigs j) := by
  cases i <;> cases j <;>
    first
    | exact absurd rfl hij
    | exact ⟨rfl, rfl, rfl, rfl, by decide, by decide⟩

theorem sampleConfigs_key (i : Bool) : (sampleConfigs i).instanceLabelKey ≠ serviceNameLabel := by
  cases i <;> decide

/-- The second controller has no routers. -/
def sampleDynConfigs (second : Bool) : TraefikDynamicConfig :=
  if second then emptyDynConfig else sampleDynConfig sampleRouters

/-- Without routers there is only the ListenerSet. -/
theorem second_place {k : Kind} {name : String} {obj : k.Obj}
    (h : (@buildDesired sampleHasher sampleUrlCrate (sampleConfigs true) emptyDynConfig).find k name =
      some obj) : k = .listenerSet ∧ name = "second" := by
  let _ := sampleHasher
  let _ := sampleUrlCrate
  have hkeys : ∀ k : Kind, ((buildDesired (sampleConfigs true) emptyDynConfig).objects k).keys =
      if k = .listenerSet then ["second"] else [] := by
    intro k
    cases k <;> decide
  have hmem : name ∈ ((buildDesired (sampleConfigs true) emptyDynConfig).objects k).keys :=
    Std.ExtTreeMap.mem_keys.mpr (Map.mem_of_getElem? h)
  rw [hkeys] at hmem
  split at hmem
  · next hk => exact ⟨hk, List.mem_singleton.mp hmem⟩
  · simp at hmem

theorem no_place_shared (k : Kind) (name : String) (own other : k.Obj)
    (h : (@buildDesired sampleHasher sampleUrlCrate sampleConfig (sampleDynConfig sampleRouters)).find
      k name = some own)
    (h' : (@buildDesired sampleHasher sampleUrlCrate (sampleConfigs true) emptyDynConfig).find k name =
      some other) : False := by
  obtain ⟨rfl, rfl⟩ := second_place h'
  have hname := (@listenerSets_iff sampleHasher sampleUrlCrate _ _ _ _).mp h
  exact absurd hname.1 (by decide)

theorem labelsRespected_sample :
    @LabelsRespected Bool sampleConfigs (fun i => @buildDesired sampleHasher sampleUrlCrate
      (sampleConfigs i) (sampleDynConfigs i)) _ .empty := by
  let _ := sampleHasher
  let _ := sampleUrlCrate
  refine (labelsRespected_iff sampleConfigs sampleDynConfigs .empty sampleConfigs_sideBySide).mpr
    ((placesApart_iff sampleConfigs_sideBySide sampleConfigs_key).mpr ?_)
  intro i j hij k name own hown
  refine ⟨fun obj hobj => by simp at hobj, fun other hother => ?_⟩
  cases i <;> cases j
  · exact hij rfl
  · exact no_place_shared k name own other hown.2 hother.2
  · exact no_place_shared k name other own hother.2 hown.2
  · exact hij rfl

/-- Both have the routers of the sample: one takes the route of the other. -/
theorem same_router_name :
    ¬@LabelsRespected Bool sampleConfigs (fun i => @buildDesired sampleHasher sampleUrlCrate
      (sampleConfigs i) (sampleDynConfig sampleRouters)) _ .empty := by
  let _ := sampleHasher
  let _ := sampleUrlCrate
  intro h
  have hapart := apart_of_labelsRespected (fun i => buildDesired_named _ _) h
  have hwrites : ∀ i, ∃ route, Writes sampleConfigs
      (fun i => buildDesired (sampleConfigs i) (sampleDynConfig sampleRouters)) i .httpRoute
        (prefixedLabel "hr" "app") route := by
    intro i
    have hrouter : (sampleDynConfig sampleRouters).http.routers["app"]? =
      some ⟨"Host(`a.b`)", "app", ["badger"], ["https"], none, none⟩ := rfl
    obtain ⟨route, hroute⟩ := httpRoutes_of_translated
      (show Translated (sampleConfigs i) (sampleDynConfig sampleRouters) "app" _ from
        ⟨hrouter, by cases i <;> decide⟩)
    exact ⟨route, by cases i <;> rfl, hroute⟩
  obtain ⟨route, hroute⟩ := hwrites false
  obtain ⟨route', hroute'⟩ := hwrites true
  exact (((placesApart_iff sampleConfigs_sideBySide sampleConfigs_key).mp hapart false true
    (by decide) .httpRoute _ route hroute).2 route') hroute'

end PangolinGateway
