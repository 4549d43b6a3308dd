import PangolinGateway.Reconcile.Apply

/-! # Mark-and-sweep garbage collection

Anything that carries the managed labels and is not in the desired set is deleted. -/
namespace PangolinGateway
set_option autoImplicit false
open Calls

variable (cfg : Config) (env : Environment) (k : Kind) (desiredNames : StringSet)

/-- The step of the loop over existing objects. A failed delete is logged only. -/
def sweepItem (item : k.Obj) : KubeProgram :=
  match (k.metadata item).name with
  | none => .done (.ok ())
  | some name =>
    if name ∈ desiredNames then .done (.ok ())
    else if cfg.readOnly then .done (.ok ())
    else .call (.delete k name) fun _ => .done (.ok ())

def sweep : KubeProgram :=
  .call (.list k cfg.managedSelector) fun (reply : Except KubeError (List k.Obj)) =>
    match reply with
    | .error e => .done (.error (.listing k e))
    | .ok existing => Program.forEach (sweepItem cfg k desiredNames) existing

/-! ## What one sweep does -/

/-- The controller deletes an object of this name when it lists one, and the delete takes effect. -/
def Deletes (name : String) : Prop :=
  cfg.readOnly = false ∧ name ∉ desiredNames ∧ (env (.delete k name)).takesEffect = true

/-- The sweep removes the object of this name from `c`. -/
def Sweeps (c : Cluster) (name : String) : Prop :=
  env (.list k cfg.managedSelector) = .answered ∧
    (∃ obj, c.find k name = some obj ∧ (k.metadata obj).owned cfg = true) ∧
    Deletes cfg env k desiredNames name

def sweepChange (item : k.Obj) (c : Cluster) : Cluster :=
  ((sweepItem cfg k desiredNames item).run (serve env) c).2

theorem sweepItem_acts (item : k.Obj) :
    Program.Acts (serve env) (sweepItem cfg k desiredNames item) (.ok ())
      (sweepChange cfg env k desiredNames item) := by
  unfold sweepChange sweepItem
  cases (k.metadata item).name with
  | none => exact Program.Acts.done _
  | some name =>
    by_cases hname : name ∈ desiredNames
    · simp only [hname, if_true]
      exact Program.Acts.done _
    · simp only [hname, if_false]
      cases cfg.readOnly with
      | true => exact Program.Acts.done _
      | false => exact Program.Acts.call fun c => rfl

theorem sweepChange_of_name {item : k.Obj} {name : String}
    (hname : (k.metadata item).name = some name) (c : Cluster) :
    (Deletes cfg env k desiredNames name ∧
        sweepChange cfg env k desiredNames item c = c.remove k name) ∨
      (¬Deletes cfg env k desiredNames name ∧ sweepChange cfg env k desiredNames item c = c) := by
  unfold sweepChange sweepItem Deletes
  rw [hname]
  by_cases hwanted : name ∈ desiredNames
  · exact Or.inr ⟨by simp [hwanted], by simp [hwanted]⟩
  · simp only [hwanted, if_false, not_false_eq_true, true_and]
    cases cfg.readOnly with
    | true => exact Or.inr ⟨by simp, rfl⟩
    | false =>
      cases heff : (env (.delete k name)).takesEffect with
      | true => exact Or.inl ⟨by simp, by simp [Program.run, serve, heff]⟩
      | false => exact Or.inr ⟨by simp, by simp [Program.run, serve, heff]⟩

def swept (items : List k.Obj) (c : Cluster) : Cluster :=
  items.foldl (fun c item => sweepChange cfg env k desiredNames item c) c

/-- The loop removes the names of its items that the controller deletes and leaves the rest. -/
theorem find_swept {items : List k.Obj}
    (hnamed : ∀ item ∈ items, ∃ name, (k.metadata item).name = some name) (c : Cluster)
    (k' : Kind) (name : String) :
    (k' = k ∧ Deletes cfg env k desiredNames name ∧
        (∃ item ∈ items, (k.metadata item).name = some name) ∧
        (swept cfg env k desiredNames items c).find k' name = none) ∨
      (¬(k' = k ∧ Deletes cfg env k desiredNames name ∧
          ∃ item ∈ items, (k.metadata item).name = some name) ∧
        (swept cfg env k desiredNames items c).find k' name = c.find k' name) := by
  induction items using List.reverseRecOn with
  | nil => exact Or.inr ⟨by simp, rfl⟩
  | append_singleton items item ih =>
    have hlast : swept cfg env k desiredNames (items ++ [item]) c =
        sweepChange cfg env k desiredNames item (swept cfg env k desiredNames items c) := by
      rw [swept, List.foldl_append]
      rfl
    have hfront := ih fun i hi => hnamed i (List.mem_append_left _ hi)
    obtain ⟨itemName, hitem⟩ := hnamed item (List.mem_append_right _ List.mem_cons_self)
    rw [hlast]
    rcases sweepChange_of_name cfg env k desiredNames hitem
      (swept cfg env k desiredNames items c) with ⟨hdel, heq⟩ | ⟨hdel, heq⟩
    · rw [heq, Cluster.find_remove]
      by_cases hsame : k' = k ∧ name = itemName
      · obtain ⟨rfl, rfl⟩ := hsame
        exact Or.inl ⟨rfl, hdel, ⟨item, by simp, hitem⟩, by simp⟩
      · simp only [hsame, if_false, List.mem_append, List.mem_singleton]
        grind
    · rw [heq]
      simp only [List.mem_append, List.mem_singleton]
      grind

/-! ## What the whole sweep does -/

theorem select_named {c : Cluster} {item : k.Obj} (h : item ∈ c.select k cfg.managedSelector) :
    ∃ name, (k.metadata item).name = some name ∧ c.find k name = some item ∧
      (k.metadata item).owned cfg = true := by
  obtain ⟨⟨name, hfind⟩, howned⟩ := Cluster.mem_select.mp h
  exact ⟨name, Cluster.find_named hfind, hfind, howned⟩

theorem sweep_unlisted {c : Cluster} (hlist : env (.list k cfg.managedSelector) ≠ .answered) :
    (∀ t ∈ (sweep cfg k desiredNames).states (serve env) c, t = c) ∧
      ((sweep cfg k desiredNames).run (serve env) c).2 = c := by
  cases henv : env (.list k cfg.managedSelector) with
  | answered => exact absurd henv hlist
  | failed e => simp [sweep, Program.run, Program.states, serve, henv, Outcome.reply]
  | lost e => simp [sweep, Program.run, Program.states, serve, henv, Outcome.reply]

theorem sweep_listed {c : Cluster} (hlist : env (.list k cfg.managedSelector) = .answered) :
    (∀ t ∈ (sweep cfg k desiredNames).states (serve env) c,
        ∃ items, items <+: c.select k cfg.managedSelector ∧
          t = swept cfg env k desiredNames items c) ∧
      ((sweep cfg k desiredNames).run (serve env) c).2 =
        swept cfg env k desiredNames (c.select k cfg.managedSelector) c := by
  have hacts : ∀ item ∈ c.select k cfg.managedSelector,
      Program.Acts (serve env) (sweepItem cfg k desiredNames item) (.ok ())
        (sweepChange cfg env k desiredNames item) :=
    fun item _ => sweepItem_acts cfg env k desiredNames item
  have hall : Program.attempted (fun _ : k.Obj => (.ok () : Except ReconcileError Unit))
      (c.select k cfg.managedSelector) = c.select k cfg.managedSelector :=
    Program.attempted_eq fun _ _ => rfl
  constructor
  · intro t ht
    simp only [sweep, Program.states, serve, hlist, Outcome.reply, List.mem_cons] at ht
    rcases ht with rfl | ht
    · exact ⟨[], List.nil_prefix, rfl⟩
    · obtain ⟨items, hprefix, rfl⟩ := (Program.mem_states_forEach hacts c t).mp ht
      rw [hall] at hprefix
      exact ⟨items, hprefix, rfl⟩
  · have hrun := (Program.run_forEach hacts c).2
    rw [hall] at hrun
    simp only [sweep, Program.run, serve, hlist, Outcome.reply]
    exact hrun

/-- A name is gone after the sweep when the sweep removes it and is as it was otherwise. -/
theorem find_sweep (c : Cluster) (k' : Kind) (name : String) :
    (k' = k ∧ Sweeps cfg env k desiredNames c name ∧
        (((sweep cfg k desiredNames).run (serve env) c).2).find k' name = none) ∨
      (¬(k' = k ∧ Sweeps cfg env k desiredNames c name) ∧
        (((sweep cfg k desiredNames).run (serve env) c).2).find k' name = c.find k' name) := by
  by_cases hlist : env (.list k cfg.managedSelector) = .answered
  · rw [(sweep_listed cfg env k desiredNames hlist).2]
    have hnamed : ∀ item ∈ c.select k cfg.managedSelector,
        ∃ name, (k.metadata item).name = some name := fun item hitem =>
      (select_named cfg k hitem).imp fun _ h => h.1
    rcases find_swept cfg env k desiredNames hnamed c k' name with
      ⟨rfl, hdel, ⟨item, hitem, hname⟩, hnone⟩ | ⟨hno, hkeep⟩
    · obtain ⟨name', hname', hfind, howned⟩ := select_named cfg k' hitem
      obtain rfl : name = name' := Option.some.inj (hname.symm.trans hname')
      exact Or.inl ⟨rfl, ⟨hlist, ⟨item, hfind, howned⟩, hdel⟩, hnone⟩
    · refine Or.inr ⟨?_, hkeep⟩
      rintro ⟨rfl, _, ⟨obj, hfind, howned⟩, hdel⟩
      exact hno ⟨rfl, hdel, obj, Cluster.mem_select.mpr ⟨⟨name, hfind⟩, howned⟩,
        Cluster.find_named hfind⟩
  · rw [(sweep_unlisted cfg env k desiredNames hlist).2]
    exact Or.inr ⟨fun h => hlist h.2.1, rfl⟩

/-- During the sweep a name is as it was, or one that the sweep removes. -/
theorem find_of_mem_sweep {c t : Cluster}
    (ht : t ∈ (sweep cfg k desiredNames).states (serve env) c) (k' : Kind) (name : String) :
    t.find k' name = c.find k' name ∨
      (k' = k ∧ Sweeps cfg env k desiredNames c name ∧ t.find k' name = none) := by
  by_cases hlist : env (.list k cfg.managedSelector) = .answered
  · obtain ⟨items, hprefix, rfl⟩ := (sweep_listed cfg env k desiredNames hlist).1 t ht
    have hselected : ∀ item ∈ items, item ∈ c.select k cfg.managedSelector :=
      fun item hitem => hprefix.subset hitem
    have hnamed : ∀ item ∈ items, ∃ name, (k.metadata item).name = some name := fun item hitem =>
      (select_named cfg k (hselected item hitem)).imp fun _ h => h.1
    rcases find_swept cfg env k desiredNames hnamed c k' name with
      ⟨rfl, hdel, ⟨item, hitem, hname⟩, hnone⟩ | ⟨_, hkeep⟩
    · obtain ⟨name', hname', hfind, howned⟩ := select_named cfg k' (hselected item hitem)
      obtain rfl : name = name' := Option.some.inj (hname.symm.trans hname')
      exact Or.inr ⟨rfl, ⟨hlist, ⟨item, hfind, howned⟩, hdel⟩, hnone⟩
    · exact Or.inl hkeep
  · rw [(sweep_unlisted cfg env k desiredNames hlist).1 t ht]
    exact Or.inl rfl

end PangolinGateway
