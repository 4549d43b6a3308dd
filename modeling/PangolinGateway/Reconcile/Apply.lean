import PangolinGateway.Kube.Cluster
import PangolinGateway.Transform.Desired

/-! # Server-side apply of desired objects -/
namespace PangolinGateway
set_option autoImplicit false
open Calls

inductive ReconcileError where
  /-- object has no metadata.name -/
  | noName
  /-- applying kind/name -/
  | applying (k : Kind) (name : String) (e : KubeError)
  /-- listing existing kind for GC -/
  | listing (k : Kind) (e : KubeError)

abbrev KubeProgram := Program Call Call.Reply (Except ReconcileError Unit)

def ssaApply (cfg : Config) (entry : Entry) : KubeProgram :=
  match hname : (entry.1.metadata entry.2).name with
  | none => .done (.error .noName)
  | some name =>
    if cfg.readOnly then .done (.ok ())
    else .call (.patch entry.1 name entry.2 hname) fun reply =>
      .done (reply.mapError (.applying entry.1 name))

theorem ssaApply_of_name (cfg : Config) {entry : Entry} {name : String}
    (hname : (entry.1.metadata entry.2).name = some name) :
    ssaApply cfg entry = if cfg.readOnly then .done (.ok ())
      else .call (.patch entry.1 name entry.2 hname) fun reply =>
        .done (reply.mapError (.applying entry.1 name)) := by
  unfold ssaApply
  split
  · next hnone => simp [hnone] at hname
  · next name' hname' =>
    obtain rfl : name = name' := Option.some.inj (hname.symm.trans hname')
    rfl

theorem ssaApply_of_noName (cfg : Config) {entry : Entry}
    (hnone : (entry.1.metadata entry.2).name = none) :
    ssaApply cfg entry = .done (.error .noName) := by
  unfold ssaApply
  split
  · rfl
  · next hname => simp [hnone] at hname

/-! ## What one apply does -/

/-- The result of the apply, which does not depend on the cluster. -/
def applyResult (cfg : Config) (env : Environment) (entry : Entry) : Except ReconcileError Unit :=
  ((ssaApply cfg entry).run (serve env) .empty).1

def applyChange (cfg : Config) (env : Environment) (entry : Entry) (c : Cluster) : Cluster :=
  ((ssaApply cfg entry).run (serve env) c).2

/-- The apply of `entry` writes to the cluster. -/
def Applies (cfg : Config) (env : Environment) (entry : Entry) : Prop :=
  cfg.readOnly = false ∧ ∃ name hname, (env (.patch entry.1 name entry.2 hname)).takesEffect = true

theorem ssaApply_acts (cfg : Config) (env : Environment) (entry : Entry) :
    Program.Acts (serve env) (ssaApply cfg entry) (applyResult cfg env entry)
      (applyChange cfg env entry) := by
  unfold applyResult applyChange
  cases hname : (entry.1.metadata entry.2).name with
  | none =>
    rw [ssaApply_of_noName cfg hname]
    exact Program.Acts.done _
  | some name =>
    rw [ssaApply_of_name cfg hname]
    cases cfg.readOnly with
    | true => exact Program.Acts.done _
    | false => exact Program.Acts.call fun c => rfl

theorem applyResult_ok {cfg : Config} {env : Environment} {entry : Entry} {name : String}
    (hname : (entry.1.metadata entry.2).name = some name) :
    applyResult cfg env entry = .ok () ↔
      (cfg.readOnly = false → env (.patch entry.1 name entry.2 hname) = .answered) := by
  unfold applyResult
  rw [ssaApply_of_name cfg hname]
  cases cfg.readOnly with
  | true => simp
  | false =>
    cases henv : env (.patch entry.1 name entry.2 hname) <;>
      simp [Program.run, serve, henv, Outcome.reply, Except.mapError]

theorem applies_iff {cfg : Config} {env : Environment} {entry : Entry} {name : String}
    (hname : (entry.1.metadata entry.2).name = some name) :
    Applies cfg env entry ↔ cfg.readOnly = false ∧
      (env (.patch entry.1 name entry.2 hname)).takesEffect = true := by
  constructor
  · rintro ⟨hro, name', hname', heff⟩
    obtain rfl : name = name' := Option.some.inj (hname.symm.trans hname')
    exact ⟨hro, heff⟩
  · rintro ⟨hro, heff⟩
    exact ⟨hro, name, hname, heff⟩

theorem applyChange_of_name (cfg : Config) (env : Environment) {entry : Entry} {name : String}
    (hname : (entry.1.metadata entry.2).name = some name) (c : Cluster) :
    (Applies cfg env entry ∧ applyChange cfg env entry c = c.put entry.1 name entry.2 hname) ∨
      (¬Applies cfg env entry ∧ applyChange cfg env entry c = c) := by
  rw [applies_iff hname]
  unfold applyChange
  rw [ssaApply_of_name cfg hname]
  cases cfg.readOnly with
  | true => exact Or.inr ⟨by simp, rfl⟩
  | false =>
    cases heff : (env (.patch entry.1 name entry.2 hname)).takesEffect with
    | true => exact Or.inl ⟨by simp, by simp [Program.run, serve, heff]⟩
    | false => exact Or.inr ⟨by simp, by simp [Program.run, serve, heff]⟩

theorem applies_of_ok {cfg : Config} {env : Environment} {entry : Entry} {name : String}
    (hname : (entry.1.metadata entry.2).name = some name) (hro : cfg.readOnly = false)
    (hok : applyResult cfg env entry = .ok ()) : Applies cfg env entry := by
  have hanswered := (applyResult_ok hname).mp hok hro
  rw [applies_iff hname, hanswered]
  exact ⟨hro, rfl⟩

/-! ## What a sequence of applies does -/

/-- The cluster after the applies of `entries`, in order. -/
def applied (cfg : Config) (env : Environment) (entries : List Entry) (c : Cluster) : Cluster :=
  entries.foldl (fun c entry => applyChange cfg env entry c) c

/-- Every entry has a name, and entries of one kind and name are the same object. -/
def EntriesNamed (entries : List Entry) (lookup : (k : Kind) → String → Option k.Obj) : Prop :=
  ∀ entry ∈ entries, ∃ name, (entry.1.metadata entry.2).name = some name ∧
    lookup entry.1 name = some entry.2

variable {cfg : Config} {env : Environment} {lookup : (k : Kind) → String → Option k.Obj}

theorem find_applied_of_not {entries : List Entry} (hnamed : EntriesNamed entries lookup)
    {k : Kind} {name : String} (c : Cluster)
    (hno : ∀ obj, lookup k name = some obj → ⟨k, obj⟩ ∈ entries → ¬Applies cfg env ⟨k, obj⟩) :
    (applied cfg env entries c).find k name = c.find k name := by
  induction entries generalizing c with
  | nil => rfl
  | cons entry entries ih =>
    have hrest := ih (fun e he => hnamed e (List.mem_cons_of_mem entry he))
      (applyChange cfg env entry c) (fun obj hobj hmem => hno obj hobj (List.mem_cons_of_mem _ hmem))
    obtain ⟨name', hname', hlookup⟩ := hnamed entry List.mem_cons_self
    apply Eq.trans hrest
    rcases applyChange_of_name cfg env hname' c with ⟨happ, heq⟩ | ⟨_, heq⟩
    · rw [heq]
      apply Cluster.find_put_of_ne
      rintro ⟨rfl, rfl⟩
      exact hno entry.2 hlookup List.mem_cons_self happ
    · rw [heq]

theorem applied_concat (cfg : Config) (env : Environment) (entries : List Entry) (entry : Entry)
    (c : Cluster) :
    applied cfg env (entries ++ [entry]) c =
      applyChange cfg env entry (applied cfg env entries c) := by
  rw [applied, List.foldl_append]
  rfl

theorem find_applied {entries : List Entry} (hnamed : EntriesNamed entries lookup)
    {k : Kind} {name : String} {obj : k.Obj} (hobj : lookup k name = some obj)
    (hname : (k.metadata obj).name = some name) (hmem : ⟨k, obj⟩ ∈ entries)
    (happ : Applies cfg env ⟨k, obj⟩) (c : Cluster) :
    (applied cfg env entries c).find k name = some obj := by
  induction entries using List.reverseRecOn with
  | nil => simp at hmem
  | append_singleton entries entry ih =>
    have hfront : EntriesNamed entries lookup := fun e he => hnamed e (List.mem_append_left _ he)
    obtain ⟨name', hname', hlookup⟩ := hnamed entry (List.mem_append_right _ List.mem_cons_self)
    rw [applied_concat]
    by_cases hsame : entry = ⟨k, obj⟩
    · subst hsame
      obtain rfl : name = name' := Option.some.inj (hname.symm.trans hname')
      rcases applyChange_of_name cfg env hname' (applied cfg env entries c) with ⟨_, heq⟩ | ⟨hno, _⟩
      · rw [heq, Cluster.find_put_self]
      · exact absurd happ hno
    · have hin : ⟨k, obj⟩ ∈ entries := by
        rcases List.mem_append.mp hmem with h | h
        · exact h
        · exact absurd (List.mem_singleton.mp h).symm hsame
      have hkeep := ih hfront hin
      rcases applyChange_of_name cfg env hname' (applied cfg env entries c) with ⟨_, heq⟩ | ⟨_, heq⟩
      · rw [heq, Cluster.find_put_of_ne, hkeep]
        -- another entry of this kind and name would be this object
        rintro ⟨rfl, rfl⟩
        exact hsame (Sigma.ext rfl (heq_of_eq (Option.some.inj (hlookup.symm.trans hobj))))
      · rw [heq, hkeep]

end PangolinGateway
