import PangolinGateway.Reconcile.Gc

/-! # The apply phase: every desired object, kind by kind -/
namespace PangolinGateway
set_option autoImplicit false
open Calls

def applyKind (cfg : Config) (desired : Desired) (k : Kind) : KubeProgram :=
  Program.forEach (fun obj => ssaApply cfg ⟨k, obj⟩) (desired.objects k).values

def applyPhase (cfg : Config) (desired : Desired) : KubeProgram :=
  Program.forEach (applyKind cfg desired) applyOrder

theorem Desired.Named.entries {d : Desired} (h : d.Named) : EntriesNamed d.entries d.find := by
  rintro ⟨k, obj⟩ hmem
  obtain ⟨name, hfind⟩ := Desired.mem_entries.mp hmem
  exact ⟨name, h k name obj hfind, hfind⟩

theorem EntriesNamed.mono {entries entries' : List Entry}
    {lookup : (k : Kind) → String → Option k.Obj} (h : EntriesNamed entries lookup)
    (hp : entries' <+: entries) : EntriesNamed entries' lookup :=
  fun entry hmem => h entry (hp.subset hmem)

theorem applyPhase_eq (cfg : Config) (desired : Desired) :
    applyPhase cfg desired = Program.forEach (ssaApply cfg) desired.entries := by
  unfold applyPhase Desired.entries
  induction applyOrder with
  | nil => rfl
  | cons k ks ih =>
    rw [List.flatMap_cons, Program.forEach_append, Program.forEach_map, Program.forEach, ih]
    rfl

/-- Every patch of the apply phase reports success. -/
def AppliesOk (cfg : Config) (env : Environment) (desired : Desired) : Prop :=
  ∀ entry ∈ desired.entries, applyResult cfg env entry = .ok ()

def attemptedEntries (cfg : Config) (env : Environment) (desired : Desired) : List Entry :=
  Program.attempted (applyResult cfg env) desired.entries

theorem attemptedEntries_isPrefix (cfg : Config) (env : Environment) (desired : Desired) :
    attemptedEntries cfg env desired <+: desired.entries :=
  Program.attempted_isPrefix _ _

theorem attemptedEntries_of_ok {cfg : Config} {env : Environment} {desired : Desired}
    (h : AppliesOk cfg env desired) : attemptedEntries cfg env desired = desired.entries :=
  Program.attempted_eq h

theorem run_applyPhase (cfg : Config) (env : Environment) (desired : Desired) (c : Cluster) :
    (((applyPhase cfg desired).run (serve env) c).1 = .ok () ↔ AppliesOk cfg env desired) ∧
      ((applyPhase cfg desired).run (serve env) c).2 =
        applied cfg env (attemptedEntries cfg env desired) c := by
  rw [applyPhase_eq]
  exact Program.run_forEach (fun entry _ => ssaApply_acts cfg env entry) c

theorem mem_states_applyPhase (cfg : Config) (env : Environment) (desired : Desired)
    (c t : Cluster) : t ∈ (applyPhase cfg desired).states (serve env) c ↔
      ∃ entries, entries <+: attemptedEntries cfg env desired ∧ t = applied cfg env entries c := by
  rw [applyPhase_eq]
  exact Program.mem_states_forEach (fun entry _ => ssaApply_acts cfg env entry) c t

/-! ## The order of the applies -/

/-- Kinds come in the order of the phase, and the objects of one kind in the order of their names. -/
def Precedes (entry entry' : Entry) : Prop :=
  applyOrder.idxOf entry.1 ≤ applyOrder.idxOf entry'.1 ∧
    (entry.1 = entry'.1 → ∀ name name', (entry.1.metadata entry.2).name = some name →
      (entry'.1.metadata entry'.2).name = some name' → compare name name' = .lt)

theorem entries_ordered {d : Desired} (h : d.Named) : d.entries.Pairwise Precedes := by
  rw [Desired.entries, List.pairwise_flatMap]
  constructor
  · intro k _
    rw [List.pairwise_map, Map.values, List.pairwise_map]
    refine List.Pairwise.imp_of_mem ?_ Std.ExtTreeMap.ordered_keys_toList
    intro p p' hp hp' hlt
    refine ⟨Nat.le_refl _, ?_⟩
    intro _ name name' hname hname'
    have hkey := h k p.1 p.2 (Std.ExtTreeMap.mem_toList_iff_getElem?_eq_some.mp hp)
    have hkey' := h k p'.1 p'.2 (Std.ExtTreeMap.mem_toList_iff_getElem?_eq_some.mp hp')
    obtain rfl : p.1 = name := Option.some.inj (hkey.symm.trans hname)
    obtain rfl : p'.1 = name' := Option.some.inj (hkey'.symm.trans hname')
    exact hlt
  · have hkinds : applyOrder.Pairwise fun k k' =>
        applyOrder.idxOf k ≤ applyOrder.idxOf k' ∧ k ≠ k' := by decide
    apply hkinds.imp
    intro k k' hkk entry hentry entry' hentry'
    obtain ⟨obj, _, rfl⟩ := List.mem_map.mp hentry
    obtain ⟨obj', _, rfl⟩ := List.mem_map.mp hentry'
    exact ⟨hkk.1, fun heq => absurd heq hkk.2⟩

theorem mem_front {d : Desired} (h : d.Named) {front back : List Entry} {entry other : Entry}
    (hsplit : d.entries = front ++ entry :: back) (hother : other ∈ d.entries)
    (hne : other ≠ entry) (hnot : ¬Precedes entry other) : other ∈ front := by
  have hordered := entries_ordered h
  rw [hsplit] at hother hordered
  rcases List.mem_append.mp hother with hfront | hback
  · exact hfront
  · rcases List.mem_cons.mp hback with heq | hback
    · exact absurd heq hne
    · have htail := (List.pairwise_append.mp hordered).2.1
      exact absurd ((List.pairwise_cons.mp htail).1 other hback) hnot

theorem mem_front_of_kind {d : Desired} (h : d.Named) {front back : List Entry} {entry other : Entry}
    (hsplit : d.entries = front ++ entry :: back) (hother : other ∈ d.entries)
    (hkind : applyOrder.idxOf other.1 < applyOrder.idxOf entry.1) : other ∈ front := by
  apply mem_front h hsplit hother
  · rintro rfl
    exact absurd hkind (Nat.lt_irrefl _)
  · intro hprec
    exact absurd (Nat.lt_of_lt_of_le hkind hprec.1) (Nat.lt_irrefl _)

theorem mem_front_of_name {d : Desired} (h : d.Named) {front back : List Entry} {k : Kind}
    {name name' : String} {obj obj' : k.Obj} (hsplit : d.entries = front ++ ⟨k, obj⟩ :: back)
    (hobj : d.find k name = some obj) (hobj' : d.find k name' = some obj')
    (hlt : compare name' name = .lt) : ⟨k, obj'⟩ ∈ front := by
  apply mem_front h hsplit (Desired.mem_entries.mpr ⟨name', hobj'⟩)
  · intro heq
    obtain rfl : obj' = obj := eq_of_heq (Sigma.mk.inj heq).2
    obtain rfl : name = name' :=
      Option.some.inj ((h k name obj' hobj).symm.trans (h k name' obj' hobj'))
    simp at hlt
  · intro hprec
    have hgt := hprec.2 rfl name name' (h k name obj hobj) (h k name' obj' hobj')
    exact Std.OrientedCmp.not_lt_of_lt hgt hlt

/-- When the phase gets past an object, those of its kind with smaller names went well. -/
theorem attempted_of_name {cfg : Config} {env : Environment} {d : Desired} (h : d.Named)
    {entries : List Entry} (hp : entries <+: attemptedEntries cfg env d) {k : Kind}
    {name name' : String} {obj obj' : k.Obj} (hmem : ⟨k, obj⟩ ∈ entries)
    (hobj : d.find k name = some obj) (hobj' : d.find k name' = some obj')
    (hlt : compare name' name = .lt) :
    ⟨k, obj'⟩ ∈ entries ∧ applyResult cfg env ⟨k, obj'⟩ = .ok () := by
  obtain ⟨front, back, rfl⟩ := List.append_of_mem hmem
  obtain ⟨rest, hrest⟩ := hp
  obtain ⟨rest', hrest'⟩ := attemptedEntries_isPrefix cfg env d
  have hattempted : attemptedEntries cfg env d = front ++ ⟨k, obj⟩ :: (back ++ rest) := by
    rw [← hrest, List.append_assoc, List.cons_append]
  have hentries : d.entries = front ++ ⟨k, obj⟩ :: (back ++ rest ++ rest') := by
    rw [← hrest', hattempted, List.append_assoc, List.cons_append]
  have hfront := mem_front_of_name h hentries hobj hobj' hlt
  exact ⟨List.mem_append_left _ hfront, Program.attempted_front hattempted _ hfront⟩

end PangolinGateway
