import Mathlib.Data.List.Infix
import Mathlib.Tactic.Common

/-! # Runs of a machine with inputs

A machine makes an event and the next state of a state and an input, and may end there. The turns
of a run are its record. Invariants speak about the state and the turns that led to it, so that a
property of the whole history needs no variable of its own in the state. -/
namespace Runs
set_option autoImplicit false

structure Machine (S I E : Type) where
  next : S → I → E × S
  ends : I → E → Bool

structure Turn (S I E : Type) where
  before : S
  input : I
  event : E
  after : S

variable {S I E B : Type}

namespace Machine

def turn (m : Machine S I E) (s : S) (i : I) : Turn S I E := ⟨s, i, (m.next s i).1, (m.next s i).2⟩

def turns (m : Machine S I E) : List I → S → List (Turn S I E)
  | [], _ => []
  | i :: inputs, s =>
    m.turn s i :: if m.ends i (m.next s i).1 then [] else m.turns inputs (m.next s i).2

/-- In the run on `inputs` from `s`, `t` comes right after `past`. -/
def Occurs (m : Machine S I E) (inputs : List I) (s : S) (past : List (Turn S I E))
    (t : Turn S I E) : Prop :=
  ∃ rest, m.turns inputs s = past ++ t :: rest

/-- An invariant of history and state that every turn keeps holds around every turn of a run. -/
theorem invariant_from (m : Machine S I E) {Good : List (Turn S I E) → Turn S I E → Prop}
    {Inv : List (Turn S I E) → S → Prop}
    (hstep : ∀ past s i, Inv past s → Good past (m.turn s i) →
      Inv (past ++ [m.turn s i]) (m.next s i).2)
    (inputs : List I) (s : S) (before : List (Turn S I E)) (hinit : Inv before s)
    (hgood : ∀ past t, m.Occurs inputs s past t → Good (before ++ past) t)
    {past : List (Turn S I E)} {t : Turn S I E} (ht : m.Occurs inputs s past t) :
    t = m.turn t.before t.input ∧ Inv (before ++ past) t.before := by
  induction inputs generalizing s before past with
  | nil =>
    obtain ⟨rest, hrest⟩ := ht
    simp [turns] at hrest
  | cons i inputs ih =>
    obtain ⟨rest, hrest⟩ := ht
    rw [turns] at hrest
    cases past with
    | nil =>
      obtain ⟨rfl, _⟩ := List.cons.inj hrest
      exact ⟨rfl, by rwa [List.append_nil]⟩
    | cons t₀ past =>
      obtain ⟨rfl, htail⟩ := List.cons.inj hrest
      by_cases hends : m.ends i (m.next s i).1 = true
      · simp [hends] at htail
      · rw [if_neg hends] at htail
        have hfirst : Good before (m.turn s i) := by
          have h := hgood [] (m.turn s i) ⟨_, rfl⟩
          rwa [List.append_nil] at h
        have hrest' : ∀ past' t', m.Occurs inputs (m.next s i).2 past' t' →
            Good (before ++ [m.turn s i] ++ past') t' := by
          rintro past' t' ⟨rest', hrest'⟩
          have h := hgood (m.turn s i :: past') t'
            ⟨rest', by rw [turns, if_neg hends, hrest', List.cons_append]⟩
          rwa [List.append_assoc, List.singleton_append]
        have h := ih _ (before ++ [m.turn s i]) (hstep before s i hinit hfirst) hrest'
          ⟨rest, htail⟩
        rwa [List.append_assoc, List.singleton_append] at h

theorem invariant (m : Machine S I E) (Good : List (Turn S I E) → Turn S I E → Prop)
    {Inv : List (Turn S I E) → S → Prop}
    (hstep : ∀ past s i, Inv past s → Good past (m.turn s i) →
      Inv (past ++ [m.turn s i]) (m.next s i).2)
    {inputs : List I} {s : S} (hinit : Inv [] s)
    (hgood : ∀ past t, m.Occurs inputs s past t → Good past t)
    {past : List (Turn S I E)} {t : Turn S I E} (ht : m.Occurs inputs s past t) :
    t = m.turn t.before t.input ∧ Inv past t.before :=
  m.invariant_from hstep inputs s [] hinit hgood ht

theorem Occurs.eq_turn {m : Machine S I E} {inputs : List I} {s : S} {past : List (Turn S I E)}
    {t : Turn S I E} (h : m.Occurs inputs s past t) : t = m.turn t.before t.input :=
  (@invariant _ _ _ m (fun _ _ => True) (fun _ _ => True) (fun _ _ _ _ _ => trivial) _ _ trivial
    (fun _ _ _ => trivial) _ _ h).1

theorem Occurs.earlier {m : Machine S I E} {inputs : List I} {s : S} {past : List (Turn S I E)}
    {t : Turn S I E} (h : m.Occurs inputs s past t) {front back : List (Turn S I E)}
    {t' : Turn S I E} (hpast : past = front ++ t' :: back) : m.Occurs inputs s front t' := by
  obtain ⟨rest, hrest⟩ := h
  exact ⟨back ++ t :: rest, by rw [hrest, hpast, List.append_assoc, List.cons_append]⟩

theorem Occurs.before_first {m : Machine S I E} {inputs : List I} {s : S} {t : Turn S I E}
    (h : m.Occurs inputs s [] t) : t.before = s := by
  obtain ⟨rest, hrest⟩ := h
  cases inputs with
  | nil => simp [turns] at hrest
  | cons i inputs =>
    rw [turns] at hrest
    obtain ⟨rfl, _⟩ := List.cons.inj hrest
    rfl

/-- Between two turns in a row the machine goes on from the state it reached. -/
theorem Occurs.before_next {m : Machine S I E} {inputs : List I} {s : S} {past : List (Turn S I E)}
    {t' t : Turn S I E} (h : m.Occurs inputs s (past ++ [t']) t) :
    m.ends t'.input t'.event = false ∧ t.before = t'.after := by
  induction inputs generalizing s past with
  | nil =>
    obtain ⟨rest, hrest⟩ := h
    simp [turns] at hrest
  | cons i inputs ih =>
    obtain ⟨rest, hrest⟩ := h
    rw [turns] at hrest
    by_cases hends : m.ends i (m.next s i).1 = true
    · have hlength := congrArg List.length hrest
      simp [hends] at hlength
      omega
    · rw [if_neg hends] at hrest
      cases past with
      | nil =>
        obtain ⟨rfl, htail⟩ := List.cons.inj hrest
        exact ⟨Bool.eq_false_iff.mpr hends, before_first ⟨rest, htail⟩⟩
      | cons t₀ past =>
        obtain ⟨_, htail⟩ := List.cons.inj hrest
        exact ih ⟨rest, htail⟩

theorem Occurs.of_one {m : Machine S I E} {inputs : List I} {s : S} {t₁ : Turn S I E}
    (h : m.turns inputs s = [t₁]) {past : List (Turn S I E)} {t : Turn S I E}
    (ht : m.Occurs inputs s past t) : past = [] ∧ t = t₁ := by
  obtain ⟨rest, hrest⟩ := ht
  rw [h] at hrest
  cases past with
  | nil => exact ⟨rfl, (List.cons.inj hrest).1.symm⟩
  | cons _ _ => simp at hrest

theorem Occurs.of_three {m : Machine S I E} {inputs : List I} {s : S} {t₁ t₂ t₃ : Turn S I E}
    (h : m.turns inputs s = [t₁, t₂, t₃]) {past : List (Turn S I E)} {t : Turn S I E}
    (ht : m.Occurs inputs s past t) :
    (past = [] ∧ t = t₁) ∨ (past = [t₁] ∧ t = t₂) ∨ (past = [t₁, t₂] ∧ t = t₃) := by
  obtain ⟨rest, hrest⟩ := ht
  rw [h] at hrest
  rcases past with _ | ⟨a, _ | ⟨b, _ | ⟨c, past⟩⟩⟩ <;> simp at hrest
  · exact Or.inl ⟨rfl, hrest.1.symm⟩
  · exact Or.inr (Or.inl ⟨by rw [hrest.1], hrest.2.1.symm⟩)
  · exact Or.inr (Or.inr ⟨by rw [hrest.1, hrest.2.1], hrest.2.2.1.symm⟩)

theorem Occurs.input_mem {m : Machine S I E} {inputs : List I} {s : S} {past : List (Turn S I E)}
    {t : Turn S I E} (h : m.Occurs inputs s past t) : t.input ∈ inputs := by
  have hmem : ∀ (inputs : List I) (s : S), ∀ t ∈ m.turns inputs s, t.input ∈ inputs := by
    intro inputs
    induction inputs with
    | nil => simp [turns]
    | cons i inputs ih =>
      intro s t ht
      rw [turns, List.mem_cons] at ht
      rcases ht with rfl | ht
      · exact List.mem_cons_self
      · split at ht
        · simp at ht
        · exact List.mem_cons_of_mem i (ih _ t ht)
  obtain ⟨rest, hrest⟩ := h
  exact hmem inputs s t (by rw [hrest]; simp)

end Machine

/-! ## The latest of a history -/

/-- The last value that `f` reads off the history. -/
def latest {T : Type} (f : T → Option B) (past : List T) : Option B :=
  past.foldl (fun acc t => (f t).or acc) none

@[simp] theorem latest_nil {T : Type} (f : T → Option B) : latest f [] = none := rfl

@[simp] theorem latest_concat {T : Type} (f : T → Option B) (past : List T) (t : T) :
    latest f (past ++ [t]) = (f t).or (latest f past) := by
  simp [latest, List.foldl_append]

end Runs
