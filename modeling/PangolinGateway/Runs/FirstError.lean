import Mathlib.Tactic.Common
import PangolinGateway.Maps.FirstClaim

/-! # Checks made one after the other

A computation that stops with its first error makes a list of checks. When each check says what it
reports, the computation succeeds when none reports anything, and otherwise its error is that of the
first which does. -/
namespace FirstError
open FirstClaim
set_option autoImplicit false

variable {E A B : Type}

/-- Something is reported. -/
def Reported (fault : E → Prop) : Prop := ∃ e, fault e

/-- The computation stops with what the first of the checks reports. -/
structure Reports (x : Except E A) (faults : List (E → Prop)) : Prop where
  passed : ∀ a, x = .ok a → ∀ fault ∈ faults, ¬Reported fault
  stopped : ∀ e, x = .error e →
    ∃ fault, First Reported faults fault ∧ fault e ∧ ∀ e', fault e' → e' = e

theorem Reports.ok (a : A) : Reports (.ok a : Except E A) [] :=
  ⟨fun _ _ => by simp, fun _ h => by cases h⟩

/-- One check, by its two outcomes. -/
theorem Reports.one {x : Except E A} {fault : E → Prop} (hok : ∀ a, x = .ok a → ¬Reported fault)
    (herror : ∀ e, x = .error e → fault e ∧ ∀ e', fault e' → e' = e) : Reports x [fault] := by
  constructor
  · intro a ha
    simpa using hok a ha
  · intro e he
    obtain ⟨hfault, hunique⟩ := herror e he
    exact ⟨fault, ⟨[], [], rfl, ⟨e, hfault⟩, by simp⟩, hfault, hunique⟩

/-- A computation and one that goes on with its result. -/
theorem Reports.bind {x : Except E A} {f : A → Except E B} {faults rest : List (E → Prop)}
    (hx : Reports x faults) (hf : ∀ a, x = .ok a → Reports (f a) rest) :
    Reports (x >>= f) (faults ++ rest) := by
  cases x with
  | error e =>
    constructor
    · intro b hb
      cases hb
    · intro e' he'
      obtain rfl : e = e' := Except.error.inj he'
      obtain ⟨fault, ⟨front, back, rfl, hfirst⟩, hfault⟩ := hx.stopped e rfl
      exact ⟨fault, ⟨front, back ++ rest, by simp, hfirst⟩, hfault⟩
  | ok a =>
    have hpassed := hx.passed a rfl
    constructor
    · intro b hb fault hfault
      rcases List.mem_append.mp hfault with hfault | hfault
      · exact hpassed fault hfault
      · exact (hf a rfl).passed b hb fault hfault
    · intro e he
      obtain ⟨fault, ⟨front, back, rfl, hreported, hfront⟩, hfault⟩ := (hf a rfl).stopped e he
      refine ⟨fault, ⟨faults ++ front, back, by simp, hreported, fun p hp => ?_⟩, hfault⟩
      rcases List.mem_append.mp hp with hp | hp
      · exact hpassed p hp
      · exact hfront p hp

theorem Reports.ok_iff {x : Except E A} {faults : List (E → Prop)} (h : Reports x faults) :
    (∃ a, x = .ok a) ↔ ∀ fault ∈ faults, ¬Reported fault := by
  constructor
  · rintro ⟨a, ha⟩
    exact h.passed a ha
  · intro hnone
    cases x with
    | ok a => exact ⟨a, rfl⟩
    | error e =>
      obtain ⟨fault, hfirst, _⟩ := h.stopped e rfl
      exact absurd hfirst.holds.2 (hnone fault hfirst.holds.1)

theorem Reports.error_iff {x : Except E A} {faults : List (E → Prop)} (h : Reports x faults)
    (e : E) : x = .error e ↔ ∃ fault, First Reported faults fault ∧ fault e := by
  constructor
  · intro he
    obtain ⟨fault, hfirst, hfault, _⟩ := h.stopped e he
    exact ⟨fault, hfirst, hfault⟩
  · rintro ⟨fault, hfirst, hfault⟩
    cases x with
    | ok a => exact absurd hfirst.holds.2 (h.passed a rfl fault hfirst.holds.1)
    | error e' =>
      obtain ⟨fault', hfirst', _, hunique⟩ := h.stopped e' rfl
      obtain rfl := hfirst.unique hfirst'
      rw [hunique e hfault]

end FirstError
