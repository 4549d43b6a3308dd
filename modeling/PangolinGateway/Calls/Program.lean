import Mathlib.Data.List.Infix
import Mathlib.Tactic.Common

/-! # Programs that talk to a server through calls

A program is a finite tree: it returns, or it makes a call and goes on with the reply. A server
answers a call from its state. `run` is the result and the last state, `states` every state the
server passes through, `log` the calls with their replies in order. -/
namespace Calls
set_option autoImplicit false

inductive Program (C : Type) (R : C → Type) (α : Type) where
  | done (a : α)
  | call (c : C) (next : R c → Program C R α)

abbrev Server (C : Type) (R : C → Type) (S : Type) := (c : C) → S → R c × S

namespace Program
variable {C : Type} {R : C → Type} {S α β : Type}

def bind : Program C R α → (α → Program C R β) → Program C R β
  | done a, f => f a
  | call c next, f => call c fun r => (next r).bind f

def run (serve : Server C R S) : Program C R α → S → α × S
  | done a, s => (a, s)
  | call c next, s => (next (serve c s).1).run serve (serve c s).2

def states (serve : Server C R S) : Program C R α → S → List S
  | done _, s => [s]
  | call c next, s => s :: (next (serve c s).1).states serve (serve c s).2

def log (serve : Server C R S) : Program C R α → S → List ((c : C) × R c)
  | done _, _ => []
  | call c next, s => ⟨c, (serve c s).1⟩ :: (next (serve c s).1).log serve (serve c s).2

/-! ## Sequencing -/

theorem bind_assoc {γ : Type} (p : Program C R α) (f : α → Program C R β)
    (g : β → Program C R γ) : (p.bind f).bind g = p.bind fun a => (f a).bind g := by
  induction p with
  | done a => rfl
  | call c next ih =>
    simp only [bind]
    congr 1
    funext r
    exact ih r

variable (serve : Server C R S)

@[simp] theorem run_done (a : α) (s : S) : (done a : Program C R α).run serve s = (a, s) := rfl

@[simp] theorem run_bind (p : Program C R α) (f : α → Program C R β) (s : S) :
    (p.bind f).run serve s = (f (p.run serve s).1).run serve (p.run serve s).2 := by
  induction p generalizing s with
  | done a => rfl
  | call c next ih => exact ih _ _

@[simp] theorem states_done (a : α) (s : S) : (done a : Program C R α).states serve s = [s] := rfl

theorem start_mem_states (p : Program C R α) (s : S) : s ∈ p.states serve s := by
  cases p <;> simp [states]

theorem final_mem_states (p : Program C R α) (s : S) : (p.run serve s).2 ∈ p.states serve s := by
  induction p generalizing s with
  | done a => simp [states]
  | call c next ih => exact List.mem_cons_of_mem _ (ih _ _)

/-- The last state of the first part is the first state of the second, so it is counted twice. -/
theorem mem_states_bind (p : Program C R α) (f : α → Program C R β) (s t : S) :
    t ∈ (p.bind f).states serve s ↔
      t ∈ p.states serve s ∨ t ∈ (f (p.run serve s).1).states serve (p.run serve s).2 := by
  induction p generalizing s with
  | done a =>
    simp only [bind, states, run, List.mem_singleton]
    constructor
    · exact Or.inr
    · rintro (rfl | h)
      · exact start_mem_states serve _ _
      · exact h
  | call c next ih => simp only [bind, states, run, List.mem_cons, ih, or_assoc]

@[simp] theorem log_done (a : α) (s : S) : (done a : Program C R α).log serve s = [] := rfl

@[simp] theorem log_bind (p : Program C R α) (f : α → Program C R β) (s : S) :
    (p.bind f).log serve s =
      p.log serve s ++ (f (p.run serve s).1).log serve (p.run serve s).2 := by
  induction p generalizing s with
  | done a => rfl
  | call c next ih => simp only [bind, log, run, ih, List.cons_append]

theorem reply_of_mem_log (p : Program C R α) (s : S) {entry : (c : C) × R c}
    (h : entry ∈ p.log serve s) : ∃ s', entry.2 = (serve entry.1 s').1 := by
  induction p generalizing s with
  | done a => simp at h
  | call c next ih =>
    rcases List.mem_cons.mp h with rfl | h
    · exact ⟨s, rfl⟩
    · exact ih _ _ h

end Program
end Calls
