import PangolinGateway.Calls.Loop
import Mathlib.Logic.Function.Basic
import Mathlib.Logic.Relation

/-! # Several programs on one server

A step of a system is the next call of one of its programs; the server answers it in one of the ways
in `E`. `Keeps` speaks about one program among others: as long as each step of the others is in
`rely`, each of its own is in `guar`, and `post` holds of the result whenever it is looked at. -/
namespace Calls
set_option autoImplicit false
open Relation

variable {ι E C S A ε α β : Type} {R : C → Type}

structure System (ι C : Type) (R : C → Type) (α S : Type) where
  programs : ι → Program C R α
  state : S

namespace System
variable [DecidableEq ι]

/-- Party `i` makes its next call. -/
inductive Step (serve : E → Server C R S) (i : ι) (sys : System ι C R α S) :
    System ι C R α S → Prop
  | call {c : C} {next : R c → Program C R α} (e : E) (h : sys.programs i = .call c next) :
      Step serve i sys ⟨Function.update sys.programs i (next (serve e c sys.state).1),
        (serve e c sys.state).2⟩

def Reaches (serve : E → Server C R S) : System ι C R α S → System ι C R α S → Prop :=
  ReflTransGen fun sys sys' => ∃ i, Step serve i sys sys'

end System

namespace Program

def Keeps (serve : E → Server C R S) (rely guar : S → S → Prop) :
    Program C R α → (α → S → Prop) → S → Prop
  | done a, post, s => ∀ s', ReflTransGen rely s s' → post a s'
  | call c next, post, s => ∀ s', ReflTransGen rely s s' → ∀ e,
      guar s' (serve e c s').2 ∧
        (next (serve e c s').1).Keeps serve rely guar post (serve e c s').2

/-- The others leave `I` alone. -/
def Stable (rely : S → S → Prop) (I : S → Prop) : Prop := ∀ s s', rely s s' → I s → I s'

variable {serve : E → Server C R S} {rely guar : S → S → Prop} {I : S → Prop}

theorem Stable.later (hI : Stable rely I) {s s' : S} (hs : ReflTransGen rely s s') (h : I s) :
    I s' := by
  induction hs with
  | refl => exact h
  | tail _ hstep ih => exact hI _ _ hstep ih

theorem Keeps.later {p : Program C R α} {post : α → S → Prop} {s s' : S}
    (h : p.Keeps serve rely guar post s) (hs : ReflTransGen rely s s') :
    p.Keeps serve rely guar post s' := by
  cases p with
  | done a => exact fun t ht => h t (hs.trans ht)
  | call c next => exact fun t ht => h t (hs.trans ht)

/-! ## One program -/

theorem Keeps.done {a : α} {post : α → S → Prop} {s : S} (hI : Stable rely I) (h : I s)
    (hpost : ∀ s', I s' → post a s') : (done a : Program C R α).Keeps serve rely guar post s :=
  fun s' hs => hpost s' (hI.later hs h)

theorem Keeps.call {c : C} {next : R c → Program C R α} {post : α → S → Prop} {s : S}
    (hI : Stable rely I) (h : I s)
    (hcall : ∀ s' e, I s' → guar s' (serve e c s').2 ∧
      (next (serve e c s').1).Keeps serve rely guar post (serve e c s').2) :
    (call c next).Keeps serve rely guar post s :=
  fun s' hs e => hcall s' e (hI.later hs h)

theorem Keeps.bind {p : Program C R α} {f : α → Program C R β} {mid : α → S → Prop}
    {post : β → S → Prop} {s : S} (hp : p.Keeps serve rely guar mid s)
    (hf : ∀ a s', mid a s' → (f a).Keeps serve rely guar post s') :
    (p.bind f).Keeps serve rely guar post s := by
  induction p generalizing s with
  | done a => exact hf a s (hp s .refl)
  | call c next ih =>
    intro s' hs e
    obtain ⟨hguar, hnext⟩ := hp s' hs e
    exact ⟨hguar, ih _ hnext⟩

theorem Keeps.mono {p : Program C R α} {post post' : α → S → Prop} {s : S}
    (h : p.Keeps serve rely guar post s) (hpost : ∀ a s', post a s' → post' a s') :
    p.Keeps serve rely guar post' s := by
  induction p generalizing s with
  | done a => exact fun s' hs => hpost a s' (h s' hs)
  | call c next ih =>
    intro s' hs e
    obtain ⟨hguar, hnext⟩ := h s' hs e
    exact ⟨hguar, ih _ hnext⟩

theorem Keeps.andThen {p q : Program C R (Except ε Unit)} {s : S} (hI : Stable rely I)
    (hp : p.Keeps serve rely guar (fun _ => I) s)
    (hq : ∀ s', I s' → q.Keeps serve rely guar (fun _ => I) s') :
    (p.andThen q).Keeps serve rely guar (fun _ => I) s := by
  refine hp.bind fun out s' hs => ?_
  cases out with
  | ok _ => exact hq s' hs
  | error e => exact .done hI hs fun _ h => h

theorem Keeps.forEach {step : A → Program C R (Except ε Unit)} {l : List A} (hI : Stable rely I)
    (h : ∀ a ∈ l, ∀ s, I s → (step a).Keeps serve rely guar (fun _ => I) s) {s : S} (hs : I s) :
    (forEach step l).Keeps serve rely guar (fun _ => I) s := by
  induction l generalizing s with
  | nil => exact .done hI hs fun _ h => h
  | cons a l ih =>
    exact .andThen hI (h a List.mem_cons_self s hs) fun s' hs' =>
      ih (fun b hb => h b (List.mem_cons_of_mem a hb)) hs'

end Program

/-! ## All programs together -/

namespace System
variable [DecidableEq ι] {serve : E → Server C R S} {start sys sys' : System ι C R α S} {i : ι}

theorem Step.guar {rely guar : S → S → Prop} {post : α → S → Prop}
    (h : (sys.programs i).Keeps serve rely guar post sys.state) (hstep : Step serve i sys sys') :
    guar sys.state sys'.state ∧ (sys'.programs i).Keeps serve rely guar post sys'.state := by
  obtain ⟨e, hcall⟩ := hstep
  rw [hcall] at h
  obtain ⟨hguar, hnext⟩ := h sys.state .refl e
  simp only [Function.update_self]
  exact ⟨hguar, hnext⟩

theorem Step.other (hstep : Step serve i sys sys') {j : ι} (hj : j ≠ i) :
    sys'.programs j = sys.programs j := by
  obtain ⟨e, _⟩ := hstep
  exact Function.update_of_ne hj _ _

theorem other_along (hs : ReflTransGen (Step serve i) sys sys') {j : ι} (hj : j ≠ i) :
    sys'.programs j = sys.programs j := by
  induction hs with
  | refl => rfl
  | tail _ hstep ih => exact (hstep.other hj).trans ih

/-- What each program guarantees is what the others rely on, so all of them keep what they do. -/
theorem Reaches.keeps {rely guar : ι → S → S → Prop} {post : ι → α → S → Prop}
    (hcompat : ∀ i j, j ≠ i → ∀ s s', guar i s s' → rely j s s')
    (h : ∀ i, (start.programs i).Keeps serve (rely i) (guar i) (post i) start.state)
    (hr : start.Reaches serve sys) :
    ∀ i, (sys.programs i).Keeps serve (rely i) (guar i) (post i) sys.state := by
  induction hr with
  | refl => exact h
  | tail _ hstep ih =>
    obtain ⟨i, hstep⟩ := hstep
    intro j
    obtain ⟨hguar, hnext⟩ := hstep.guar (ih i)
    by_cases hj : j = i
    · subst hj
      exact hnext
    · rw [hstep.other hj]
      exact (ih j).later (.single (hcompat i j hj _ _ hguar))

/-- Party `i` alone runs through the first part of its program. -/
theorem solo (e : E) (p : Program C R β) (f : β → Program C R α) (sys : System ι C R α S)
    (h : sys.programs i = p.bind f) :
    ReflTransGen (Step serve i) sys
      ⟨Function.update sys.programs i (f (p.run (serve e) sys.state).1),
        (p.run (serve e) sys.state).2⟩ := by
  induction p generalizing sys with
  | done a =>
    have hsame : (⟨Function.update sys.programs i (f a), sys.state⟩ : System ι C R α S) = sys := by
      rw [show f a = sys.programs i from h.symm, Function.update_eq_self]
    rw [Program.run, hsame]
  | call c next ih =>
    have hfirst : Step serve i sys _ := .call e h
    refine .head hfirst ?_
    have hrest := ih (serve e c sys.state).1 ⟨Function.update sys.programs i
      (((next (serve e c sys.state).1).bind f)), (serve e c sys.state).2⟩ (Function.update_self ..)
    rw [Function.update_idem] at hrest
    exact hrest

/-- What every step of `i` keeps still holds after some steps of `i`. -/
theorem Reaches.along {P : S → Prop}
    (hkeep : ∀ sys₁ sys₂, start.Reaches serve sys₁ → Step serve i sys₁ sys₂ → P sys₁.state →
      P sys₂.state)
    (hr : start.Reaches serve sys) (hs : ReflTransGen (Step serve i) sys sys') :
    start.Reaches serve sys' ∧ (P sys.state → P sys'.state) := by
  induction hs with
  | refl => exact ⟨hr, id⟩
  | tail _ hstep ih =>
    obtain ⟨hreach, hP⟩ := ih
    exact ⟨hreach.tail ⟨i, hstep⟩, fun h => hkeep _ _ hreach hstep (hP h)⟩

end System
end Calls
