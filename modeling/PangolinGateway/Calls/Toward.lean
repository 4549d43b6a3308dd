import PangolinGateway.Calls.Interleave

/-! # Programs that move the places of a state toward a goal

A state shows a value at each place. A step is toward the goal when each place keeps its value or
takes that of the goal; a place at the goal then stays there, whoever takes the steps, so what each
of several programs brings about is still there when the others have run. -/
namespace Calls
set_option autoImplicit false
open Relation

section Toward
variable {S P : Type} {V : P → Type} (view : S → (p : P) → V p) (goal : (p : P) → V p)

def Toward (s s' : S) : Prop := ∀ p, view s' p = view s p ∨ view s' p = goal p

variable {view goal}

theorem Toward.refl (s : S) : Toward view goal s s := fun _ => Or.inl rfl

theorem Toward.trans {s t u : S} (h : Toward view goal s t) (h' : Toward view goal t u) :
    Toward view goal s u := by
  intro p
  rcases h' p with hkept | hgoal
  · rw [hkept]
    exact h p
  · exact Or.inr hgoal

theorem Toward.kept {s s' : S} (h : Toward view goal s s') {p : P} (hp : view s p = goal p) :
    view s' p = goal p :=
  (h p).elim (fun hkept => hkept.trans hp) id

/-- A step toward a goal that is already reached does nothing. -/
theorem Toward.eq {s s' : S} (h : Toward view goal s s') (hs : ∀ p, view s p = goal p) :
    ∀ p, view s' p = view s p :=
  fun p => (h.kept (hs p)).trans (hs p).symm

/-- After `start`, on the way to the goal. -/
theorem stable_toward (start : S) :
    Program.Stable (Toward view goal) (Toward view goal start) :=
  fun _ _ hstep h => h.trans hstep

theorem stable_at (places : P → Prop) :
    Program.Stable (Toward view goal) fun s => ∀ p, places p → view s p = goal p :=
  fun _ _ hstep h p hp => hstep.kept (h p hp)

end Toward

/-! ## What a program has brought about -/

namespace Program
variable {E C S A ε α : Type} {R : C → Type} {serve : E → Server C R S} {rely guar : S → S → Prop}

/-- What neither the others nor the program itself can undo is still there at the end. -/
theorem Keeps.retain {Q : S → Prop} (hrely : Stable rely Q) (hguar : Stable guar Q)
    {p : Program C R α} {post : α → S → Prop} {s : S} (h : p.Keeps serve rely guar post s)
    (hs : Q s) : p.Keeps serve rely guar (fun a s' => post a s' ∧ Q s') s := by
  induction p generalizing s with
  | done a => exact fun s' hrun => ⟨h s' hrun, hrely.later hrun hs⟩
  | call c next ih =>
    intro s' hrun e
    obtain ⟨hstep, hnext⟩ := h s' hrun e
    exact ⟨hstep, ih _ hnext (hguar _ _ hstep (hrely.later hrun hs))⟩

theorem Keeps.narrow {E' : Type} (answers : E' → E) {p : Program C R α} {post : α → S → Prop} {s : S}
    (h : p.Keeps serve rely guar post s) :
    p.Keeps (fun e => serve (answers e)) rely guar post s := by
  induction p generalizing s with
  | done a => exact h
  | call c next ih =>
    intro s' hrun e
    obtain ⟨hguar, hnext⟩ := h s' hrun (answers e)
    exact ⟨hguar, ih _ hnext⟩

/-- A program that has returned has brought about its postcondition. -/
theorem Keeps.returned {p : Program C R α} {post : α → S → Prop} {s : S} {a : α}
    (h : p.Keeps serve rely guar post s) (hdone : p = .done a) : post a s := by
  rw [hdone] at h
  exact h s .refl

/-- Also a program that runs alone ends with its postcondition. -/
theorem Keeps.run {p : Program C R α} {post : α → S → Prop} {s : S}
    (h : p.Keeps serve rely guar post s) (e : E) :
    post (p.run (serve e) s).1 (p.run (serve e) s).2 := by
  induction p generalizing s with
  | done a => exact h s .refl
  | call c next ih => exact ih _ (h s .refl e).2

/-- Rust's `?` after a program that succeeds. -/
theorem Keeps.andThen_ok {p q : Program C R (Except ε Unit)} {mid : S → Prop}
    {post : Except ε Unit → S → Prop} {s : S}
    (hp : p.Keeps serve rely guar (fun out s' => out = .ok () ∧ mid s') s)
    (hq : ∀ s', mid s' → q.Keeps serve rely guar post s') :
    (p.andThen q).Keeps serve rely guar post s := by
  refine hp.bind fun out s' hpost => ?_
  obtain ⟨rfl, hs'⟩ := hpost
  exact hq s' hs'

/-- A loop whose steps succeed, each bringing about what nobody undoes, has brought it all about. -/
theorem Keeps.forEach_each {step : A → Program C R (Except ε Unit)} {I : S → Prop}
    {Q : A → S → Prop} {l : List A} (hI : Stable rely I)
    (hrely : ∀ a ∈ l, Stable rely (Q a)) (hguar : ∀ a ∈ l, Stable guar (Q a))
    (h : ∀ a ∈ l, ∀ s, I s → (step a).Keeps serve rely guar
      (fun out s' => out = .ok () ∧ I s' ∧ Q a s') s) {s : S} (hs : I s) :
    (Program.forEach step l).Keeps serve rely guar
      (fun out s' => out = .ok () ∧ I s' ∧ ∀ a ∈ l, Q a s') s := by
  induction l generalizing s with
  | nil => exact .done hI hs fun s' hs' => ⟨rfl, hs', by simp⟩
  | cons a l ih =>
    refine (h a List.mem_cons_self s hs).andThen_ok fun s' hpost => ?_
    obtain ⟨hs', ha⟩ := hpost
    have hrest := ih (fun b hb => hrely b (List.mem_cons_of_mem a hb))
      (fun b hb => hguar b (List.mem_cons_of_mem a hb))
      (fun b hb => h b (List.mem_cons_of_mem a hb)) hs'
    refine (hrest.retain (hrely a List.mem_cons_self) (hguar a List.mem_cons_self) ha).mono ?_
    rintro out' t ⟨⟨rfl, ht, hl⟩, ha'⟩
    exact ⟨rfl, ht, List.forall_mem_cons.mpr ⟨ha', hl⟩⟩

end Program

/-! ## Parties that are answered differently -/

namespace System
variable {ι E C S P α : Type} {R : C → Type} {V : P → Type} [DecidableEq ι]

/-- Some calls are made, those of party `i` answered in the ways of `serves i`. -/
def Mixes (serves : ι → E → Server C R S) : System ι C R α S → System ι C R α S → Prop :=
  ReflTransGen fun sys sys' => ∃ i, Step (serves i) i sys sys'

variable {serves : ι → E → Server C R S} {view : S → (p : P) → V p} {goal : (p : P) → V p}
  {start sys : System ι C R α S} {post : ι → α → S → Prop}

/-- Programs that all move toward one goal do so together, and each still brings about what it does
alone. -/
theorem Mixes.toward
    (h : ∀ i, (start.programs i).Keeps (serves i) (Toward view goal) (Toward view goal) (post i)
      start.state)
    (hr : start.Mixes serves sys) :
    Toward view goal start.state sys.state ∧
      ∀ i, (sys.programs i).Keeps (serves i) (Toward view goal) (Toward view goal) (post i)
        sys.state := by
  induction hr with
  | refl => exact ⟨.refl _, h⟩
  | tail _ hstep ih =>
    obtain ⟨htoward, hkeeps⟩ := ih
    obtain ⟨i, hstep⟩ := hstep
    obtain ⟨hmove, hnext⟩ := hstep.guar (hkeeps i)
    refine ⟨htoward.trans hmove, fun j => ?_⟩
    by_cases hj : j = i
    · subst hj
      exact hnext
    · rw [hstep.other hj]
      exact (hkeeps j).later (.single hmove)

theorem Reaches.toward {serve : E → Server C R S}
    (h : ∀ i, (start.programs i).Keeps serve (Toward view goal) (Toward view goal) (post i)
      start.state)
    (hr : start.Reaches serve sys) :
    Toward view goal start.state sys.state ∧
      ∀ i, (sys.programs i).Keeps serve (Toward view goal) (Toward view goal) (post i) sys.state := by
  have hmixes : start.Mixes (fun _ => serve) sys := hr
  exact hmixes.toward h

/-- A party that goes on alone returns. -/
theorem solo_returns (serves : ι → E → Server C R S) (e : E) (i : ι) (sys : System ι C R α S) :
    ∃ sys', ReflTransGen (Step (serves i) i) sys sys' ∧
      sys'.programs i = .done ((sys.programs i).run (serves i e) sys.state).1 ∧
      sys'.state = ((sys.programs i).run (serves i e) sys.state).2 := by
  have hbind : sys.programs i = (sys.programs i).bind .done := by
    induction sys.programs i with
    | done a => rfl
    | call c next ih =>
      rw [Program.bind]
      congr 1
      funext r
      exact ih r
  exact ⟨_, solo e (sys.programs i) .done sys hbind, Function.update_self .., rfl⟩

theorem Mixes.along {i : ι} {sys' : System ι C R α S} (hr : start.Mixes serves sys)
    (hs : ReflTransGen (Step (serves i) i) sys sys') : start.Mixes serves sys' :=
  ReflTransGen.trans hr (hs.lift id fun _ _ hstep => ⟨i, hstep⟩)

end System
end Calls
