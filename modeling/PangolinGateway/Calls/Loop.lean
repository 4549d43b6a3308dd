import PangolinGateway.Calls.Program

/-! # Sequences of fallible steps

`andThen` is Rust's `?` between two fallible programs, `forEach` a loop whose steps end in `?`: the
first error ends it. For steps that each make at most one change of the server and answer the same
from every state, the states a loop passes through are the changes of the prefixes of the steps it
attempts. -/
namespace Calls
set_option autoImplicit false

namespace Program
variable {C : Type} {R : C → Type} {S A ε α : Type}

def andThen (p q : Program C R (Except ε Unit)) : Program C R (Except ε Unit) :=
  p.bind fun
    | .ok () => q
    | .error e => done (.error e)

def forEach (step : A → Program C R (Except ε Unit)) : List A → Program C R (Except ε Unit)
  | [] => done (.ok ())
  | a :: l => (step a).andThen (forEach step l)

theorem andThen_assoc (p q r : Program C R (Except ε Unit)) :
    (p.andThen q).andThen r = p.andThen (q.andThen r) := by
  unfold andThen
  rw [bind_assoc]
  congr 1
  funext out
  cases out <;> rfl

theorem forEach_append (step : A → Program C R (Except ε Unit)) (l l' : List A) :
    forEach step (l ++ l') = (forEach step l).andThen (forEach step l') := by
  induction l with
  | nil => rfl
  | cons a l ih => rw [List.cons_append, forEach, ih, ← andThen_assoc, forEach]

theorem forEach_map {B : Type} (step : B → Program C R (Except ε Unit)) (f : A → B) (l : List A) :
    forEach step (l.map f) = forEach (fun a => step (f a)) l := by
  induction l with
  | nil => rfl
  | cons a l ih => rw [List.map_cons, forEach, ih, forEach]

variable (serve : Server C R S)

theorem run_andThen_ok {p q : Program C R (Except ε Unit)} {s : S}
    (h : (p.run serve s).1 = .ok ()) :
    (p.andThen q).run serve s = q.run serve (p.run serve s).2 := by
  rw [andThen, run_bind, h]

theorem run_andThen_error {p q : Program C R (Except ε Unit)} {s : S} {e : ε}
    (h : (p.run serve s).1 = .error e) :
    (p.andThen q).run serve s = (.error e, (p.run serve s).2) := by
  rw [andThen, run_bind, h]
  rfl

theorem mem_states_andThen_ok {p q : Program C R (Except ε Unit)} {s : S}
    (h : (p.run serve s).1 = .ok ()) (t : S) :
    t ∈ (p.andThen q).states serve s ↔
      t ∈ p.states serve s ∨ t ∈ q.states serve (p.run serve s).2 := by
  rw [andThen, mem_states_bind, h]

theorem mem_states_andThen_error {p q : Program C R (Except ε Unit)} {s : S} {e : ε}
    (h : (p.run serve s).1 = .error e) (t : S) :
    t ∈ (p.andThen q).states serve s ↔ t ∈ p.states serve s := by
  rw [andThen, mem_states_bind, h]
  simp only [states_done, List.mem_singleton, or_iff_left_iff_imp]
  rintro rfl
  exact final_mem_states serve p s

/-! ## Steps that make at most one change -/

/-- From every state `p` returns `out` and leaves `change` behind, with nothing in between. -/
structure Acts (p : Program C R α) (out : α) (change : S → S) : Prop where
  run : ∀ s, p.run serve s = (out, change s)
  states : ∀ s, ∀ t ∈ p.states serve s, t = s ∨ t = change s

variable {serve}

theorem Acts.done (a : α) : Acts serve (done a : Program C R α) a id where
  run _ := rfl
  states s t ht := by
    rw [states_done, List.mem_singleton] at ht
    exact Or.inl ht

theorem Acts.call {c : C} {next : R c → Program C R α} {out : α}
    (h : ∀ s, next (serve c s).1 = .done out) :
    Acts serve (.call c next) out (fun s => (serve c s).2) where
  run s := by rw [Program.run, h, run_done]
  states s t ht := by
    rw [Program.states, h, states_done, List.mem_cons, List.mem_singleton] at ht
    exact ht

theorem Acts.mem_states {p : Program C R α} {out : α} {change : S → S}
    (h : Acts serve p out change) (s t : S) :
    t ∈ p.states serve s ↔ t = s ∨ t = change s := by
  constructor
  · exact h.states s t
  · rintro (rfl | rfl)
    · exact start_mem_states serve p _
    · have hfinal := final_mem_states serve p s
      rwa [h.run s] at hfinal

/-- The steps a loop gets to: all of them, or up to the first that fails. -/
def attempted (out : A → Except ε Unit) : List A → List A
  | [] => []
  | a :: l => match out a with
    | .ok () => a :: attempted out l
    | .error _ => [a]

theorem attempted_isPrefix (out : A → Except ε Unit) (l : List A) : attempted out l <+: l := by
  induction l with
  | nil => exact List.prefix_rfl
  | cons a l ih =>
    rw [attempted]
    cases out a with
    | ok => exact (List.prefix_cons_inj a).mpr ih
    | error e => exact ⟨l, rfl⟩

theorem attempted_eq {out : A → Except ε Unit} {l : List A} (h : ∀ a ∈ l, out a = .ok ()) :
    attempted out l = l := by
  induction l with
  | nil => rfl
  | cons a l ih =>
    rw [attempted, h a List.mem_cons_self]
    simp only
    rw [ih fun b hb => h b (List.mem_cons_of_mem a hb)]

theorem attempted_front {out : A → Except ε Unit} {l front back : List A} {a : A}
    (h : attempted out l = front ++ a :: back) : ∀ b ∈ front, out b = .ok () := by
  induction l generalizing front with
  | nil => simp [attempted] at h
  | cons b l ih =>
    cases front with
    | nil => simp
    | cons c front =>
      rw [attempted] at h
      cases hout : out b with
      | ok =>
        simp only [hout, List.cons_append, List.cons.injEq] at h
        obtain ⟨rfl, hrest⟩ := h
        rintro d (_ | ⟨_, hd⟩)
        · exact hout
        · exact ih hrest d hd
      | error e => simp [hout] at h

variable {step : A → Program C R (Except ε Unit)} {out : A → Except ε Unit} {change : A → S → S}

/-- A loop over steps that act ends well exactly when each of them does, with the changes of the
steps it attempted. -/
theorem run_forEach {l : List A} (h : ∀ a ∈ l, Acts serve (step a) (out a) (change a)) (s : S) :
    (((forEach step l).run serve s).1 = .ok () ↔ ∀ a ∈ l, out a = .ok ()) ∧
      ((forEach step l).run serve s).2 = (attempted out l).foldl (fun s a => change a s) s := by
  induction l generalizing s with
  | nil => simp [forEach, attempted]
  | cons a l ih =>
    have ha := (h a List.mem_cons_self).run s
    have hl := ih (fun b hb => h b (List.mem_cons_of_mem a hb)) (change a s)
    cases hout : out a with
    | ok =>
      rw [forEach, run_andThen_ok serve (by rw [ha, hout]), ha]
      simp only [attempted, hout, List.mem_cons, forall_eq_or_imp, true_and, List.foldl_cons]
      exact hl
    | error e =>
      rw [forEach, run_andThen_error serve (by rw [ha, hout]), ha]
      simp [attempted, hout]

theorem mem_states_forEach {l : List A} (h : ∀ a ∈ l, Acts serve (step a) (out a) (change a))
    (s t : S) : t ∈ (forEach step l).states serve s ↔
      ∃ l', l' <+: attempted out l ∧ t = l'.foldl (fun s a => change a s) s := by
  induction l generalizing s with
  | nil => simp [forEach, attempted]
  | cons a l ih =>
    have ha := h a List.mem_cons_self
    have hl := ih (fun b hb => h b (List.mem_cons_of_mem a hb)) (change a s)
    cases hout : out a with
    | ok =>
      rw [forEach, mem_states_andThen_ok serve (by rw [ha.run, hout]), ha.run, hl, ha.mem_states]
      simp only [attempted, hout]
      constructor
      · rintro ((rfl | rfl) | ⟨l', hl', rfl⟩)
        · exact ⟨[], List.nil_prefix, rfl⟩
        · exact ⟨[a], (List.prefix_cons_inj a).mpr List.nil_prefix, rfl⟩
        · exact ⟨a :: l', (List.prefix_cons_inj a).mpr hl', rfl⟩
      · rintro ⟨l', hl', rfl⟩
        rcases List.prefix_cons_iff.mp hl' with rfl | ⟨l'', rfl, hl''⟩
        · exact Or.inl (Or.inl rfl)
        · exact Or.inr ⟨l'', hl'', rfl⟩
    | error e =>
      rw [forEach, mem_states_andThen_error serve (by rw [ha.run, hout]), ha.mem_states]
      simp only [attempted, hout]
      constructor
      · rintro (rfl | rfl)
        · exact ⟨[], List.nil_prefix, rfl⟩
        · exact ⟨[a], List.prefix_rfl, rfl⟩
      · rintro ⟨l', hl', rfl⟩
        rcases List.prefix_cons_iff.mp hl' with rfl | ⟨l'', rfl, hl''⟩
        · exact Or.inl rfl
        · rw [List.prefix_nil.mp hl'']
          exact Or.inr rfl

end Program
end Calls
