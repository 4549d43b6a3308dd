import Mathlib.Data.List.Infix
import PangolinGateway.Text.Split

/-! # Paths and their elements

A rooted text is empty or starts with the separator, and its elements are the pieces after each
separator. Joining the elements gives the text back, so an element-wise prefix of a rooted text is a
rooted text that a rooted rest follows. -/
namespace PathElements
set_option autoImplicit false

variable {T : Type}

/-! ## Rooted texts -/

section Rooted
variable (a : T)

def Rooted (s : List T) : Prop := ∀ c ∈ s.head?, c = a

@[simp] theorem rooted_nil : Rooted a [] := by simp [Rooted]

@[simp] theorem rooted_cons {c : T} {s : List T} : Rooted a (c :: s) ↔ c = a := by simp [Rooted]

variable {a}

theorem Rooted.append {s t : List T} (hs : Rooted a s) (ht : Rooted a t) : Rooted a (s ++ t) := by
  cases s with
  | nil => exact ht
  | cons c s => simpa using hs

theorem Rooted.cases {s : List T} (h : Rooted a s) : s = [] ∨ ∃ t, s = a :: t := by
  cases s with
  | nil => exact Or.inl rfl
  | cons c s =>
    obtain rfl := (rooted_cons a).mp h
    exact Or.inr ⟨s, rfl⟩

theorem Rooted.dropLast {s : List T} (h : Rooted a s) : Rooted a s.dropLast := by
  obtain rfl | ⟨t, rfl⟩ := h.cases
  · simp
  · cases t <;> simp

end Rooted

variable [DecidableEq T] (a : T)

/-- The text without one separator at its end. -/
def trimLast (s : List T) : List T := if s.getLast? = some a then s.dropLast else s

theorem Rooted.trimLast {a : T} {s : List T} (h : Rooted a s) : Rooted a (trimLast a s) := by
  unfold PathElements.trimLast
  split
  · exact h.dropLast
  · exact h

theorem trimLast_eq_nil_iff {s : List T} (hne : s ≠ []) : trimLast a s = [] ↔ s = [a] := by
  unfold trimLast
  constructor
  · intro h
    split at h
    · next hlast =>
      rw [← List.dropLast_append_getLast? a hlast, h, List.nil_append]
    · exact absurd h hne
  · rintro rfl
    simp

/-! ## Elements -/

def elements (s : List T) : List (List T) := (s.splitOn a).tail

omit [DecidableEq T] in
def render (es : List (List T)) : List T := es.flatMap (a :: ·)

@[simp] theorem elements_nil : elements a [] = [] := by simp [elements]

theorem elements_cons (s : List T) : elements a (a :: s) = s.splitOn a := by
  unfold elements
  rw [← List.nil_append (a :: s), List.splitOn_append_cons_self]
  simp

omit [DecidableEq T] in
theorem rooted_render (es : List (List T)) : Rooted a (render a es) := by
  cases es <;> simp [render]

omit [DecidableEq T] in
theorem render_append (es fs : List (List T)) : render a (es ++ fs) = render a es ++ render a fs :=
  List.flatMap_append

omit [DecidableEq T] in
theorem render_intercalate (e : List T) (es : List (List T)) :
    render a (e :: es) = a :: [a].intercalate (e :: es) := by
  induction es generalizing e with
  | nil => simp [render]
  | cons f es ih =>
    have hcons : render a (e :: f :: es) = a :: e ++ render a (f :: es) := rfl
    rw [hcons, ih f, List.intercalate_cons_cons]
    simp

variable {a}

theorem render_elements {s : List T} (hs : Rooted a s) : render a (elements a s) = s := by
  obtain rfl | ⟨t, rfl⟩ := hs.cases
  · simp [render]
  · obtain ⟨e, es, hsplit⟩ := List.exists_cons_of_ne_nil (List.splitOn_ne_nil a t)
    have hjoin : [a].intercalate (t.splitOn a) = t := List.intercalate_splitOn a
    rw [elements_cons, hsplit, render_intercalate, ← hsplit, hjoin]

theorem elements_append {s t : List T} (hs : Rooted a s) (ht : Rooted a t) :
    elements a (s ++ t) = elements a s ++ elements a t := by
  obtain rfl | ⟨s, rfl⟩ := hs.cases
  · simp
  · obtain rfl | ⟨t, rfl⟩ := ht.cases
    · simp
    · rw [List.cons_append, elements_cons, elements_cons, elements_cons,
        List.splitOn_append_cons_self]

/-- The elements of `s` start with those of `x`. -/
theorem elements_prefix_iff {x s : List T} (hx : Rooted a x) (hs : Rooted a s) :
    elements a x <+: elements a s ↔ ∃ rest, Rooted a rest ∧ s = x ++ rest := by
  constructor
  · rintro ⟨es, hes⟩
    refine ⟨render a es, rooted_render a es, ?_⟩
    rw [← render_elements hs, ← hes, render_append, render_elements hx]
  · rintro ⟨rest, hrest, rfl⟩
    rw [elements_append hx hrest]
    exact List.prefix_append _ _

/-! ## Replacing a prefix -/

variable (a)

/-- A path is never empty. -/
def orRoot (s : List T) : List T := if s = [] then [a] else s

/-- The first elements of `s`, as many as `x` has, become those of `value`. -/
def replacePrefix (x value s : List T) : List T :=
  orRoot a (render a (elements a value ++ (elements a s).drop (elements a x).length))

variable {a}

theorem replacePrefix_append {x value rest : List T} (hx : Rooted a x) (hvalue : Rooted a value)
    (hrest : Rooted a rest) :
    replacePrefix a x value (x ++ rest) = orRoot a (value ++ rest) := by
  unfold replacePrefix
  rw [elements_append hx hrest, List.drop_left, render_append, render_elements hvalue,
    render_elements hrest]

end PathElements
