import Mathlib.Data.List.Basic
import PangolinGateway.Text.Str

/-! # Splitting at a separator

The pieces of a split do not hold the separator, and a text splits into `w` and further pieces in
one way only: it is `w`, the separator, and a text that splits into the further pieces. -/
namespace Split
set_option autoImplicit false

variable {T : Type} [DecidableEq T] {a : T}

theorem not_mem_of_mem_splitOn {s w : List T} (h : w ∈ s.splitOn a) : a ∉ w := by
  induction s generalizing w with
  | nil =>
    obtain rfl : w = [] := by simpa using h
    simp
  | cons x s ih =>
    rw [List.splitOn_cons_eq_if_modifyHead] at h
    obtain ⟨v, vs, hsplit⟩ := List.exists_cons_of_ne_nil (List.splitOn_ne_nil a s)
    rw [hsplit] at h ih
    split at h
    · obtain rfl | hmem := List.mem_cons.mp h
      · simp
      · exact ih hmem
    · next hx =>
      obtain rfl | hmem := List.mem_cons.mp h
      · have hv := ih List.mem_cons_self
        have hne : a ≠ x := fun heq => hx (by simp [heq])
        simp [hne, hv]
      · exact ih (List.mem_cons_of_mem _ hmem)

omit [DecidableEq T] in
theorem subset_intercalate {sep w : List T} {ws : List (List T)} (h : w ∈ ws) :
    w ⊆ sep.intercalate ws := by
  induction ws with
  | nil => cases h
  | cons v ws ih =>
    cases ws with
    | nil =>
      rw [List.mem_singleton.mp h, List.intercalate_singleton]
      exact List.Subset.refl v
    | cons v' ws =>
      rw [List.intercalate_cons_cons]
      obtain rfl | hmem := List.mem_cons.mp h
      · exact List.subset_append_of_subset_left _ (List.subset_append_left _ _)
      · exact List.subset_append_of_subset_right _ (ih hmem)

theorem subset_of_mem_splitOn {s w : List T} (h : w ∈ s.splitOn a) : w ⊆ s := by
  have hjoin : [a].intercalate (s.splitOn a) = s := List.intercalate_splitOn a
  rw [← hjoin]
  exact subset_intercalate h

theorem splitOn_eq_singleton_iff {s w : List T} : s.splitOn a = [w] ↔ s = w ∧ a ∉ w := by
  constructor
  · intro h
    have hjoin : [a].intercalate (s.splitOn a) = s := List.intercalate_splitOn a
    rw [h, List.intercalate_singleton] at hjoin
    exact ⟨hjoin.symm, not_mem_of_mem_splitOn (by rw [h]; exact List.mem_singleton_self w)⟩
  · rintro ⟨rfl, hw⟩
    exact List.splitOn_eq_singleton hw

theorem splitOn_eq_cons_iff {s w v : List T} {vs : List (List T)} :
    s.splitOn a = w :: v :: vs ↔ ∃ t, s = w ++ a :: t ∧ a ∉ w ∧ t.splitOn a = v :: vs := by
  constructor
  · intro h
    have hmem : ∀ u ∈ w :: v :: vs, a ∉ u := fun u hu => not_mem_of_mem_splitOn (by rwa [h])
    have hjoin : [a].intercalate (s.splitOn a) = s := List.intercalate_splitOn a
    rw [h, List.intercalate_cons_cons] at hjoin
    refine ⟨[a].intercalate (v :: vs), by simp [← hjoin], hmem w List.mem_cons_self, ?_⟩
    exact List.splitOn_intercalate a (fun u hu => hmem u (List.mem_cons_of_mem _ hu)) (by simp)
  · rintro ⟨t, rfl, hw, ht⟩
    rw [List.splitOn_append_cons_self_of_not_mem hw, ht]

/-- What follows the first piece: nothing, or the separator and the rest. -/
theorem splitOn_head_iff {s w : List T} :
    (∃ vs, s.splitOn a = w :: vs) ↔ a ∉ w ∧ ∃ t, s = w ++ t ∧ (t = [] ∨ t.head? = some a) := by
  constructor
  · rintro ⟨vs, h⟩
    cases vs with
    | nil =>
      obtain ⟨rfl, hw⟩ := splitOn_eq_singleton_iff.mp h
      exact ⟨hw, [], by simp⟩
    | cons v vs =>
      obtain ⟨t, rfl, hw, _⟩ := splitOn_eq_cons_iff.mp h
      exact ⟨hw, a :: t, by simp⟩
  · rintro ⟨hw, t, rfl, ht⟩
    cases t with
    | nil => exact ⟨[], by rw [List.append_nil, List.splitOn_eq_singleton hw]⟩
    | cons b t =>
      obtain rfl : b = a := by simpa using ht
      exact ⟨t.splitOn b, List.splitOn_append_cons_self_of_not_mem hw t⟩

end Split

namespace Str

theorem splitOnce_singleton_iff {c : Char} {s before after : List Char} :
    splitOnce [c] s = some (before, after) ↔ s = before ++ c :: after ∧ c ∉ before := by
  induction s generalizing before with
  | nil => simp [splitOnce]
  | cons d s ih =>
    by_cases h : c = d
    · subst h
      simp only [splitOnce, List.isPrefixOf?, beq_self_eq_true, if_true, Option.some.injEq,
        Prod.mk.injEq]
      constructor
      · rintro ⟨rfl, rfl⟩
        simp
      · rintro ⟨heq, hc⟩
        cases before with
        | nil => simpa using heq
        | cons b before =>
          obtain ⟨rfl, _⟩ := List.cons.inj heq
          simp at hc
    · simp only [splitOnce, List.isPrefixOf?, beq_false_of_ne h, Bool.false_eq_true, if_false]
      constructor
      · intro hmap
        obtain ⟨⟨front, rest⟩, hsplit, heq⟩ := Option.map_eq_some_iff.mp hmap
        obtain ⟨rfl, rfl⟩ := Prod.mk.inj heq
        obtain ⟨rfl, hc⟩ := ih.mp hsplit
        simp [h, hc]
      · rintro ⟨heq, hc⟩
        cases before with
        | nil => exact absurd (List.cons.inj heq).1.symm h
        | cons b before =>
          obtain ⟨rfl, hs⟩ := List.cons.inj heq
          rw [ih.mpr ⟨hs, fun hmem => hc (List.mem_cons_of_mem _ hmem)⟩]
          rfl

theorem rsplitOnce_iff {c : Char} {s before after : List Char} :
    rsplitOnce c s = some (before, after) ↔ s = before ++ c :: after ∧ c ∉ after := by
  unfold rsplitOnce
  rw [Option.map_eq_some_iff]
  constructor
  · rintro ⟨⟨front, rest⟩, hsplit, heq⟩
    obtain ⟨rfl, rfl⟩ := Prod.mk.inj heq
    obtain ⟨hs, hc⟩ := splitOnce_singleton_iff.mp hsplit
    refine ⟨?_, by simpa using hc⟩
    rw [← List.reverse_reverse s, hs]
    simp
  · rintro ⟨rfl, hc⟩
    refine ⟨(after.reverse, before.reverse), splitOnce_singleton_iff.mpr ⟨by simp, by simpa using hc⟩, ?_⟩
    simp

end Str
