import Mathlib.Data.List.Infix
import Mathlib.Tactic.Common

/-! # Loops in which a key goes to the first element that offers it

A step gives its element the keys it offers and nobody owns yet, and takes nothing away. After the
loop a key belongs to the first element that offers it. -/
namespace FirstClaim
set_option autoImplicit false

variable {S A K O : Type}

/-! ## The first element with a property -/

def First (P : A → Prop) (l : List A) (a : A) : Prop :=
  ∃ front back, l = front ++ a :: back ∧ P a ∧ ∀ b ∈ front, ¬P b

theorem First.holds {P : A → Prop} {l : List A} {a : A} (h : First P l a) : a ∈ l ∧ P a := by
  obtain ⟨front, back, rfl, ha, _⟩ := h
  exact ⟨by simp, ha⟩

theorem first_cons {P : A → Prop} {l : List A} {a b : A} :
    First P (a :: l) b ↔ (P a ∧ b = a) ∨ (¬P a ∧ First P l b) := by
  constructor
  · rintro ⟨front, back, hsplit, hb, hfront⟩
    cases front with
    | nil =>
      obtain ⟨rfl, _⟩ := List.cons.inj hsplit
      exact Or.inl ⟨hb, rfl⟩
    | cons c front =>
      obtain ⟨rfl, rfl⟩ := List.cons.inj hsplit
      exact Or.inr ⟨hfront _ List.mem_cons_self, front, back, rfl, hb,
        fun d hd => hfront d (List.mem_cons_of_mem _ hd)⟩
  · rintro (⟨ha, rfl⟩ | ⟨ha, front, back, rfl, hb, hfront⟩)
    · exact ⟨[], l, rfl, ha, by simp⟩
    · refine ⟨a :: front, back, rfl, hb, ?_⟩
      intro c hc
      rcases List.mem_cons.mp hc with rfl | hc
      · exact ha
      · exact hfront c hc

theorem exists_first {P : A → Prop} {l : List A} : (∃ a, First P l a) ↔ ∃ a ∈ l, P a := by
  constructor
  · rintro ⟨a, h⟩
    exact ⟨a, h.holds⟩
  · induction l with
    | nil => simp
    | cons b l ih =>
      rintro ⟨a, ha, hP⟩
      by_cases hb : P b
      · exact ⟨b, first_cons.mpr (Or.inl ⟨hb, rfl⟩)⟩
      · rcases List.mem_cons.mp ha with rfl | ha
        · exact absurd hP hb
        · obtain ⟨c, hc⟩ := ih ⟨a, ha, hP⟩
          exact ⟨c, first_cons.mpr (Or.inr ⟨hb, hc⟩)⟩

theorem First.unique {P : A → Prop} {l : List A} {a b : A} (ha : First P l a) (hb : First P l b) :
    a = b := by
  induction l with
  | nil => exact absurd ha.holds.1 (by simp)
  | cons c l ih =>
    rcases first_cons.mp ha with ⟨hc, rfl⟩ | ⟨hc, ha⟩ <;>
      rcases first_cons.mp hb with ⟨hc', rfl⟩ | ⟨hc', hb⟩
    · rfl
    · exact absurd hc hc'
    · exact absurd hc' hc
    · exact ih ha hb

/-! ## The loop -/

/-- `owner` is what a claim of an element is booked under. -/
def Claims (owns : S → K → O → Prop) (offers : A → K → Prop) (owner : A → O) (step : S → A → S) :
    Prop :=
  ∀ s a k o, owns (step s a) k o ↔
    owns s k o ∨ ((∀ o', ¬owns s k o') ∧ offers a k ∧ o = owner a)

theorem Claims.foldl {owns : S → K → O → Prop} {offers : A → K → Prop} {owner : A → O}
    {step : S → A → S} (h : Claims owns offers owner step) (l : List A) (s : S) (k : K) (o : O) :
    owns (l.foldl step s) k o ↔
      owns s k o ∨ ((∀ o', ¬owns s k o') ∧ ∃ a, First (offers · k) l a ∧ o = owner a) := by
  induction l generalizing s with
  | nil =>
    have hnone : ¬∃ a, First (offers · k) [] a ∧ o = owner a := by
      rintro ⟨a, ha, _⟩
      exact absurd ha.holds.1 (by simp)
    simp [hnone]
  | cons b l ih =>
    rw [List.foldl_cons, ih]
    by_cases hfree : ∀ o', ¬owns s k o'
    · by_cases hoffers : offers b k
      · -- `b` takes the key, so nobody after it can
        have htaken : ¬∀ o', ¬owns (step s b) k o' :=
          fun hno => hno (owner b) ((h s b k _).mpr (Or.inr ⟨hfree, hoffers, rfl⟩))
        simp [h s b k o, hfree, hoffers, htaken, first_cons]
      · have hstill : ∀ o', ¬owns (step s b) k o' := by
          intro o' ho'
          rcases (h s b k o').mp ho' with ho' | ⟨_, hoffers', _⟩
          · exact hfree o' ho'
          · exact hoffers hoffers'
        simp [hstill, hfree, hoffers, first_cons]
    · have htaken : ¬∀ o', ¬owns (step s b) k o' :=
        fun hno => hfree fun o' ho' => hno o' ((h s b k o').mpr (Or.inl ho'))
      simp only [h s b k o, hfree, htaken, false_and, or_false]

end FirstClaim
