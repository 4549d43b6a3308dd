import Mathlib.Data.List.Infix
import Mathlib.Tactic.Common

/-! # Loops that write to a store and never read it back

A step over a state and a store is framed when the state alone decides what it does: it moves the
state on and puts a list of writes on the store. A loop of framed steps leaves the writes of its
visits, each element being visited in the state that the elements before it lead to. -/
namespace WriteLog
set_option autoImplicit false

variable {S D A W : Type}

def visits (next : S → A → S) : S → List A → List (S × A)
  | _, [] => []
  | s, a :: l => (s, a) :: visits next (next s a) l

theorem mem_visits {next : S → A → S} {l : List A} {s s' : S} {a : A} :
    (s', a) ∈ visits next s l ↔
      ∃ front back, l = front ++ a :: back ∧ s' = front.foldl next s := by
  induction l generalizing s with
  | nil => simp [visits]
  | cons b l ih =>
    rw [visits, List.mem_cons, ih]
    constructor
    · rintro (h | ⟨front, back, rfl, rfl⟩)
      · obtain ⟨rfl, rfl⟩ := Prod.mk.inj h
        exact ⟨[], l, rfl, rfl⟩
      · exact ⟨b :: front, back, rfl, rfl⟩
    · rintro ⟨front, back, hsplit, rfl⟩
      cases front with
      | nil =>
        obtain ⟨rfl, _⟩ := List.cons.inj hsplit
        exact Or.inl rfl
      | cons c front =>
        obtain ⟨rfl, rfl⟩ := List.cons.inj hsplit
        exact Or.inr ⟨front, back, rfl, rfl⟩

theorem visits_map_snd (next : S → A → S) (s : S) (l : List A) :
    (visits next s l).map Prod.snd = l := by
  induction l generalizing s with
  | nil => rfl
  | cons a l ih => rw [visits, List.map_cons, ih]

/-- An element that is alone with its key is visited once. -/
theorem visits_unique {K : Type} {key : A → K} {next : S → A → S} {l : List A} {s s₁ s₂ : S}
    {a₁ a₂ : A} (hnodup : (l.map key).Nodup) (h₁ : (s₁, a₁) ∈ visits next s l)
    (h₂ : (s₂, a₂) ∈ visits next s l) (hkey : key a₁ = key a₂) : (s₁, a₁) = (s₂, a₂) := by
  induction l generalizing s with
  | nil => simp [visits] at h₁
  | cons b l ih =>
    obtain ⟨hfresh, hnodup⟩ := List.nodup_cons.mp hnodup
    have hlater : ∀ {t : S} {a : A}, (t, a) ∈ visits next (next s b) l → key a ≠ key b := by
      intro t a hmem heq
      obtain ⟨front, back, rfl, _⟩ := mem_visits.mp hmem
      exact hfresh (heq ▸ List.mem_map_of_mem (by simp))
    rcases List.mem_cons.mp h₁ with h₁ | h₁
    · rcases List.mem_cons.mp h₂ with h₂ | h₂
      · rw [h₁, h₂]
      · obtain ⟨rfl, rfl⟩ := Prod.mk.inj h₁
        exact absurd hkey.symm (hlater h₂)
    · rcases List.mem_cons.mp h₂ with h₂ | h₂
      · obtain ⟨rfl, rfl⟩ := Prod.mk.inj h₂
        exact absurd hkey (hlater h₁)
      · exact ih hnodup h₁ h₂

/-- The writes of a step that looks at its element only. -/
theorem flatMap_visits (next : S → A → S) (s : S) (l : List A) (writes : A → List W) :
    (visits next s l).flatMap (fun visit => writes visit.2) = l.flatMap writes := by
  conv_rhs => rw [← visits_map_snd next s l, List.flatMap_map]

def Framed (put : D → W → D) (step : S × D → A → S × D) (next : S → A → S)
    (writes : S → A → List W) : Prop :=
  ∀ s d a, step (s, d) a = (next s a, (writes s a).foldl put d)

theorem Framed.foldl {put : D → W → D} {step : S × D → A → S × D} {next : S → A → S}
    {writes : S → A → List W} (h : Framed put step next writes) (l : List A) (s : S) (d : D) :
    l.foldl step (s, d) = (l.foldl next s,
      ((visits next s l).flatMap fun visit => writes visit.1 visit.2).foldl put d) := by
  induction l generalizing s d with
  | nil => rfl
  | cons a l ih =>
    rw [List.foldl_cons, h s d a, ih, visits, List.flatMap_cons, List.foldl_append]
    rfl

/-! ## The last write of a key -/

section Last
variable {K : Type} {key : W → K}

/-- `w` is written, and nothing under its key after it. -/
def Last (key : W → K) (log : List W) (w : W) : Prop :=
  ∃ front back, log = front ++ w :: back ∧ ∀ v ∈ back, key v ≠ key w

theorem Last.mem {log : List W} {w : W} (h : Last key log w) : w ∈ log := by
  obtain ⟨front, back, rfl, _⟩ := h
  simp

@[simp] theorem not_last_nil (w : W) : ¬Last key [] w := by
  rintro ⟨front, back, hsplit, _⟩
  simp at hsplit

theorem last_append {xs ys : List W} {w : W} : Last key (xs ++ ys) w ↔
    Last key ys w ∨ (Last key xs w ∧ ∀ v ∈ ys, key v ≠ key w) := by
  constructor
  · rintro ⟨front, back, hsplit, hback⟩
    rcases List.append_eq_append_iff.mp hsplit with ⟨mid, rfl, hys⟩ | ⟨mid, hxs, hmid⟩
    · exact Or.inl ⟨mid, back, hys, hback⟩
    · cases mid with
      | nil =>
        exact Or.inl ⟨[], back, by simpa using hmid.symm, hback⟩
      | cons v mid =>
        obtain ⟨rfl, rfl⟩ := List.cons.inj hmid
        refine Or.inr ⟨⟨front, mid, hxs, ?_⟩, ?_⟩
        · exact fun u hu => hback u (List.mem_append_left _ hu)
        · exact fun u hu => hback u (List.mem_append_right _ hu)
  · rintro (⟨front, back, rfl, hback⟩ | ⟨⟨front, back, rfl, hback⟩, hys⟩)
    · exact ⟨xs ++ front, back, by simp, hback⟩
    · refine ⟨front, back ++ ys, by simp, ?_⟩
      intro v hv
      rcases List.mem_append.mp hv with hv | hv
      · exact hback v hv
      · exact hys v hv

theorem last_singleton {v w : W} : Last key [v] w ↔ v = w := by
  constructor
  · intro h
    exact (List.mem_singleton.mp h.mem).symm
  · rintro rfl
    exact ⟨[], [], rfl, by simp⟩

/-- Where no key is written twice, every write is the last of its key. -/
theorem last_of_nodup {log : List W} (h : (log.map key).Nodup) {w : W} :
    Last key log w ↔ w ∈ log := by
  constructor
  · exact Last.mem
  · intro hw
    obtain ⟨front, back, rfl⟩ := List.append_of_mem hw
    refine ⟨front, back, rfl, ?_⟩
    intro v hv heq
    rw [List.map_append, List.map_cons] at h
    have hfresh := (List.nodup_cons.mp (List.nodup_append.mp h).2.1).1
    exact hfresh (heq ▸ List.mem_map_of_mem hv)

/-- Writes that cannot have the key do not matter. -/
theorem last_filter {p : W → Bool} {log : List W} {w : W}
    (hp : ∀ v, key v = key w → p v = true) : Last key (log.filter p) w ↔ Last key log w := by
  induction log using List.reverseRecOn with
  | nil => simp
  | append_singleton log v ih =>
    rw [List.filter_append, last_append, last_append, ih, last_singleton]
    by_cases hv : p v = true
    · rw [List.filter_cons_of_pos hv, List.filter_nil, last_singleton]
    · have hkey : key v ≠ key w := fun heq => hv (hp v heq)
      have hne : v ≠ w := fun heq => hkey (heq ▸ rfl)
      simp [hv, hkey, hne]

/-- The last write of a key in a log of sorted writers, none of which writes a key twice: no later
writer writes the key. -/
theorem last_flatMap {R : A → A → Prop} (hasymm : ∀ a b, R a b → ¬R b a) {l : List A}
    (hsorted : l.Pairwise R) {writes : A → List W}
    (hnodup : ∀ a ∈ l, ((writes a).map key).Nodup) {w : W} : Last key (l.flatMap writes) w ↔
      ∃ a ∈ l, w ∈ writes a ∧ ∀ b ∈ l, R a b → ∀ v ∈ writes b, key v ≠ key w := by
  induction l using List.reverseRecOn with
  | nil => simp
  | append_singleton l c ih =>
    obtain ⟨hfront, _, hlast⟩ := List.pairwise_append.mp hsorted
    have hbefore : ∀ a ∈ l, R a c := fun a ha => hlast a ha c (List.mem_singleton_self c)
    have ih := ih hfront fun a ha => hnodup a (List.mem_append_left _ ha)
    rw [List.flatMap_append, List.flatMap_singleton, last_append,
      last_of_nodup (hnodup c (by simp)), ih]
    constructor
    · rintro (hw | ⟨⟨a, ha, hw, hlater⟩, hc⟩)
      · refine ⟨c, by simp, hw, ?_⟩
        intro b hb hcb
        rcases List.mem_append.mp hb with hb | hb
        · exact absurd hcb (hasymm _ _ (hbefore b hb))
        · rw [List.mem_singleton.mp hb] at hcb
          exact absurd hcb (hasymm _ _ hcb)
      · refine ⟨a, List.mem_append_left _ ha, hw, ?_⟩
        intro b hb hab
        rcases List.mem_append.mp hb with hb | hb
        · exact hlater b hb hab
        · rw [List.mem_singleton.mp hb]
          exact hc
    · rintro ⟨a, ha, hw, hlater⟩
      rcases List.mem_append.mp ha with ha | ha
      · refine Or.inr ⟨⟨a, ha, hw, ?_⟩, ?_⟩
        · exact fun b hb => hlater b (List.mem_append_left _ hb)
        · exact hlater c (by simp) (hbefore a ha)
      · rw [List.mem_singleton.mp ha] at hw
        exact Or.inl hw

end Last

end WriteLog
