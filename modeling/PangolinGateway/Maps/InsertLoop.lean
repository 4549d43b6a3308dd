import Mathlib.Data.List.Infix
import Mathlib.Tactic.Common

/-! # Loops that insert into an ordered map

`insertAll f l m` is the loop over `l` that inserts what `f` makes of each element and skips the
elements it makes nothing of. The value under a key is that of the key's last writer. -/
namespace InsertLoop
set_option autoImplicit false

variable {K V A : Type}

/-- A loop keeps what each of its steps keeps. -/
theorem foldl_keeps {S P : Type} (proj : S → P) {step : S → A → S}
    (hstep : ∀ s a, proj (step s a) = proj s) (l : List A) (s : S) :
    proj (l.foldl step s) = proj s := by
  induction l generalizing s with
  | nil => rfl
  | cons a l ih => rw [List.foldl_cons, ih, hstep]

/-- What a loop collects, when each step adds what its element contributes. -/
theorem foldl_collects {S : Type} {P : S → Prop} {Q : A → Prop} {step : S → A → S}
    (hstep : ∀ s a, P (step s a) ↔ P s ∨ Q a) (l : List A) (s : S) :
    P (l.foldl step s) ↔ P s ∨ ∃ a ∈ l, Q a := by
  induction l generalizing s with
  | nil => simp
  | cons a l ih =>
    rw [List.foldl_cons, ih, hstep]
    simp [or_assoc]

/-! ## The last writer of a key -/

section Writers
variable [DecidableEq K]

/-- The last element of `l` that `f` maps to an entry under `k`. -/
def lastWriter (f : A → Option (K × V)) (k : K) (l : List A) : Option A :=
  l.reverse.find? fun a => (f a).any fun entry => entry.1 = k

variable (f : A → Option (K × V))

@[simp] theorem lastWriter_nil (k : K) : lastWriter f k [] = none := rfl

theorem lastWriter_concat (k : K) (l : List A) (a : A) :
    lastWriter f k (l ++ [a]) =
      if (f a).any (fun entry => entry.1 = k) then some a else lastWriter f k l := by
  simp only [lastWriter, List.reverse_append, List.reverse_singleton, List.singleton_append,
    List.find?_cons]
  split <;> simp_all

theorem lastWriter_some {k : K} {l : List A} {a : A} (h : lastWriter f k l = some a) :
    a ∈ l ∧ ∃ v, f a = some (k, v) := by
  have hp := List.find?_some h
  refine ⟨List.mem_reverse.mp (List.mem_of_find?_eq_some h), ?_⟩
  cases hf : f a with
  | none => simp [hf] at hp
  | some entry =>
    have hk : entry.1 = k := by simpa [hf] using hp
    exact ⟨entry.2, by rw [← hk]⟩

theorem lastWriter_isSome {k : K} {l : List A} {a : A} {v : V} (ha : a ∈ l)
    (hf : f a = some (k, v)) : ∃ b, lastWriter f k l = some b := by
  rw [← Option.isSome_iff_exists, lastWriter, List.find?_isSome]
  exact ⟨a, List.mem_reverse.mpr ha, by simp [hf]⟩

/-- Whatever writes the key after an element that comes last does not write it. -/
theorem lastWriter_later {R : A → A → Prop} (hasymm : ∀ a b, R a b → ¬ R b a) {k : K} {l : List A}
    (hsorted : l.Pairwise R) {a : A} (h : lastWriter f k l = some a) {b : A} (hb : b ∈ l)
    (hab : R a b) (v : V) : f b ≠ some (k, v) := by
  induction l using List.reverseRecOn with
  | nil => cases hb
  | append_singleton l c ih =>
    obtain ⟨hfront, _, hlast⟩ := List.pairwise_append.mp hsorted
    have hbefore : ∀ d ∈ l, R d c := fun d hd => hlast d hd c (List.mem_singleton_self c)
    rw [lastWriter_concat] at h
    split at h
    · -- the last element of the list is the writer, and nothing comes after it
      obtain rfl := Option.some.inj h
      obtain hb | hb := List.mem_append.mp hb
      · exact absurd (hbefore b hb) (hasymm _ _ hab)
      · rw [List.mem_singleton.mp hb] at hab
        exact absurd hab (hasymm _ _ hab)
    · next hc =>
      obtain hb | hb := List.mem_append.mp hb
      · exact ih hfront h hb
      · rw [List.mem_singleton.mp hb]
        intro hf
        exact hc (by simp [hf])

theorem lastWriter_of_later {R : A → A → Prop} {k : K} {l : List A} (hsorted : l.Pairwise R)
    {a : A} {v : V} (ha : a ∈ l) (hf : f a = some (k, v))
    (hlater : ∀ b ∈ l, R a b → ∀ w, f b ≠ some (k, w)) : lastWriter f k l = some a := by
  induction l using List.reverseRecOn with
  | nil => cases ha
  | append_singleton l c ih =>
    obtain ⟨hfront, _, hlast⟩ := List.pairwise_append.mp hsorted
    rw [lastWriter_concat]
    obtain ha | ha := List.mem_append.mp ha
    · have hc : ∀ w, f c ≠ some (k, w) :=
        hlater c (by simp) (hlast a ha c (List.mem_singleton_self c))
      have hother : ¬ (f c).any (fun entry => entry.1 = k) = true := by
        cases hfc : f c with
        | none => simp
        | some entry =>
          intro hk
          have hk : entry.1 = k := by simpa using hk
          exact hc entry.2 (by rw [hfc, ← hk])
      rw [if_neg hother]
      exact ih hfront ha fun b hb => hlater b (List.mem_append_left _ hb)
    · obtain rfl := List.mem_singleton.mp ha
      simp [hf]

end Writers

/-! ## The loop -/

variable [Ord K] [Std.TransOrd K]

def insertAll (f : A → Option (K × V)) (l : List A) (m : Std.ExtTreeMap K V) :
    Std.ExtTreeMap K V :=
  l.foldl (fun m a => match f a with
    | some (k, v) => m.insert k v
    | none => m) m

variable (f : A → Option (K × V))

@[simp] theorem insertAll_nil (m : Std.ExtTreeMap K V) : insertAll f [] m = m := rfl

theorem insertAll_concat (l : List A) (a : A) (m : Std.ExtTreeMap K V) :
    insertAll f (l ++ [a]) m = match f a with
      | some (k, v) => (insertAll f l m).insert k v
      | none => insertAll f l m := by
  simp [insertAll, List.foldl_append]

theorem foldl_insertAll (l : List A) (m : Std.ExtTreeMap K V) :
    l.foldl (fun m a => insertAll f [a] m) m = insertAll f l m := rfl

variable [Std.LawfulEqOrd K] [DecidableEq K]

theorem getElem?_insertAll (l : List A) (m : Std.ExtTreeMap K V) (k : K) :
    (insertAll f l m)[k]? = match lastWriter f k l with
      | some a => (f a).map Prod.snd
      | none => m[k]? := by
  induction l using List.reverseRecOn with
  | nil => rfl
  | append_singleton l a ih =>
    rw [insertAll_concat, lastWriter_concat]
    cases hf : f a with
    | none => simpa using ih
    | some entry =>
      obtain ⟨k', v⟩ := entry
      rw [Std.ExtTreeMap.getElem?_insert]
      by_cases hk : k' = k
      · subst hk
        simp [hf]
      · have hne : compare k' k ≠ .eq := fun h => hk (Std.LawfulEqCmp.eq_of_compare h)
        simpa [hne, hk] using ih

theorem insertAll_entry {l : List A} {m : Std.ExtTreeMap K V} {k : K} {v : V}
    (h : (insertAll f l m)[k]? = some v) : m[k]? = some v ∨ ∃ a ∈ l, f a = some (k, v) := by
  rw [getElem?_insertAll] at h
  cases hw : lastWriter f k l with
  | none =>
    rw [hw] at h
    exact Or.inl h
  | some a =>
    obtain ⟨ha, v', hv'⟩ := lastWriter_some f hw
    rw [hw] at h
    have hv : v' = v := by simpa [hv'] using h
    exact Or.inr ⟨a, ha, by rw [hv', hv]⟩

theorem insertAll_written {l : List A} (m : Std.ExtTreeMap K V) {k : K} {a : A} {v : V}
    (ha : a ∈ l) (hf : f a = some (k, v)) :
    ∃ b ∈ l, ∃ w, f b = some (k, w) ∧ (insertAll f l m)[k]? = some w := by
  obtain ⟨b, hb⟩ := lastWriter_isSome f ha hf
  obtain ⟨hbl, w, hw⟩ := lastWriter_some f hb
  exact ⟨b, hbl, w, hw, by rw [getElem?_insertAll, hb]; simp [hw]⟩

/-- When the elements write one value per key, the order does not matter. -/
theorem getElem?_insertAll_iff {l : List A} {P : K → V → Prop}
    (hwrites : ∀ k v, P k v ↔ ∃ a ∈ l, f a = some (k, v))
    (hunique : ∀ k v w, P k v → P k w → v = w) (k : K) (v : V) :
    (insertAll f l ∅)[k]? = some v ↔ P k v := by
  constructor
  · intro h
    rcases insertAll_entry f h with hempty | hentry
    · simp at hempty
    · exact (hwrites k v).mpr hentry
  · intro h
    obtain ⟨a, ha, hf⟩ := (hwrites k v).mp h
    obtain ⟨b, hb, w, hw, hlookup⟩ := insertAll_written f ∅ ha hf
    rw [hlookup, hunique k v w h ((hwrites k w).mpr ⟨b, hb, hw⟩)]

end InsertLoop
