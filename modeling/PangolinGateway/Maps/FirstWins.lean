import Mathlib.Tactic.Common

/-! # Ordered maps that keep the first value of a key

`insertNew l m` puts the entries of `l` into `m`, each unless its key is there already. A key has
the value that it has in `m`, or else that of its first entry in `l`. -/
namespace FirstWins
set_option autoImplicit false

variable {K V : Type} [Ord K] [Std.TransOrd K]

def insertNew (l : List (K × V)) (m : Std.ExtTreeMap K V) : Std.ExtTreeMap K V :=
  l.foldl (fun m entry => m.insertIfNew entry.1 entry.2) m

@[simp] theorem insertNew_nil (m : Std.ExtTreeMap K V) : insertNew [] m = m := rfl

@[simp] theorem insertNew_cons (entry : K × V) (l : List (K × V)) (m : Std.ExtTreeMap K V) :
    insertNew (entry :: l) m = insertNew l (m.insertIfNew entry.1 entry.2) := rfl

variable [Std.LawfulEqOrd K] [DecidableEq K]

theorem getElem?_insertNew (l : List (K × V)) (m : Std.ExtTreeMap K V) (k : K) :
    (insertNew l m)[k]? = m[k]?.or (l.lookup k) := by
  induction l generalizing m with
  | nil => simp
  | cons entry l ih =>
    obtain ⟨k', v⟩ := entry
    rw [insertNew_cons, ih, Std.ExtTreeMap.getElem?_insertIfNew, List.lookup_cons]
    by_cases hk : k = k'
    · subst hk
      by_cases hmem : k ∈ m
      · simp [hmem]
      · simp [hmem]
    · have hne : compare k' k ≠ .eq := fun heq => hk (Std.LawfulEqCmp.eq_of_compare heq).symm
      simp [hne, beq_false_of_ne hk]

theorem lookup_insertNew (l : List (K × V)) (k : K) :
    (insertNew l (∅ : Std.ExtTreeMap K V))[k]? = l.lookup k := by
  simp [getElem?_insertNew]

omit [Ord K] [Std.TransOrd K] [Std.LawfulEqOrd K] in
/-- Dropping the entries of one key changes nothing for the others. -/
theorem lookup_filter_ne (l : List (K × V)) (dropped k : K) :
    (l.filter fun entry => entry.1 != dropped).lookup k =
      if k = dropped then none else l.lookup k := by
  induction l with
  | nil => simp
  | cons entry l ih =>
    obtain ⟨k', v⟩ := entry
    rw [List.filter_cons]
    by_cases hdrop : k' = dropped
    · subst hdrop
      rw [if_neg (by simp), ih, List.lookup_cons]
      by_cases hk : k = k'
      · simp [hk]
      · simp [hk, beq_false_of_ne hk]
    · rw [if_pos (by simpa using hdrop), List.lookup_cons, List.lookup_cons, ih]
      by_cases hk : k = k'
      · subst hk
        simp [hdrop]
      · simp [beq_false_of_ne hk]

end FirstWins
