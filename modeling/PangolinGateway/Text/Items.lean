import PangolinGateway.Text.Split

/-! # Items between separators

The items of a text are the pieces between its separators, trimmed, without the empty ones. An item
has no separator and no white space at its ends, and items joined by the separator are read back. A
pair is an item with an `=` between its key and its value. -/
namespace Str
set_option autoImplicit false

/-! ## Trimmed texts -/

theorem trim_eq_self_iff {s : List Char} : trim s = s ↔
    (∀ c ∈ s.head?, isWhitespace c = false) ∧ ∀ c ∈ s.getLast?, isWhitespace c = false := by
  have hstart : trimStartMatches isWhitespace s = s ↔ ∀ c ∈ s.head?, isWhitespace c = false := by
    cases s with
    | nil => simp [trimStartMatches]
    | cons c s =>
      cases hc : isWhitespace c with
      | false => simp [trimStartMatches, hc]
      | true =>
        have hshort : (s.dropWhile isWhitespace).length ≤ s.length := List.length_dropWhile_le _ _
        simp only [trimStartMatches, List.dropWhile_cons, hc, if_true, List.head?_cons,
          Option.mem_some_iff, forall_eq', Bool.true_eq_false, iff_false]
        intro heq
        rw [heq, List.length_cons] at hshort
        omega
  have hend : trimEndMatches isWhitespace s = s ↔ ∀ c ∈ s.getLast?, isWhitespace c = false := by
    rw [trimEndMatches, List.rdropWhile_eq_self_iff]
    constructor
    · intro h c hc
      obtain ⟨hne, rfl⟩ := List.mem_getLast?_eq_getLast hc
      simpa using h hne
    · intro h hne
      simp [h _ (List.getLast_mem_getLast? hne)]
  rw [← hstart, ← hend, trim, trimMatches]
  constructor
  · intro h
    have htrim : trimEndMatches isWhitespace (trimStartMatches isWhitespace s) <+:
        trimStartMatches isWhitespace s := List.rdropWhile_prefix _ _
    have hlen := htrim.length_le
    have hsuffix : trimStartMatches isWhitespace s <:+ s := List.dropWhile_suffix _
    rw [h] at hlen
    have hsame := hsuffix.eq_of_length_le hlen
    rw [hsame] at h
    exact ⟨hsame, h⟩
  · rintro ⟨hsame, hdone⟩
    rw [hsame, hdone]

theorem trim_isPrefix (s : List Char) : trim s <+: trimStartMatches isWhitespace s :=
  List.rdropWhile_prefix _ _

theorem trim_subset (s : List Char) : trim s ⊆ s := fun _ hc =>
  (List.dropWhile_suffix _).subset ((trim_isPrefix s).subset hc)

theorem trim_trim (s : List Char) : trim (trim s) = trim s := by
  rw [trim_eq_self_iff]
  constructor
  · intro c hc
    obtain ⟨rest, hrest⟩ := trim_isPrefix s
    have hhead : (trimStartMatches isWhitespace s).head? = some c := by
      rw [← hrest, List.head?_append, show (trim s).head? = some c from hc]
      rfl
    have hnot := List.head?_dropWhile_not isWhitespace s
    rw [show (s.dropWhile isWhitespace).head? = some c from hhead] at hnot
    simpa using hnot
  · intro c hc
    obtain ⟨hne, rfl⟩ := List.mem_getLast?_eq_getLast hc
    have hnot := List.rdropWhile_last_not isWhitespace (trimStartMatches isWhitespace s) hne
    exact Bool.eq_false_iff.mpr hnot

/-! ## Items -/

/-- `split(sep).map(trim).filter(non-empty)`. -/
def items (sep : Char) (s : List Char) : List (List Char) :=
  ((s.splitOn sep).map trim).filter fun w => !w.isEmpty

structure Item (sep : Char) (w : List Char) : Prop where
  nonempty : w ≠ []
  apart : sep ∉ w
  trimmed : trim w = w

theorem item_of_mem {sep : Char} {s w : List Char} (h : w ∈ items sep s) : Item sep w := by
  obtain ⟨hmem, hne⟩ := List.mem_filter.mp h
  obtain ⟨piece, hpiece, rfl⟩ := List.mem_map.mp hmem
  exact ⟨by simpa using hne, fun hsep => Split.not_mem_of_mem_splitOn hpiece (trim_subset _ hsep),
    trim_trim piece⟩

/-- Items joined by the separator are read back. -/
theorem items_intercalate {sep : Char} {ws : List (List Char)} (h : ∀ w ∈ ws, Item sep w) :
    items sep ([sep].intercalate ws) = ws := by
  cases ws with
  | nil => rfl
  | cons w ws =>
    rw [items, List.splitOn_intercalate sep (fun w hw => (h w hw).apart) (by simp),
      List.map_congr_left fun w hw => (h w hw).trimmed, List.map_id', List.filter_eq_self]
    intro w hw
    simpa using (h w hw).nonempty

/-! ## Pairs -/

/-- A key and a value that can stand in an item. -/
structure Pair (sep : Char) (k v : List Char) : Prop where
  key : Item sep k
  plain : '=' ∉ k
  value : trim v = v
  apart : sep ∉ v

def pairText (kv : String × String) : List Char := kv.1.toList ++ '=' :: kv.2.toList

variable {sep : Char} {k v : String}

theorem Pair.splitOnce (h : Pair sep k.toList v.toList) :
    splitOnce ['='] (pairText (k, v)) = some (k.toList, v.toList) :=
  splitOnce_singleton_iff.mpr ⟨rfl, h.plain⟩

theorem Pair.item (h : Pair sep k.toList v.toList) (hsep : sep ≠ '=') :
    Item sep (pairText (k, v)) := by
  obtain ⟨hfirst, _⟩ := trim_eq_self_iff.mp h.key.trimmed
  obtain ⟨_, hlast⟩ := trim_eq_self_iff.mp h.value
  refine ⟨by simp [pairText], ?_, trim_eq_self_iff.mpr ⟨?_, ?_⟩⟩
  · simp [pairText, h.key.apart, h.apart, hsep]
  · intro c hc
    rw [pairText, List.head?_append_of_ne_nil _ h.key.nonempty] at hc
    exact hfirst c hc
  · intro c hc
    rw [pairText, List.getLast?_append_cons, List.getLast?_cons] at hc
    cases hv : v.toList.getLast? with
    | none =>
      rw [hv] at hc
      obtain rfl : '=' = c := Option.some.inj hc
      decide
    | some d =>
      rw [hv] at hc
      obtain rfl : d = c := Option.some.inj hc
      exact hlast d hv

end Str
