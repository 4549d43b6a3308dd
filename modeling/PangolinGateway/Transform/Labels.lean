import Mathlib.Data.List.Chain
import Mathlib.Data.Nat.Digits.Defs
import PangolinGateway.Transform.Naming

/-! # DNS labels and when two names become the same one

A sanitised name is made of words joined by single dashes. It starts with the tag in front of it,
and two names share a label when they fold together, when both are cut and their hashes collide, or
when one is spelled like the cut form of the other. -/
namespace PangolinGateway
set_option autoImplicit false

def isLabelChar (c : Char) : Bool := Str.isAsciiLowercase c || Str.isAsciiDigit c || c == '-'

/-- Words of lower-case letters and digits, joined by single dashes. -/
structure Dashed (s : List Char) : Prop where
  nonempty : s ≠ []
  chars : ∀ c ∈ s, isLabelChar c = true
  first : s.head? ≠ some '-'
  last : s.getLast? ≠ some '-'
  single : s.IsChain fun c d => ¬(c = '-' ∧ d = '-')

instance (s : List Char) : Decidable (Dashed s) :=
  decidable_of_iff (s ≠ [] ∧ s.all isLabelChar = true ∧ s.head? ≠ some '-' ∧ s.getLast? ≠ some '-' ∧
      s.IsChain fun c d => ¬(c = '-' ∧ d = '-'))
    ⟨fun h => ⟨h.1, List.all_eq_true.mp h.2.1, h.2.2.1, h.2.2.2.1, h.2.2.2.2⟩,
      fun h => ⟨h.nonempty, List.all_eq_true.mpr h.chars, h.first, h.last, h.single⟩⟩

/-- A name that needs no sanitising. -/
structure IsLabel (s : String) : Prop where
  dashed : Dashed s.toList
  fits : s.toList.length ≤ maxDnsLabel

/-- One more word behind a dash. -/
theorem Dashed.append_word {q w : List Char} (h : Dashed q) (hne : w ≠ [])
    (hw : ∀ c ∈ w, isLabelChar c = true ∧ c ≠ '-') : Dashed (q ++ '-' :: w) where
  nonempty := by simp
  chars := by
    intro c hc
    rcases List.mem_append.mp hc with hc | hc
    · exact h.chars c hc
    · rcases List.mem_cons.mp hc with rfl | hc
      · rfl
      · exact (hw c hc).1
  first := by
    rw [List.head?_append_of_ne_nil _ h.nonempty]
    exact h.first
  last := by
    rw [List.getLast?_append_of_ne_nil _ (List.cons_ne_nil _ _), List.getLast?_cons_of_ne_nil hne]
    intro hdash
    exact (hw '-' (List.mem_of_getLast? hdash)).2 rfl
  single := by
    rw [List.isChain_append, List.isChain_cons]
    refine ⟨h.single, ⟨fun d hd hboth => (hw d (List.mem_of_head? hd)).2 hboth.2, ?_⟩, ?_⟩
    · apply List.Pairwise.isChain
      exact List.pairwise_of_forall_mem_list fun c hc d _ hboth => (hw c hc).2 hboth.1
    · rintro c hc d _ ⟨rfl, _⟩
      exact h.last hc

/-! ## Cleaning characters -/

theorem toAsciiLowercase_lowercase {c : Char} (h : Str.isAsciiUppercase c = true) :
    Str.isAsciiLowercase (Str.toAsciiLowercase c) = true := by
  have hrange : ∀ n < 91, 65 ≤ n → Str.isAsciiLowercase (Char.ofNat (n + 32)) = true := by decide
  simp only [Str.isAsciiUppercase, Bool.and_eq_true, decide_eq_true_eq] at h
  rw [Str.toAsciiLowercase, if_pos (by simp [Str.isAsciiUppercase, h])]
  exact hrange c.toNat (by omega) h.1

theorem isLabelChar_cleanChar (c : Char) : isLabelChar (cleanChar c) = true := by
  unfold cleanChar
  split
  · next hupper => simp [isLabelChar, toAsciiLowercase_lowercase hupper]
  · split
    · next hlabel => exact hlabel
    · rfl

theorem cleanChar_of_label {c : Char} (h : isLabelChar c = true) : cleanChar c = c := by
  have hupper : Str.isAsciiUppercase c = false := by
    rw [← Bool.not_eq_true]
    intro hupper
    simp only [isLabelChar, Str.isAsciiLowercase, Str.isAsciiUppercase, Str.isAsciiDigit,
      Bool.or_eq_true, Bool.and_eq_true, decide_eq_true_eq, beq_iff_eq] at h hupper
    rcases h with (h | h) | rfl
    · omega
    · omega
    · exact absurd hupper.1 (by decide)
  rw [isLabelChar] at h
  simp [cleanChar, hupper, h]

theorem map_cleanChar {s : List Char} (h : ∀ c ∈ s, isLabelChar c = true) : s.map cleanChar = s := by
  conv_rhs => rw [← List.map_id s]
  exact List.map_congr_left fun c hc => cleanChar_of_label (h c hc)

/-! ## Collapsing dashes -/

theorem collapseDashesFrom_sublist (prevDash : Bool) (s : List Char) :
    (collapseDashesFrom prevDash s).Sublist s := by
  induction s generalizing prevDash with
  | nil => exact List.Sublist.refl _
  | cons c s ih =>
    rw [collapseDashesFrom]
    split
    · next hdash =>
      subst hdash
      split
      · exact (ih true).cons _
      · exact (ih true).cons_cons _
    · exact (ih false).cons_cons _

theorem collapseDashesFrom_first (s : List Char) :
    (collapseDashesFrom true s).head? ≠ some '-' := by
  induction s with
  | nil => simp [collapseDashesFrom]
  | cons c s ih =>
    rw [collapseDashesFrom]
    split
    · exact ih
    · next hdash => simpa using hdash

theorem collapseDashesFrom_single (prevDash : Bool) (s : List Char) :
    (collapseDashesFrom prevDash s).IsChain fun c d => ¬(c = '-' ∧ d = '-') := by
  induction s generalizing prevDash with
  | nil => exact List.isChain_nil
  | cons c s ih =>
    rw [collapseDashesFrom]
    split
    · split
      · exact ih true
      · refine (ih true).cons ?_
        rintro d hd ⟨_, rfl⟩
        exact collapseDashesFrom_first s hd
    · next hdash => exact (ih false).cons fun d _ hboth => hdash hboth.1

/-- Collapsing leaves a text without doubled dashes alone, and goes on behind it. -/
theorem collapseDashesFrom_append {q : List Char} (hsingle : q.IsChain fun c d => ¬(c = '-' ∧ d = '-'))
    (hlast : q.getLast? ≠ some '-') (prevDash : Bool)
    (hfirst : prevDash = true → q.head? ≠ some '-') (hne : q ≠ []) (s : List Char) :
    collapseDashesFrom prevDash (q ++ s) = q ++ collapseDashesFrom false s := by
  induction q generalizing prevDash with
  | nil => exact absurd rfl hne
  | cons c q ih =>
    have hrest : ∀ prev, (prev = true → c = '-') → c = '-' ∨ prev = false →
        collapseDashesFrom prev (q ++ s) = q ++ collapseDashesFrom false s := by
      intro prev hprev hcase
      cases q with
      | nil =>
        rcases hcase with rfl | rfl
        · simp at hlast
        · rfl
      | cons d q =>
        apply ih hsingle.tail (by simpa using hlast) prev _ (by simp)
        rintro hprev' hd
        obtain rfl : d = '-' := by simpa using hd
        exact hsingle.rel_head? (by simp) ⟨hprev hprev', rfl⟩
    rw [List.cons_append, collapseDashesFrom]
    split
    · next hdash =>
      subst hdash
      have hprev : prevDash = false := by
        cases prevDash with
        | false => rfl
        | true => exact absurd rfl (hfirst rfl)
      rw [hprev, if_neg Bool.false_ne_true, hrest true (fun _ => rfl) (Or.inl rfl)]
      rfl
    · rw [hrest false (by simp) (Or.inr rfl)]
      rfl

theorem Dashed.collapse {s : List Char} (h : Dashed s) : collapseDashes s = s := by
  have hall := collapseDashesFrom_append h.single h.last false (by simp) h.nonempty []
  simpa [collapseDashes, collapseDashesFrom] using hall

/-! ## The sanitised name before truncation -/

theorem trim_of_ends {p : Char → Bool} {s : List Char} (hfirst : ∀ c ∈ s.head?, p c = false)
    (hlast : ∀ c ∈ s.getLast?, p c = false) : Str.trimMatches p s = s := by
  have hstart : Str.trimStartMatches p s = s := by
    cases s with
    | nil => rfl
    | cons c s => simp [Str.trimStartMatches, hfirst c (by simp)]
  rw [Str.trimMatches, hstart, Str.trimEndMatches, List.rdropWhile_eq_self_iff]
  intro hne
  simp [hlast _ (List.getLast_mem_getLast? hne)]

theorem trimEnd_append {p : Char → Bool} {q : List Char} (hlast : ∀ c ∈ q.getLast?, p c = false)
    (hne : q ≠ []) (s : List Char) :
    Str.trimEndMatches p (q ++ s) = q ++ Str.trimEndMatches p s := by
  induction s using List.reverseRecOn with
  | nil =>
    have hq : q.rdropWhile p = q := by
      rw [List.rdropWhile_eq_self_iff]
      intro _
      simp [hlast _ (List.getLast_mem_getLast? hne)]
    simp [Str.trimEndMatches, hq]
  | append_singleton s c ih =>
    rw [← List.append_assoc]
    simp only [Str.trimEndMatches] at ih ⊢
    by_cases hc : p c = true
    · rw [List.rdropWhile_concat_pos _ _ _ hc, List.rdropWhile_concat_pos _ _ _ hc, ih]
    · rw [List.rdropWhile_concat_neg _ _ _ hc, List.rdropWhile_concat_neg _ _ _ hc,
        List.append_assoc]

/-- What is left of a text without doubled dashes once its ends are trimmed. -/
theorem dashed_trim {s : List Char} (hchars : ∀ c ∈ s, isLabelChar c = true)
    (hsingle : s.IsChain fun c d => ¬(c = '-' ∧ d = '-'))
    (hne : Str.trimMatches (· == '-') s ≠ []) : Dashed (Str.trimMatches (· == '-') s) := by
  have hend : Str.trimMatches (· == '-') s <+: s.dropWhile (· == '-') :=
    List.rdropWhile_prefix _ _
  have hsub : Str.trimMatches (· == '-') s <:+: s :=
    hend.isInfix.trans (List.dropWhile_suffix _).isInfix
  refine ⟨hne, fun c hc => hchars c (hsub.subset hc), ?_, ?_, hsingle.infix hsub⟩
  · obtain ⟨rest, hrest⟩ := hend
    cases hs : Str.trimMatches (· == '-') s with
    | nil => simp
    | cons c t =>
      have hnot := List.head?_dropWhile_not (· == '-') s
      rw [← hrest, hs] at hnot
      simpa using hnot
  · rw [List.getLast?_eq_some_getLast hne]
    have hnot := List.rdropWhile_last_not (· == '-') (s.dropWhile (· == '-')) hne
    rw [beq_iff_eq] at hnot
    exact fun heq => hnot (Option.some.inj heq)

theorem dnsBase_dashed (input : String) : Dashed (dnsBase input) := by
  unfold dnsBase
  simp only
  split
  · decide
  · next hne =>
    refine dashed_trim ?_ (collapseDashesFrom_single _ _) (by simpa using hne)
    intro c hc
    obtain ⟨d, _, rfl⟩ := List.mem_map.mp ((collapseDashesFrom_sublist _ _).subset hc)
    exact isLabelChar_cleanChar d

theorem dnsBase_of_dashed {input : String} (h : Dashed input.toList) :
    dnsBase input = input.toList := by
  have htrim : Str.trimMatches (· == '-') input.toList = input.toList := by
    apply trim_of_ends
    · intro c hc
      simpa using fun heq : c = '-' => h.first (heq ▸ hc)
    · intro c hc
      simpa using fun heq : c = '-' => h.last (heq ▸ hc)
  simp [dnsBase, map_cleanChar h.chars, h.collapse, htrim, h.nonempty]

/-- What follows a tag: nothing, or a dash and the rest. -/
def AfterTag (t : List Char) : Prop := t = [] ∨ t.head? = some '-'

theorem AfterTag.prefix {t t' : List Char} (h : AfterTag t) (hp : t' <+: t) : AfterTag t' := by
  cases t' with
  | nil => exact Or.inl rfl
  | cons c t' =>
    obtain ⟨rest, rfl⟩ := hp
    rcases h with h | h
    · simp at h
    · exact Or.inr (by simpa using h)

theorem dnsBase_tag {tag : String} (htag : Dashed tag.toList) (s : String) :
    ∃ t, dnsBase (tag ++ "-" ++ s) = tag.toList ++ t ∧ AfterTag t := by
  have hclean : (tag ++ "-" ++ s).toList.map cleanChar =
      tag.toList ++ '-' :: s.toList.map cleanChar := by
    simp [map_cleanChar htag.chars, show cleanChar '-' = '-' by decide]
  have hcollapse : collapseDashes ((tag ++ "-" ++ s).toList.map cleanChar) =
      tag.toList ++ '-' :: collapseDashesFrom true (s.toList.map cleanChar) := by
    rw [hclean, collapseDashes, collapseDashesFrom_append htag.single htag.last false (by simp)
      htag.nonempty]
    rfl
  have hlast : ∀ c ∈ tag.toList.getLast?, (c == '-') = false := by
    intro c hc
    simpa using fun heq : c = '-' => htag.last (heq ▸ hc)
  have hstart : Str.trimStartMatches (· == '-')
      (tag.toList ++ '-' :: collapseDashesFrom true (s.toList.map cleanChar)) =
        tag.toList ++ '-' :: collapseDashesFrom true (s.toList.map cleanChar) := by
    have hne := htag.nonempty
    have hfirst := htag.first
    cases htag' : tag.toList with
    | nil => exact absurd htag' hne
    | cons c t =>
      rw [htag'] at hfirst
      simp only [List.head?_cons, ne_eq, Option.some.injEq] at hfirst
      simp [Str.trimStartMatches, hfirst]
  refine ⟨Str.trimEndMatches (· == '-') ('-' :: collapseDashesFrom true (s.toList.map cleanChar)),
    ?_, AfterTag.prefix (Or.inr (List.head?_cons ..)) (List.rdropWhile_prefix _ _)⟩
  simp only [dnsBase]
  rw [hcollapse, Str.trimMatches, hstart, trimEnd_append hlast htag.nonempty, if_neg]
  simp [htag.nonempty]

/-! ## Hexadecimal -/

def isHexDigit (c : Char) : Bool := Str.isAsciiDigit c || (97 ≤ c.toNat && c.toNat ≤ 102)

theorem lowerHex_chars (n : ℕ) : ∀ c ∈ Str.lowerHex n, isHexDigit c = true := by
  have hdigit : ∀ m < 16, isHexDigit m.digitChar = true := by decide
  unfold Str.lowerHex
  induction n using Nat.strong_induction_on with
  | _ n ih =>
    rw [Nat.toDigits_eq_if (by omega)]
    split
    · next hlt =>
      intro c hc
      rw [List.mem_singleton.mp hc]
      exact hdigit n hlt
    · intro c hc
      rcases List.mem_append.mp hc with hc | hc
      · exact ih (n / 16) (by omega) c hc
      · rw [List.mem_singleton.mp hc]
        exact hdigit (n % 16) (by omega)

theorem isLabelChar_of_hex {c : Char} (h : isHexDigit c = true) :
    isLabelChar c = true ∧ c ≠ '-' := by
  simp only [isHexDigit, Str.isAsciiDigit, Bool.or_eq_true, Bool.and_eq_true,
    decide_eq_true_eq] at h
  constructor
  · simp only [isLabelChar, Str.isAsciiDigit, Str.isAsciiLowercase, Bool.or_eq_true,
      Bool.and_eq_true, decide_eq_true_eq]
    omega
  · rintro rfl
    exact absurd h (by decide)

theorem lowerHex_injective : Function.Injective Str.lowerHex := by
  have hdigit : ∀ m < 16, ∀ n < 16, m.digitChar = n.digitChar → m = n := by decide
  have hlast : ∀ n, ∃ front, Str.lowerHex n = front ++ [(n % 16).digitChar] ∧
      (n < 16 → front = []) ∧ (16 ≤ n → front = Str.lowerHex (n / 16)) := by
    intro n
    unfold Str.lowerHex
    rw [Nat.toDigits_eq_if (by omega)]
    split
    · next hlt => exact ⟨[], by rw [Nat.mod_eq_of_lt hlt]; rfl, fun _ => rfl, fun hge => by omega⟩
    · next hge => exact ⟨_, rfl, fun hlt => absurd hlt hge, fun _ => rfl⟩
  intro m n h
  induction m using Nat.strong_induction_on generalizing n with
  | _ m ih =>
    obtain ⟨front, hm, hmlt, hmge⟩ := hlast m
    obtain ⟨front', hn, hnlt, hnge⟩ := hlast n
    rw [hm, hn] at h
    obtain ⟨hfront, hmod⟩ := List.append_inj' h rfl
    have hmod := hdigit _ (by omega) _ (by omega) (List.singleton_inj.mp hmod)
    have hnonempty : ∀ k, Str.lowerHex k ≠ [] := fun k => Nat.toDigits_ne_nil
    rcases Nat.lt_or_ge m 16 with hlt | hge
    · rcases Nat.lt_or_ge n 16 with hlt' | hge'
      · omega
      · rw [hmlt hlt, hnge hge'] at hfront
        exact absurd hfront.symm (hnonempty _)
    · rcases Nat.lt_or_ge n 16 with hlt' | hge'
      · rw [hmge hge, hnlt hlt'] at hfront
        exact absurd hfront (hnonempty _)
      · rw [hmge hge, hnge hge'] at hfront
        have hdiv := ih (m / 16) (by omega) hfront
        omega

/-! ## Labels -/

section Labels
variable [DefaultHasher]

/-- The 32 bits of a name's hash that a cut label carries. -/
def shortHash (input : String) : ℕ := (DefaultHasher.hash input).toNat &&& 0xffffffff

theorem shortHash_eq_mod (input : String) :
    shortHash input = (DefaultHasher.hash input).toNat % 2 ^ 32 :=
  Nat.and_two_pow_sub_one_eq_mod _ 32

/-- The head of a cut label. -/
def cutHead (input : String) : List Char :=
  Str.trimEndMatches (· == '-')
    ((dnsBase input).take (maxDnsLabel - ('-' :: Str.lowerHex (shortHash input)).length))

def cutLabel (input : String) : List Char := cutHead input ++ '-' :: Str.lowerHex (shortHash input)

/-- The sanitised name needs no cutting. -/
def Fits (input : String) : Prop := (dnsBase input).length ≤ maxDnsLabel

theorem dnsLabel_of_fits {input : String} (h : Fits input) :
    (dnsLabel input).toList = dnsBase input := by
  unfold Fits at h
  simp only [dnsLabel, h, if_true, String.toList_ofList]

theorem dnsLabel_of_cut {input : String} (h : ¬Fits input) :
    (dnsLabel input).toList = cutLabel input := by
  unfold Fits at h
  simp only [dnsLabel, h, if_false, String.toList_ofList]
  rfl

theorem length_shortHash (input : String) : (Str.lowerHex (shortHash input)).length ≤ 8 := by
  refine Nat.toDigits_length 16 _ 8 (by omega) ?_
  have hand : shortHash input ≤ 0xffffffff := Nat.and_le_right
  omega

theorem cutHead_isPrefix (input : String) : cutHead input <+: dnsBase input :=
  (List.rdropWhile_prefix _ _).trans (List.take_prefix _ _)

/-- The head of a cut label keeps a tag that ends in no dash. -/
theorem cutHead_tag {tag : String} (htag : Dashed tag.toList) (hlen : tag.toList.length ≤ 54)
    {input : String} {t : List Char} (hbase : dnsBase input = tag.toList ++ t)
    (hafter : AfterTag t) : ∃ t', cutHead input = tag.toList ++ t' ∧ AfterTag t' := by
  have hhash := length_shortHash input
  have hlast : ∀ c ∈ tag.toList.getLast?, (c == '-') = false := by
    intro c hc
    simpa using fun heq : c = '-' => htag.last (heq ▸ hc)
  have htake : tag.toList.take (maxDnsLabel - ('-' :: Str.lowerHex (shortHash input)).length) =
      tag.toList := by
    apply List.take_of_length_le
    simp only [List.length_cons, maxDnsLabel]
    omega
  rw [cutHead, hbase, List.take_append, htake, trimEnd_append hlast htag.nonempty]
  exact ⟨_, rfl, hafter.prefix ((List.rdropWhile_prefix _ _).trans (List.take_prefix _ _))⟩

theorem dnsLabel_tag {tag : String} (htag : Dashed tag.toList) (hlen : tag.toList.length ≤ 54)
    (s : String) : ∃ t, (dnsLabel (tag ++ "-" ++ s)).toList = tag.toList ++ t ∧ AfterTag t := by
  obtain ⟨t, hbase, hafter⟩ := dnsBase_tag htag s
  by_cases hfits : Fits (tag ++ "-" ++ s)
  · exact ⟨t, (dnsLabel_of_fits hfits).trans hbase, hafter⟩
  · obtain ⟨t', hhead, hafter'⟩ := cutHead_tag htag hlen hbase hafter
    refine ⟨t' ++ '-' :: Str.lowerHex (shortHash (tag ++ "-" ++ s)), ?_, ?_⟩
    · rw [dnsLabel_of_cut hfits, cutLabel, hhead, List.append_assoc]
    · rcases hafter' with rfl | hdash
      · exact Or.inr rfl
      · exact Or.inr (by rw [List.head?_append, hdash]; rfl)

theorem cutHead_nonempty (input : String) : cutHead input ≠ [] := by
  have hbase := dnsBase_dashed input
  have hhash := length_shortHash input
  obtain ⟨n, hn⟩ : ∃ n, maxDnsLabel - ('-' :: Str.lowerHex (shortHash input)).length = n + 1 := by
    refine ⟨maxDnsLabel - 2 - (Str.lowerHex (shortHash input)).length, ?_⟩
    simp only [List.length_cons, maxDnsLabel]
    omega
  cases hb : dnsBase input with
  | nil => exact absurd hb hbase.nonempty
  | cons c t =>
    have hfirst : ∀ d ∈ [c].getLast?, (d == '-') = false := by
      have hne := hbase.first
      rw [hb] at hne
      simpa using hne
    have hcut : cutHead input = [c] ++ Str.trimEndMatches (· == '-') (t.take n) := by
      rw [cutHead, hb, hn, List.take_succ_cons, ← List.singleton_append,
        trimEnd_append hfirst (List.cons_ne_nil c [])]
    simp [hcut]

theorem cutHead_dashed (input : String) : Dashed (cutHead input) := by
  have hbase := dnsBase_dashed input
  have hpre := cutHead_isPrefix input
  have hne := cutHead_nonempty input
  refine ⟨hne, fun c hc => hbase.chars c (hpre.subset hc), ?_, ?_, hbase.single.prefix hpre⟩
  · obtain ⟨rest, hrest⟩ := hpre
    have hfirst := hbase.first
    rwa [← hrest, List.head?_append_of_ne_nil _ hne] at hfirst
  · rw [List.getLast?_eq_some_getLast hne]
    have hnot := List.rdropWhile_last_not (· == '-') _ hne
    rw [beq_iff_eq] at hnot
    exact fun heq => hnot (Option.some.inj heq)

theorem cutLabel_dashed (input : String) : Dashed (cutLabel input) :=
  (cutHead_dashed input).append_word Nat.toDigits_ne_nil fun c hc =>
    isLabelChar_of_hex (lowerHex_chars (shortHash input) c hc)

theorem length_cutLabel (input : String) : (cutLabel input).length ≤ maxDnsLabel := by
  have hhash := length_shortHash input
  have hhead : (cutHead input).length ≤
      maxDnsLabel - ('-' :: Str.lowerHex (shortHash input)).length :=
    (List.rdropWhile_prefix _ _).length_le.trans (List.length_take_le _ _)
  simp only [cutLabel, List.length_append, List.length_cons, maxDnsLabel] at hhead ⊢
  omega

/-- The label of any name is a DNS label. -/
theorem isLabel_dnsLabel (input : String) : IsLabel (dnsLabel input) := by
  by_cases hfits : Fits input
  · rw [← String.ofList_toList (s := dnsLabel input), dnsLabel_of_fits hfits]
    constructor
    · rw [String.toList_ofList]
      exact dnsBase_dashed input
    · rwa [String.toList_ofList]
  · constructor
    · rw [dnsLabel_of_cut hfits]
      exact cutLabel_dashed input
    · rw [dnsLabel_of_cut hfits]
      exact length_cutLabel input

theorem dnsLabel_eq_self_iff (input : String) : dnsLabel input = input ↔ IsLabel input := by
  constructor
  · intro h
    rw [← h]
    exact isLabel_dnsLabel input
  · intro h
    have hbase := dnsBase_of_dashed h.dashed
    have hfits : Fits input := by rw [Fits, hbase]; exact h.fits
    exact String.toList_inj.mp ((dnsLabel_of_fits hfits).trans hbase)

/-! ## When two names become the same label -/

/-- The names fold together; or both are cut, with the same head and colliding hashes; or one is
spelled like the cut label of the other. -/
def NamesClash (s t : String) : Prop :=
  (Fits s ∧ Fits t ∧ dnsBase s = dnsBase t) ∨
    (¬Fits s ∧ ¬Fits t ∧ cutHead s = cutHead t ∧ shortHash s = shortHash t) ∨
    (Fits s ∧ ¬Fits t ∧ dnsBase s = cutLabel t) ∨
    (¬Fits s ∧ Fits t ∧ cutLabel s = dnsBase t)

instance (input : String) : Decidable (Fits input) :=
  inferInstanceAs (Decidable ((dnsBase input).length ≤ maxDnsLabel))

instance (s t : String) : Decidable (NamesClash s t) := by
  unfold NamesClash
  infer_instance

theorem cutLabel_eq_iff (s t : String) :
    cutLabel s = cutLabel t ↔ cutHead s = cutHead t ∧ shortHash s = shortHash t := by
  constructor
  · intro h
    -- the hash is what follows the last dash
    have hhash : ∀ input, (cutLabel input).reverse.takeWhile (· != '-') =
        (Str.lowerHex (shortHash input)).reverse := by
      intro input
      have hhex : ∀ c ∈ (Str.lowerHex (shortHash input)).reverse, (c != '-') = true := by
        intro c hc
        simpa using (isLabelChar_of_hex (lowerHex_chars _ c (List.mem_reverse.mp hc))).2
      rw [cutLabel, List.reverse_append, List.reverse_cons, List.append_assoc,
        List.takeWhile_append_of_pos hhex]
      simp
    have hlast : (Str.lowerHex (shortHash s)).reverse = (Str.lowerHex (shortHash t)).reverse := by
      rw [← hhash s, h, hhash t]
    have hsame := lowerHex_injective (List.reverse_injective hlast)
    rw [cutLabel, cutLabel, hsame] at h
    exact ⟨List.append_cancel_right h, hsame⟩
  · rintro ⟨hhead, hhash⟩
    rw [cutLabel, cutLabel, hhead, hhash]

theorem dnsLabel_eq_iff (s t : String) : dnsLabel s = dnsLabel t ↔ NamesClash s t := by
  rw [← String.toList_inj, NamesClash]
  by_cases hs : Fits s
  · by_cases ht : Fits t
    · rw [dnsLabel_of_fits hs, dnsLabel_of_fits ht]
      simp [hs, ht]
    · rw [dnsLabel_of_fits hs, dnsLabel_of_cut ht]
      simp [hs, ht]
  · by_cases ht : Fits t
    · rw [dnsLabel_of_cut hs, dnsLabel_of_fits ht]
      simp [hs, ht]
    · rw [dnsLabel_of_cut hs, dnsLabel_of_cut ht, cutLabel_eq_iff]
      simp [hs, ht]

/-- A label of any name is a DNS label, has itself as its label, and is shared by two cut names only
if their hashes agree on the low 32 bits. -/
theorem dnsLabel_spec (input : String) :
    IsLabel (dnsLabel input) ∧ dnsLabel (dnsLabel input) = dnsLabel input ∧
      ∀ other, ¬Fits input → ¬Fits other → dnsLabel input = dnsLabel other →
        (DefaultHasher.hash input).toNat % 2 ^ 32 = (DefaultHasher.hash other).toNat % 2 ^ 32 := by
  refine ⟨isLabel_dnsLabel input, (dnsLabel_eq_self_iff _).mpr (isLabel_dnsLabel input), ?_⟩
  intro other hcut hcut' hlabel
  have hlists : cutLabel input = cutLabel other := by
    rw [← dnsLabel_of_cut hcut, hlabel, dnsLabel_of_cut hcut']
  have hshort : shortHash input = shortHash other := ((cutLabel_eq_iff input other).mp hlists).2
  rwa [shortHash_eq_mod, shortHash_eq_mod] at hshort

/-! ## Names under different tags -/

/-- Labels of names under two tags differ when neither tag with a dash starts the other. -/
theorem dnsLabel_ne_of_tags {tag tag' : String} (htag : Dashed tag.toList)
    (htag' : Dashed tag'.toList) (hlen : tag.toList.length ≤ 54) (hlen' : tag'.toList.length ≤ 54)
    (hne : tag ≠ tag') (hnot : ¬tag.toList ++ ['-'] <+: tag'.toList)
    (hnot' : ¬tag'.toList ++ ['-'] <+: tag.toList) (s s' : String) :
    dnsLabel (tag ++ "-" ++ s) ≠ dnsLabel (tag' ++ "-" ++ s') := by
  obtain ⟨t, ht, hafter⟩ := dnsLabel_tag htag hlen s
  obtain ⟨t', ht', hafter'⟩ := dnsLabel_tag htag' hlen' s'
  intro heq
  have happ : tag.toList ++ t = tag'.toList ++ t' := by rw [← ht, heq, ht']
  rcases List.append_eq_append_iff.mp happ with ⟨u, hu, htu⟩ | ⟨u, hu, htu⟩
  · cases u with
    | nil => exact hne (String.toList_inj.mp (by simpa using hu.symm))
    | cons c u =>
      rcases hafter with rfl | hdash
      · simp at htu
      · obtain rfl : c = '-' := by simpa [htu] using hdash
        exact hnot ⟨u, by rw [hu, List.append_assoc]; rfl⟩
  · cases u with
    | nil => exact hne (String.toList_inj.mp (by simpa using hu))
    | cons c u =>
      rcases hafter' with rfl | hdash
      · simp at htu
      · obtain rfl : c = '-' := by simpa [htu] using hdash
        exact hnot' ⟨u, by rw [hu, List.append_assoc]; rfl⟩

end Labels

end PangolinGateway
