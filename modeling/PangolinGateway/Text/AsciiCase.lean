import PangolinGateway.Text.Str

/-! # ASCII letter case

Casing changes the ASCII letters only, so that a fact about one character is a fact about 128
characters and about those that casing leaves alone. -/
namespace Str
set_option autoImplicit false

theorem casing_induction {P : Char → Prop} (hascii : ∀ n < 128, P (Char.ofNat n))
    (hfixed : ∀ c, toAsciiLowercase c = c → toAsciiUppercase c = c → P c) (c : Char) : P c := by
  by_cases h : c.toNat < 128
  · rw [← Char.ofNat_toNat c]
    exact hascii c.toNat h
  · apply hfixed
    · rw [toAsciiLowercase, if_neg]
      simp only [isAsciiUppercase, Bool.and_eq_true, decide_eq_true_eq]
      omega
    · rw [toAsciiUppercase, if_neg]
      simp only [isAsciiLowercase, Bool.and_eq_true, decide_eq_true_eq]
      omega

@[simp] theorem toAsciiLowercase_idem (c : Char) :
    toAsciiLowercase (toAsciiLowercase c) = toAsciiLowercase c := by
  induction c using casing_induction with
  | hascii n hn => revert n; decide
  | hfixed c hlower _ => rw [hlower, hlower]

@[simp] theorem toAsciiUppercase_idem (c : Char) :
    toAsciiUppercase (toAsciiUppercase c) = toAsciiUppercase c := by
  induction c using casing_induction with
  | hascii n hn => revert n; decide
  | hfixed c _ hupper => rw [hupper, hupper]

@[simp] theorem toAsciiLowercase_upper (c : Char) :
    toAsciiLowercase (toAsciiUppercase c) = toAsciiLowercase c := by
  induction c using casing_induction with
  | hascii n hn => revert n; decide
  | hfixed c _ hupper => rw [hupper]

theorem toAsciiLowercase_dash {c : Char} (h : c ≠ '-') : toAsciiLowercase c ≠ '-' := by
  induction c using casing_induction with
  | hascii n hn => revert n; decide
  | hfixed c hlower _ => rwa [hlower]

theorem toAsciiUppercase_dash {c : Char} (h : c ≠ '-') : toAsciiUppercase c ≠ '-' := by
  induction c using casing_induction with
  | hascii n hn => revert n; decide
  | hfixed c _ hupper => rwa [hupper]

/-- No ASCII upper-case letter. -/
def IsLowercase (s : List Char) : Prop := ∀ c ∈ s, isAsciiUppercase c = false

instance (s : List Char) : Decidable (IsLowercase s) :=
  List.decidableBAll (fun c => isAsciiUppercase c = false) s

theorem IsLowercase.map_lower {s : List Char} (h : IsLowercase s) : s.map toAsciiLowercase = s := by
  conv_rhs => rw [← List.map_id s]
  apply List.map_congr_left
  intro c hc
  rw [toAsciiLowercase, h c hc]
  rfl

end Str
