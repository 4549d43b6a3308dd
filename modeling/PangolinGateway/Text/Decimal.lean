import PangolinGateway.Text.Str

/-! # Decimal numbers, printed and read back

A number is printed by its decimal digits. Reading accepts a sign and leading zeros besides, but
never a number outside the range of its type. -/
namespace Str
set_option autoImplicit false

/-- `str::parse::<u64>`: an optional `+` and decimal digits within the 64-bit range. -/
def parseU64 (s : List Char) : Option ℕ :=
  let digits := match s with
    | '+' :: rest => rest
    | _ => s
  (parseDigits digits).filter (· < 18446744073709551616)

def printInt : ℤ → List Char
  | .ofNat n => Nat.toDigits 10 n
  | .negSucc n => '-' :: Nat.toDigits 10 (n + 1)

theorem isAsciiDigit_of_mem {n : ℕ} {c : Char} (h : c ∈ Nat.toDigits 10 n) :
    isAsciiDigit c = true := by
  have hdigit := Nat.isDigit_of_mem_toDigits (by decide) (by decide) h
  simp only [Char.isDigit, Bool.and_eq_true, decide_eq_true_eq] at hdigit
  simp only [isAsciiDigit, Bool.and_eq_true, decide_eq_true_eq]
  exact ⟨hdigit.1, hdigit.2⟩

theorem digitsValue_toDigits (n : ℕ) : digitsValue (Nat.toDigits 10 n) = n :=
  Nat.ofDigitChars_ten_toDigits

theorem parseDigits_toDigits (n : ℕ) : parseDigits (Nat.toDigits 10 n) = some n := by
  have hall : (Nat.toDigits 10 n).all isAsciiDigit = true :=
    List.all_eq_true.mpr fun _ hc => isAsciiDigit_of_mem hc
  rw [parseDigits, if_pos ⟨Nat.toDigits_ne_nil, hall⟩, digitsValue_toDigits]

/-- What starts with a digit has no sign. -/
theorem toDigits_ne_cons {n : ℕ} {c : Char} (hc : isAsciiDigit c = false) (rest : List Char) :
    Nat.toDigits 10 n ≠ c :: rest := by
  intro h
  have hdigit := isAsciiDigit_of_mem (h ▸ List.mem_cons_self)
  rw [hc] at hdigit
  cases hdigit

theorem parseU64_toDigits {n : ℕ} (h : n < 18446744073709551616) :
    parseU64 (Nat.toDigits 10 n) = some n := by
  unfold parseU64
  simp only
  split
  · next rest heq => exact absurd heq (toDigits_ne_cons (by decide) rest)
  · rw [parseDigits_toDigits, Option.filter_some, if_pos (decide_eq_true h)]

theorem parseU64_lt {s : List Char} {n : ℕ} (h : parseU64 s = some n) :
    n < 18446744073709551616 := by
  simpa using (Option.filter_eq_some_iff.mp h).2

def InI32 (n : ℤ) : Prop := -2147483648 ≤ n ∧ n < 2147483648

instance (n : ℤ) : Decidable (InI32 n) := inferInstanceAs (Decidable (_ ∧ _))

def InI64 (n : ℤ) : Prop := -9223372036854775808 ≤ n ∧ n < 9223372036854775808

instance (n : ℤ) : Decidable (InI64 n) := inferInstanceAs (Decidable (_ ∧ _))

theorem parseI32_printInt {n : ℤ} (h : InI32 n) : parseI32 (printInt n) = some n := by
  obtain ⟨hlow, hhigh⟩ := h
  unfold parseI32
  cases n with
  | ofNat n =>
    have hbound : n < 2147483648 := Int.ofNat_lt.mp hhigh
    split
    · next rest heq => exact absurd heq (toDigits_ne_cons (by decide) rest)
    · next rest heq => exact absurd heq (toDigits_ne_cons (by decide) rest)
    · rw [printInt, parseDigits_toDigits, Option.filter_some, if_pos (decide_eq_true hbound)]
      rfl
  | negSucc n =>
    have hbound : n + 1 ≤ 2147483648 := by omega
    simp only [printInt, parseDigits_toDigits, Option.filter_some, decide_eq_true hbound, if_true]
    rfl

theorem parseI32_range {s : List Char} {n : ℤ} (h : parseI32 s = some n) : InI32 n := by
  unfold parseI32 at h
  unfold InI32
  split at h <;>
    · obtain ⟨_, hm, rfl⟩ := Option.map_eq_some_iff.mp h
      obtain ⟨n, hn, hcast⟩ := Option.bind_eq_some_iff.mp hm
      have hbound := (Option.filter_eq_some_iff.mp hn).2
      obtain rfl := Option.some.inj hcast
      simp only [decide_eq_true_eq] at hbound
      omega

/-! ## Integers of JSON -/

/-- An integer literal of a JSON document. `-0` is a floating-point number. -/
def jsonInteger : List Char → Option ℤ
  | '-' :: digits => ((parseDigits digits).filter (· ≠ 0)).map fun n => -(n : ℤ)
  | digits => (parseDigits digits).map fun n => (n : ℤ)

theorem jsonInteger_printInt (n : ℤ) : jsonInteger (printInt n) = some n := by
  cases n with
  | ofNat n =>
    rw [printInt, jsonInteger, parseDigits_toDigits]
    · rfl
    · exact fun digits heq => toDigits_ne_cons (by decide) digits heq
  | negSucc n =>
    rw [printInt, jsonInteger, parseDigits_toDigits]
    rfl

theorem printInt_ne_nil (n : ℤ) : printInt n ≠ [] := by
  cases n with
  | ofNat n => exact Nat.toDigits_ne_nil
  | negSucc n => simp [printInt]

end Str
