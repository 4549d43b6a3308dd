import Mathlib.Data.List.DropRight
import Mathlib.Data.List.Infix
import Mathlib.Tactic.Common

/-! # `str` functions of the Rust standard library

Each function works on the list of characters of a string, in the standard library's words.
A split by one character is core's `List.splitOn`, `strip_prefix` is `List.isPrefixOf?`. -/
namespace Str
set_option autoImplicit false

/-- `char::is_whitespace`: the Unicode property `White_Space`. -/
def isWhitespace (c : Char) : Bool :=
  let n := c.toNat
  (9 ≤ n && n ≤ 13) || n == 32 || n == 0x85 || n == 0xA0 || n == 0x1680 ||
    (0x2000 ≤ n && n ≤ 0x200A) || n == 0x2028 || n == 0x2029 || n == 0x202F || n == 0x205F ||
    n == 0x3000

def isAsciiLowercase (c : Char) : Bool := 97 ≤ c.toNat && c.toNat ≤ 122
def isAsciiUppercase (c : Char) : Bool := 65 ≤ c.toNat && c.toNat ≤ 90
def isAsciiDigit (c : Char) : Bool := 48 ≤ c.toNat && c.toNat ≤ 57
def isAsciiAlphabetic (c : Char) : Bool := isAsciiLowercase c || isAsciiUppercase c
def isAsciiAlphanumeric (c : Char) : Bool := isAsciiAlphabetic c || isAsciiDigit c

def toAsciiLowercase (c : Char) : Char :=
  if isAsciiUppercase c then Char.ofNat (c.toNat + 32) else c

def toAsciiUppercase (c : Char) : Char :=
  if isAsciiLowercase c then Char.ofNat (c.toNat - 32) else c

def trimStartMatches (p : Char → Bool) (s : List Char) : List Char := s.dropWhile p
def trimEndMatches (p : Char → Bool) (s : List Char) : List Char := s.rdropWhile p
def trimMatches (p : Char → Bool) (s : List Char) : List Char :=
  trimEndMatches p (trimStartMatches p s)
def trim (s : List Char) : List Char := trimMatches isWhitespace s

/-- The parts before and after the first occurrence of `pat`. -/
def splitOnce (pat : List Char) : List Char → Option (List Char × List Char)
  | [] => if pat = [] then some ([], []) else none
  | c :: s =>
    match pat.isPrefixOf? (c :: s) with
    | some rest => some ([], rest)
    | none => (splitOnce pat s).map fun parts => (c :: parts.1, parts.2)

theorem splitOnce_singleton (c : Char) (s : List Char) :
    splitOnce [c] s =
      if c ∈ s then some (s.takeWhile (· != c), (s.dropWhile (· != c)).tail) else none := by
  induction s with
  | nil => simp [splitOnce]
  | cons d s ih =>
    by_cases h : c = d
    · subst h
      simp [splitOnce, List.isPrefixOf?]
    · have hne : (d != c) = true := by simpa using fun heq => h heq.symm
      simp only [splitOnce, List.isPrefixOf?, beq_false_of_ne h, Bool.false_eq_true, if_false, ih,
        List.mem_cons, h, false_or, List.takeWhile_cons, List.dropWhile_cons, hne, if_true]
      split <;> rfl

/-- The parts before and after the last `c`. -/
def rsplitOnce (c : Char) (s : List Char) : Option (List Char × List Char) :=
  (splitOnce [c] s.reverse).map fun parts => (parts.2.reverse, parts.1.reverse)

def eqIgnoreAsciiCase (s t : List Char) : Bool :=
  s.map toAsciiLowercase == t.map toAsciiLowercase

/-- `str::replace`: every occurrence of `pat` from the left, without overlaps. The fuel is the
length of the text still to be read. -/
def replaceAux (pat new : List Char) : ℕ → List Char → List Char
  | 0, s => s
  | _ + 1, [] => []
  | n + 1, c :: s =>
    match pat.isPrefixOf? (c :: s) with
    | some rest => new ++ replaceAux pat new n rest
    | none => c :: replaceAux pat new n s

def replace (pat new s : List Char) : List Char := replaceAux pat new s.length s

/-! ## Integers -/

def digitsValue (s : List Char) : ℕ := s.foldl (fun n c => 10 * n + (c.toNat - 48)) 0

def parseDigits (s : List Char) : Option ℕ :=
  if s ≠ [] ∧ s.all isAsciiDigit then some (digitsValue s) else none

/-- `str::parse::<u16>`: an optional `+` and decimal digits, at most 65535. -/
def parseU16 (s : List Char) : Option ℕ :=
  let digits := match s with
    | '+' :: rest => rest
    | _ => s
  (parseDigits digits).filter (· < 65536)

/-- `str::parse::<i32>`: an optional sign and decimal digits within the 32-bit range. -/
def parseI32 (s : List Char) : Option ℤ :=
  match s with
  | '-' :: rest => ((parseDigits rest).filter (· ≤ 2147483648)).map fun n => -(n : ℤ)
  | '+' :: rest => ((parseDigits rest).filter (· < 2147483648)).map fun n => (n : ℤ)
  | _ => ((parseDigits s).filter (· < 2147483648)).map fun n => (n : ℤ)

example : parseU16 "+080".toList = some 80 := by decide

/-- `format!("{:x}", n)`: lower-case hexadecimal without padding. -/
def lowerHex (n : ℕ) : List Char := Nat.toDigits 16 n

end Str
