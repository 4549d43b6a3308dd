import PangolinGateway.Text.Split

/-! # `application/x-www-form-urlencoded`

Names and values are escaped byte by byte, joined by `=` and the pairs by `&`. Reading undoes
writing: an escaped text holds neither separator, and each escaped byte is read back on its own. -/
namespace FormUrlencoded
set_option autoImplicit false

/-! ## Bytes -/

def hexDigit (n : ℕ) : Char := Char.ofNat (if n < 10 then 48 + n else 55 + n)

def hexValue (c : Char) : Option ℕ :=
  if 48 ≤ c.toNat ∧ c.toNat ≤ 57 then some (c.toNat - 48)
  else if 65 ≤ c.toNat ∧ c.toNat ≤ 70 then some (c.toNat - 55)
  else if 97 ≤ c.toNat ∧ c.toNat ≤ 102 then some (c.toNat - 87)
  else none

/-- The bytes that stand for themselves. -/
def isPlain (c : Char) : Bool := Str.isAsciiAlphanumeric c || "*-._".toList.contains c

def escapeByte (b : UInt8) : List Char :=
  let c := Char.ofNat b.toNat
  if c = ' ' then ['+']
  else if isPlain c then [c]
  else ['%', hexDigit (b.toNat / 16), hexDigit (b.toNat % 16)]

def escape (s : String) : List Char := (s.toList.flatMap String.utf8EncodeChar).flatMap escapeByte

/-- A `%` that no two hexadecimal digits follow stands for itself. -/
def unescape : List Char → List UInt8
  | [] => []
  | '+' :: s => 32 :: unescape s
  | '%' :: h :: l :: s =>
    match hexValue h, hexValue l with
    | some high, some low => UInt8.ofNat (16 * high + low) :: unescape s
    | _, _ => 37 :: unescape (h :: l :: s)
  | c :: s => String.utf8EncodeChar c ++ unescape s

/-- Text that is no UTF-8 is read as a replacement character. -/
def decode (s : List Char) : String :=
  match (unescape s).toByteArray.utf8Decode? with
  | some chars => String.ofList chars.toList
  | none => "\uFFFD"

/-! ## Pairs -/

def serializePair (pair : String × String) : List Char := escape pair.1 ++ '=' :: escape pair.2

def serialize (pairs : List (String × String)) : String :=
  String.ofList (['&'].intercalate (pairs.map serializePair))

def parsePair (piece : List Char) : String × String :=
  match Str.splitOnce ['='] piece with
  | some (name, value) => (decode name, decode value)
  | none => (decode piece, "")

def parse (query : String) : List (String × String) :=
  ((query.toList.splitOn '&').filter fun piece => !piece.isEmpty).map parsePair

/-! ## Reading an escaped text back -/

theorem unescape_plain {c : Char} (hplus : c ≠ '+') (hpercent : c ≠ '%') (s : List Char) :
    unescape (c :: s) = String.utf8EncodeChar c ++ unescape s := by
  rw [unescape]
  · exact hplus
  · intro h l t heq
    exact absurd heq hpercent

theorem isPlain_ascii {c : Char} (h : isPlain c = true) : c.toNat < 128 := by
  simp only [isPlain, Bool.or_eq_true, Str.isAsciiAlphanumeric, Str.isAsciiAlphabetic,
    Str.isAsciiLowercase, Str.isAsciiUppercase, Str.isAsciiDigit, Bool.and_eq_true,
    decide_eq_true_eq, List.contains_iff_mem] at h
  rcases h with h | h
  · omega
  · have hmarks : "*-._".toList.all (fun d => decide (d.toNat < 128)) = true := by decide
    exact of_decide_eq_true (List.all_eq_true.mp hmarks c h)

theorem isPlain_ne {c d : Char} (h : isPlain c = true) (hd : isPlain d = false) : c ≠ d := by
  rintro rfl
  exact Bool.false_ne_true (hd.symm.trans h)

theorem toNat_ofNat_byte (b : UInt8) : (Char.ofNat b.toNat).toNat = b.toNat := by
  have hb : b.toNat < 256 := UInt8.toNat_lt b
  have hvalid : b.toNat.isValidChar := Or.inl (by omega)
  rw [Char.ofNat, dif_pos hvalid]
  exact UInt32.toNat_ofNatLT ..

theorem utf8EncodeChar_byte {b : UInt8} (h : b.toNat < 128) :
    String.utf8EncodeChar (Char.ofNat b.toNat) = [b] := by
  rw [String.utf8EncodeChar, show (Char.ofNat b.toNat).val.toNat = b.toNat from toNat_ofNat_byte b]
  simp [Nat.le_of_lt_succ h]

theorem hexDigit_char {n : ℕ} (h : n < 16) :
    hexDigit n ≠ '&' ∧ hexDigit n ≠ '=' ∧ hexValue (hexDigit n) = some n := by
  have hall : ∀ m < 16, hexDigit m ≠ '&' ∧ hexDigit m ≠ '=' ∧ hexValue (hexDigit m) = some m := by
    decide
  exact hall n h

/-- A byte that was escaped is read back, whatever follows it. -/
theorem unescape_escapeByte (b : UInt8) (s : List Char) :
    unescape (escapeByte b ++ s) = b :: unescape s := by
  have hchar := toNat_ofNat_byte b
  unfold escapeByte
  simp only
  split
  · next hspace =>
    have hb : b.toNat = 32 := by rw [← hchar, hspace]; rfl
    obtain rfl : b = 32 := UInt8.toNat_inj.mp hb
    rfl
  · split
    · next hplain =>
      have hascii := isPlain_ascii hplain
      rw [hchar] at hascii
      rw [List.singleton_append, unescape_plain (isPlain_ne hplain (by decide))
        (isPlain_ne hplain (by decide)), utf8EncodeChar_byte hascii]
      rfl
    · have hb : b.toNat < 256 := UInt8.toNat_lt b
      obtain ⟨_, _, hhigh⟩ := hexDigit_char (n := b.toNat / 16) (by omega)
      obtain ⟨_, _, hlow⟩ := hexDigit_char (n := b.toNat % 16) (by omega)
      rw [List.cons_append, List.cons_append, List.cons_append, List.nil_append, unescape, hhigh,
        hlow]
      simp only [Nat.div_add_mod, UInt8.ofNat_toNat]

theorem unescape_escape (s : String) :
    unescape (escape s) = s.toList.flatMap String.utf8EncodeChar := by
  unfold escape
  induction s.toList.flatMap String.utf8EncodeChar with
  | nil => rfl
  | cons b bytes ih => rw [List.flatMap_cons, unescape_escapeByte, ih]

theorem decode_escape (s : String) : decode (escape s) = s := by
  have hchars : (s.toList.flatMap String.utf8EncodeChar).toByteArray.utf8Decode? =
      some s.toList.toArray := List.utf8Decode?_utf8Encode
  unfold decode
  rw [unescape_escape, hchars]
  simp

/-! ## Reading the pairs back -/

theorem not_mem_escape (s : String) : '&' ∉ escape s ∧ '=' ∉ escape s := by
  have hbyte : ∀ b : UInt8, '&' ∉ escapeByte b ∧ '=' ∉ escapeByte b := by
    intro b
    have hb : b.toNat < 256 := UInt8.toNat_lt b
    have hhigh := hexDigit_char (n := b.toNat / 16) (by omega)
    have hlow := hexDigit_char (n := b.toNat % 16) (by omega)
    unfold escapeByte
    simp only
    split
    · decide
    · split
      · next hplain =>
        simp only [List.mem_singleton]
        exact ⟨(isPlain_ne hplain (by decide)).symm, (isPlain_ne hplain (by decide)).symm⟩
      · simp [hhigh.1.symm, hhigh.2.1.symm, hlow.1.symm, hlow.2.1.symm]
  constructor
  · intro hmem
    obtain ⟨b, _, hb⟩ := List.mem_flatMap.mp hmem
    exact (hbyte b).1 hb
  · intro hmem
    obtain ⟨b, _, hb⟩ := List.mem_flatMap.mp hmem
    exact (hbyte b).2 hb

theorem parsePair_serializePair (pair : String × String) :
    parsePair (serializePair pair) = pair := by
  have hsplit : Str.splitOnce ['='] (serializePair pair) =
      some (escape pair.1, escape pair.2) :=
    Str.splitOnce_singleton_iff.mpr ⟨rfl, (not_mem_escape pair.1).2⟩
  unfold parsePair
  rw [hsplit]
  simp only [decode_escape]

theorem not_mem_serializePair (pair : String × String) : '&' ∉ serializePair pair := by
  simp [serializePair, (not_mem_escape pair.1).1, (not_mem_escape pair.2).1]

theorem parse_serialize (pairs : List (String × String)) : parse (serialize pairs) = pairs := by
  cases pairs with
  | nil => rfl
  | cons pair pairs =>
    have hpieces : (serialize (pair :: pairs)).toList.splitOn '&' =
        (pair :: pairs).map serializePair := by
      rw [serialize, String.toList_ofList]
      apply List.splitOn_intercalate
      · rw [List.forall_mem_map]
        exact fun p _ => not_mem_serializePair p
      · simp
    have hall : ∀ piece ∈ (pair :: pairs).map serializePair, (!piece.isEmpty) = true := by
      rw [List.forall_mem_map]
      intro p _
      simp [serializePair]
    rw [parse, hpieces, List.filter_eq_self.mpr hall, List.map_map]
    conv_rhs => rw [← List.map_id (pair :: pairs)]
    exact List.map_congr_left fun p _ => parsePair_serializePair p

end FormUrlencoded
