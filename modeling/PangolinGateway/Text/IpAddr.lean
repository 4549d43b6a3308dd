import PangolinGateway.Text.Str

/-! # `std::net::IpAddr`: the parser and the printer of the Rust standard library

The parser reads a prefix and hands back the rest. An octet has at most three decimal digits and no
leading zero, an IPv6 group at most four hexadecimal digits, and an IPv4 tail may stand for the last
two groups. The printer shortens the first longest run of at least two zero groups. -/
namespace Str
set_option autoImplicit false

inductive IpAddr where
  | v4 (octets : Vector ℕ 4)
  | v6 (segments : Vector ℕ 8)
  deriving DecidableEq

namespace IpAddr

def toDigit (radix : ℕ) (c : Char) : Option ℕ :=
  let digit :=
    if isAsciiDigit c then some (c.toNat - 48)
    else if isAsciiLowercase c then some (c.toNat - 87)
    else if isAsciiUppercase c then some (c.toNat - 55)
    else none
  digit.filter (· < radix)

def readNumber (radix maxDigits bound : ℕ) (allowZeroPrefix : Bool) (s : List Char) :
    Option (ℕ × List Char) :=
  let digits := s.takeWhile fun c => (toDigit radix c).isSome
  let value := digits.foldl (fun n c => radix * n + (toDigit radix c).getD 0) 0
  if digits.length = 0 ∨ maxDigits < digits.length then none
  else if !allowZeroPrefix && s.head? == some '0' && decide (1 < digits.length) then none
  else if bound ≤ value then none
  else some (value, s.drop digits.length)

def readGivenChar (c : Char) : List Char → Option (List Char)
  | [] => none
  | d :: s => if c = d then some s else none

/-- The separator stands before every item but the first. -/
def readSeparator {α : Type} (sep : Char) (first : Bool)
    (inner : List Char → Option (α × List Char)) (s : List Char) : Option (α × List Char) :=
  if first then inner s else (readGivenChar sep s).bind inner

def readIpv4Addr (s : List Char) : Option (Vector ℕ 4 × List Char) := do
  let octet := readNumber 10 3 256 false
  let (a, s) ← readSeparator '.' true octet s
  let (b, s) ← readSeparator '.' false octet s
  let (c, s) ← readSeparator '.' false octet s
  let (d, s) ← readSeparator '.' false octet s
  return (#v[a, b, c, d], s)

/-- Up to `limit` groups. The flag says that an IPv4 address ended them; it needs two groups. -/
def readGroups (first : Bool) : ℕ → List Char → List ℕ × Bool × List Char
  | 0, s => ([], false, s)
  | limit + 1, s =>
    let ipv4 := if limit = 0 then none else readSeparator ':' first readIpv4Addr s
    match ipv4 with
    | some (o, rest) => ([256 * o[0] + o[1], 256 * o[2] + o[3]], true, rest)
    | none =>
      match readSeparator ':' first (readNumber 16 4 65536 true) s with
      | none => ([], false, s)
      | some (g, rest) =>
        let (groups, ipv4Tail, rest) := readGroups false limit rest
        (g :: groups, ipv4Tail, rest)

def ofSegments (segments : List ℕ) : Option (Vector ℕ 8) :=
  if h : segments.length = 8 then some ⟨segments.toArray, by simp [h]⟩ else none

def readIpv6Addr (s : List Char) : Option (Vector ℕ 8 × List Char) := do
  let (head, headIpv4, s) := readGroups true 8 s
  if head.length = 8 then
    return (← ofSegments head, s)
  if headIpv4 then
    none
  let s ← readGivenChar ':' s
  let s ← readGivenChar ':' s
  -- the `::` stands for at least one group
  let (tail, _, s) := readGroups true (8 - (head.length + 1)) s
  return (← ofSegments (head ++ List.replicate (8 - head.length - tail.length) 0 ++ tail), s)

/-- `str::parse::<IpAddr>`. -/
def parse (s : List Char) : Option IpAddr :=
  let parsed := ((readIpv4Addr s).map fun r => (v4 r.1, r.2)).or
    ((readIpv6Addr s).map fun r => (v6 r.1, r.2))
  match parsed with
  | some (ip, []) => some ip
  | _ => none

/-! ## Printing -/

def joinWith (sep : Char) : List (List Char) → List Char
  | [] => []
  | [s] => s
  | s :: rest => s ++ sep :: joinWith sep rest

def decimal (n : ℕ) : List Char := Nat.toDigits 10 n

/-- Start and length of the longest run of zeros, the first one on a tie. -/
def longestZeros (segments : List ℕ) : ℕ × ℕ :=
  let scan := segments.zipIdx.foldl (fun (longest, current) (segment, i) =>
    if segment = 0 then
      let current := if current.2 = 0 then (i, 1) else (current.1, current.2 + 1)
      (if longest.2 < current.2 then current else longest, current)
    else (longest, (0, 0))) (((0, 0), (0, 0)) : (ℕ × ℕ) × ℕ × ℕ)
  scan.1

def printSegments (segments : List ℕ) : List Char := joinWith ':' (segments.map lowerHex)

/-- `IpAddr::to_string`. -/
def print : IpAddr → List Char
  | v4 octets => joinWith '.' (octets.toList.map decimal)
  | v6 segments =>
    let l := segments.toList
    if l.take 6 = [0, 0, 0, 0, 0, 0xffff] then
      "::ffff:".toList ++ joinWith '.' ((l.drop 6).flatMap fun g => [decimal (g / 256), decimal (g % 256)])
    else
      let (start, len) := longestZeros l
      if 1 < len then printSegments (l.take start) ++ "::".toList ++ printSegments (l.drop (start + len))
      else printSegments l

example : ((parse "2001:db8:0:0::1.2.3.4".toList).map print) = some "2001:db8::102:304".toList := by
  decide

end IpAddr
end Str
