import PangolinGateway.Text.Str

/-! # Kubernetes names

RFC 1123 DNS labels: lower-case alphanumeric or `-`, alphanumeric at both ends, at most 63
characters. The hash behind the suffix of a long name is a parameter: the standard library fixes
no algorithm for its default hasher. -/
namespace PangolinGateway
set_option autoImplicit false

/-- `std::hash::DefaultHasher` over a string. -/
class DefaultHasher where
  hash : String → UInt64

def maxDnsLabel : ℕ := 63

def cleanChar (c : Char) : Char :=
  if Str.isAsciiUppercase c then Str.toAsciiLowercase c
  else if Str.isAsciiLowercase c || Str.isAsciiDigit c || c == '-' then c
  else '-'

/-- The flag says that the last character written is a dash. -/
def collapseDashesFrom (prevDash : Bool) : List Char → List Char
  | [] => []
  | c :: s =>
    if c = '-' then
      if prevDash then collapseDashesFrom true s else '-' :: collapseDashesFrom true s
    else c :: collapseDashesFrom false s

def collapseDashes (s : List Char) : List Char := collapseDashesFrom false s

/-- The sanitised name before truncation. -/
def dnsBase (input : String) : List Char :=
  let cleaned := input.toList.map cleanChar
  let trimmed := Str.trimMatches (· == '-') (collapseDashes cleaned)
  if trimmed.isEmpty then "pangolin".toList else trimmed

variable [DefaultHasher]

/-- Sanitize an arbitrary string to a DNS-1123 label, keeping a short hash suffix
to disambiguate when truncation collides. -/
def dnsLabel (input : String) : String :=
  let base := dnsBase input
  if base.length ≤ maxDnsLabel then String.ofList base
  else
    let suffix := '-' :: Str.lowerHex ((DefaultHasher.hash input).toNat &&& 0xffffffff)
    let headLen := maxDnsLabel - suffix.length
    let head := Str.trimEndMatches (· == '-') (base.take headLen)
    String.ofList (head ++ suffix)

/-- Stable composite name: `<prefix>-<sanitized>`, hashed when overlong. -/
def prefixedLabel (pre name : String) : String := dnsLabel (pre ++ "-" ++ name)

end PangolinGateway
