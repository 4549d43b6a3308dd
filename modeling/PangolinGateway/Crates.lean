import PangolinGateway.Json

/-! # Third-party crates

What the program uses of a crate whose code is not part of the repository is a field of a class,
so that every result holds for whatever the crate does. -/
namespace PangolinGateway
set_option autoImplicit false

/-- `url::Url`, as far as the program looks at it. -/
structure Url where
  asStr : String
  scheme : String
  hostStr : Option String
  portOrKnownDefault : Option UInt16

/-- The `url` crate. -/
class UrlCrate where
  parse : String → Option Url
  /-- `form_urlencoded::parse`: the decoded name/value pairs of a query. -/
  formUrlencodedParse : String → List (String × String)
  /-- `form_urlencoded::Serializer` after `append_pair` of every pair. -/
  formUrlencodedSerialize : List (String × String) → String

/-- A byte string: a message body, or the value of a header. -/
abbrev Bytes := List UInt8

/-- The `http` crate. -/
class HttpCrate where
  /-- `HeaderValue::to_str`, which fails outside visible ASCII. -/
  toStr : Bytes → Option String
  /-- `HeaderValue::from_str`, which fails on control characters. -/
  fromStr : String → Option Bytes

/-- The `serde_json` crate on a whole body. -/
class JsonCrate where
  parse : Bytes → Option Value

/-! ## A sample: headers of visible ASCII -/

def jsonBytes (json : String) : Bytes := json.toList.map fun c => UInt8.ofNat c.toNat

@[reducible] def sampleHttpCrate : HttpCrate where
  toStr value :=
    if value.all fun b => b = 9 ∨ (32 ≤ b ∧ b < 127) then
      some (String.ofList (value.map fun b => Char.ofNat b.toNat))
    else none
  fromStr s :=
    if s.toList.all fun c => c = '\t' ∨ (32 ≤ c.toNat ∧ c.toNat < 127) then some (jsonBytes s)
    else none

end PangolinGateway
