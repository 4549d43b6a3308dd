import Mathlib.Data.List.Infix
import Mathlib.Tactic.Common

/-! # JSON values

`Value` is a parsed document: an object keeps its members in document order. `asObject` is
`serde_json`'s map, ordered by key, where a later member replaces an earlier one of the same name.
`Map` and `StringSet` stand for the standard library's `BTreeMap` and `BTreeSet` throughout. -/
namespace PangolinGateway
set_option autoImplicit false

/-- `BTreeMap<String, V>`. Iteration is by key, in byte order, which is the order of code points. -/
abbrev Map (V : Type) := Std.ExtTreeMap String V

theorem Map.toList_keys_nodup {V : Type} (m : Map V) : (m.toList.map Prod.fst).Nodup := by
  rw [Std.ExtTreeMap.map_fst_toList_eq_keys]
  exact Std.ExtTreeMap.nodup_keys

theorem Map.mem_of_getElem? {V : Type} {m : Map V} {k : String} {v : V} (h : m[k]? = some v) :
    k ∈ m :=
  Std.ExtTreeMap.mem_iff_isSome_getElem?.mpr (by rw [h]; rfl)

def Map.values {V : Type} (m : Map V) : List V := m.toList.map Prod.snd

theorem Map.mem_values {V : Type} {m : Map V} {v : V} :
    v ∈ m.values ↔ ∃ k : String, m[k]? = some v := by
  simp [Map.values, Std.ExtTreeMap.mem_toList_iff_getElem?_eq_some]

abbrev StringSet := Std.ExtTreeSet String

inductive Value where
  | null
  | bool (b : Bool)
  | number (literal : String)
  | string (s : String)
  | array (items : List Value)
  | object (members : List (String × Value))

namespace Value

def asBool : Value → Option Bool
  | bool b => some b
  | _ => none

def asStr : Value → Option String
  | string s => some s
  | _ => none

def asArray : Value → Option (List Value)
  | array items => some items
  | _ => none

def asObject : Value → Option (Map Value)
  | object members => some (Std.ExtTreeMap.ofList members)
  | _ => none

/-- `Value::get` with a string index: only an object has members. -/
def get (v : Value) (key : String) : Option Value := v.asObject.bind fun obj => obj[key]?

/-! ## Derived decoders

A struct is read from an object by member name, where unknown members are ignored and a repeated one
is refused, or from an array by position. -/

def fields (names : List String) : Value → Option (List (String × Value))
  | object members =>
    let known := members.filter fun member => names.contains member.1
    if (known.map Prod.fst).Nodup then some known else none
  | array items => if items.length ≤ names.length then some (names.zip items) else none
  | _ => none

/-- A member marked `#[serde(default)]`. -/
def fieldOr {α : Type} (members : List (String × Value)) (name : String)
    (decode : Value → Option α) (absent : α) : Option α :=
  match members.lookup name with
  | some v => decode v
  | none => some absent

def nullable {α : Type} (decode : Value → Option α) : Value → Option (Option α)
  | null => some none
  | v => (decode v).map some

end Value
end PangolinGateway
