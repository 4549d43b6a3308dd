import PangolinGateway.Calls.Loop
import PangolinGateway.Kube.Metadata
import Mathlib.Logic.Function.Basic

/-! # The objects of one namespace and the API server in front of them

A cluster maps a kind and a name to an object that carries that name. The three calls the
controller makes are a forced server-side apply, a list by label selector and a delete; an
environment says which of them fail, and whether a failed write was lost before or after it took
effect. -/
namespace PangolinGateway
set_option autoImplicit false

inductive Kind where
  | service | endpointSlice | envoyBackend | backendTlsPolicy | listenerSet
  | httpRoute | tcpRoute | udpRoute | securityPolicy
deriving DecidableEq, Repr

namespace Kind

abbrev Obj : Kind → Type
  | service => Service
  | endpointSlice => EndpointSlice
  | envoyBackend => Backend
  | backendTlsPolicy => BackendTLSPolicy
  | listenerSet => ListenerSet
  | httpRoute => HTTPRoute
  | tcpRoute => TCPRoute
  | udpRoute => UDPRoute
  | securityPolicy => SecurityPolicy

def metadata : (k : Kind) → k.Obj → ObjectMeta
  | service, obj => obj.metadata
  | endpointSlice, obj => obj.metadata
  | envoyBackend, obj => obj.metadata
  | backendTlsPolicy, obj => obj.metadata
  | listenerSet, obj => obj.metadata
  | httpRoute, obj => obj.metadata
  | tcpRoute, obj => obj.metadata
  | udpRoute, obj => obj.metadata
  | securityPolicy, obj => obj.metadata

end Kind

/-- Every object is stored under its own name. -/
structure Cluster where
  objects : (k : Kind) → Map k.Obj
  named : ∀ k name obj, (objects k)[name]? = some obj → (k.metadata obj).name = some name

namespace Cluster

def empty : Cluster where
  objects _ := ∅
  named _ _ _ h := by simp at h

def find (c : Cluster) (k : Kind) (name : String) : Option k.Obj := (c.objects k)[name]?

def put (c : Cluster) (k : Kind) (name : String) (obj : k.Obj)
    (hname : (k.metadata obj).name = some name) : Cluster where
  objects := Function.update c.objects k ((c.objects k).insert name obj)
  named := by
    intro k' name' obj' h
    by_cases hk : k' = k
    · subst hk
      rw [Function.update_self, Std.ExtTreeMap.getElem?_insert] at h
      by_cases hn : name = name'
      · subst hn
        simp only [Std.ReflCmp.compare_self, if_true, Option.some.injEq] at h
        rwa [← h]
      · rw [if_neg (fun he => hn (Std.LawfulEqCmp.eq_of_compare he))] at h
        exact c.named k' name' obj' h
    · rw [Function.update_of_ne hk] at h
      exact c.named k' name' obj' h

def remove (c : Cluster) (k : Kind) (name : String) : Cluster where
  objects := Function.update c.objects k ((c.objects k).erase name)
  named := by
    intro k' name' obj' h
    by_cases hk : k' = k
    · subst hk
      rw [Function.update_self, Std.ExtTreeMap.getElem?_erase] at h
      split at h
      · simp at h
      · exact c.named k' name' obj' h
    · rw [Function.update_of_ne hk] at h
      exact c.named k' name' obj' h

/-- The objects of a kind that match a selector, in order of their names. -/
def select (c : Cluster) (k : Kind) (selector : Selector) : List k.Obj :=
  (c.objects k).values.filter fun obj => (k.metadata obj).matchesSelector selector

@[ext] theorem ext_find {c c' : Cluster} (h : ∀ k name, c.find k name = c'.find k name) :
    c = c' := by
  cases c with
  | mk objects named =>
    cases c' with
    | mk objects' named' =>
      congr 1
      funext k
      exact Std.ExtTreeMap.ext_getElem? fun {name} => h k name

@[simp] theorem find_empty (k : Kind) (name : String) : empty.find k name = none := by
  simp [find, empty]

theorem find_named {c : Cluster} {k : Kind} {name : String} {obj : k.Obj}
    (h : c.find k name = some obj) : (k.metadata obj).name = some name :=
  c.named k name obj h

theorem find_put_self (c : Cluster) (k : Kind) (name : String) (obj : k.Obj)
    (hname : (k.metadata obj).name = some name) :
    (c.put k name obj hname).find k name = some obj := by
  simp [find, put]

theorem find_put_of_ne (c : Cluster) (k : Kind) (name : String) (obj : k.Obj)
    (hname : (k.metadata obj).name = some name) {k' : Kind} {name' : String}
    (h : ¬(k' = k ∧ name' = name)) : (c.put k name obj hname).find k' name' = c.find k' name' := by
  by_cases hk : k' = k
  · subst hk
    have hne : ¬compare name name' = .eq := fun he =>
      h ⟨rfl, (Std.LawfulEqCmp.eq_of_compare he).symm⟩
    simp only [find, put, Function.update_self, Std.ExtTreeMap.getElem?_insert, if_neg hne]
  · simp only [find, put, Function.update_of_ne hk]

theorem find_remove (c : Cluster) (k : Kind) (name : String) (k' : Kind) (name' : String) :
    (c.remove k name).find k' name' =
      if k' = k ∧ name' = name then none else c.find k' name' := by
  by_cases hk : k' = k
  · subst hk
    simp only [find, remove, Function.update_self, Std.ExtTreeMap.getElem?_erase,
      Std.LawfulEqOrd.compare_eq_iff_eq, true_and]
    simp only [eq_comm]
  · simp only [find, remove, Function.update_of_ne hk, hk, false_and, if_false]

theorem mem_select {c : Cluster} {k : Kind} {selector : Selector} {obj : k.Obj} :
    obj ∈ c.select k selector ↔
      (∃ name, c.find k name = some obj) ∧ (k.metadata obj).matchesSelector selector = true := by
  rw [select, List.mem_filter, Map.mem_values]
  rfl

end Cluster

/-! ## Calls -/

inductive KubeError where
  /-- A status answer of the API server. -/
  | api (code : ℕ)
  | transport
deriving DecidableEq, Repr

inductive Call where
  | patch (k : Kind) (name : String) (obj : k.Obj) (hname : (k.metadata obj).name = some name)
  | list (k : Kind) (selector : Selector)
  | delete (k : Kind) (name : String)

abbrev Call.Reply : Call → Type
  | patch .. => Except KubeError Unit
  | list k _ => Except KubeError (List k.Obj)
  | delete .. => Except KubeError Unit

/-- What becomes of a call. -/
inductive Outcome where
  | answered
  /-- Refused or never received. -/
  | failed (e : KubeError)
  /-- Carried out, but the answer is an error: a timeout, a broken connection. -/
  | lost (e : KubeError)
deriving DecidableEq, Repr

def Outcome.takesEffect : Outcome → Bool
  | failed _ => false
  | _ => true

def Outcome.reply {α : Type} (a : α) : Outcome → Except KubeError α
  | answered => .ok a
  | failed e => .error e
  | lost e => .error e

abbrev Environment := Call → Outcome

/-- The API server under `env`. -/
def serve (env : Environment) : Calls.Server Call Call.Reply Cluster
  | .patch k name obj hname, c =>
    let outcome := env (.patch k name obj hname)
    (outcome.reply (), if outcome.takesEffect then c.put k name obj hname else c)
  | .list k selector, c => ((env (.list k selector)).reply (c.select k selector), c)
  | .delete k name, c =>
    let outcome := env (.delete k name)
    (match outcome with
      -- deleting what is not there is answered with a 404
      | .answered => if name ∈ c.objects k then .ok () else .error (.api 404)
      | _ => outcome.reply (),
      if outcome.takesEffect then c.remove k name else c)

end PangolinGateway
