import PangolinGateway.Maps.WriteLog
import PangolinGateway.Transform.Desired

/-! # Desired sets as logs of writes

Every builder only inserts objects, each under its own name, and none reads what is there. What a
desired set holds under a kind and a name is the last object of that name written. -/
namespace PangolinGateway
set_option autoImplicit false

def insertNamed {V : Type} (metadata : V → ObjectMeta) (m : Map V) (v : V) : Map V :=
  match (metadata v).name with
  | some name => m.insert name v
  | none => m

def Desired.write (d : Desired) : Entry → Desired
  | ⟨.service, obj⟩ => { d with services := insertNamed Service.metadata d.services obj }
  | ⟨.endpointSlice, obj⟩ =>
    { d with endpointSlices := insertNamed EndpointSlice.metadata d.endpointSlices obj }
  | ⟨.envoyBackend, obj⟩ =>
    { d with envoyBackends := insertNamed Backend.metadata d.envoyBackends obj }
  | ⟨.backendTlsPolicy, obj⟩ =>
    { d with backendTlsPolicies := insertNamed BackendTLSPolicy.metadata d.backendTlsPolicies obj }
  | ⟨.listenerSet, obj⟩ =>
    { d with listenerSets := insertNamed ListenerSet.metadata d.listenerSets obj }
  | ⟨.httpRoute, obj⟩ => { d with httpRoutes := insertNamed HTTPRoute.metadata d.httpRoutes obj }
  | ⟨.tcpRoute, obj⟩ => { d with tcpRoutes := insertNamed TCPRoute.metadata d.tcpRoutes obj }
  | ⟨.udpRoute, obj⟩ => { d with udpRoutes := insertNamed UDPRoute.metadata d.udpRoutes obj }
  | ⟨.securityPolicy, obj⟩ =>
    { d with securityPolicies := insertNamed SecurityPolicy.metadata d.securityPolicies obj }

def Desired.writeAll (d : Desired) (entries : List Entry) : Desired := entries.foldl write d

namespace Desired

theorem objects_write_self (d : Desired) (k : Kind) (obj : k.Obj) :
    (d.write ⟨k, obj⟩).objects k = insertNamed k.metadata (d.objects k) obj := by
  cases k <;> rfl

theorem objects_write_of_ne (d : Desired) {k k' : Kind} (obj : k.Obj) (h : k' ≠ k) :
    (d.write ⟨k, obj⟩).objects k' = d.objects k' := by
  cases k <;> cases k' <;> first | rfl | exact absurd rfl h

theorem find_write_self (d : Desired) {k : Kind} {obj : k.Obj} {name : String}
    (hname : (k.metadata obj).name = some name) : (d.write ⟨k, obj⟩).find k name = some obj := by
  rw [find, objects_write_self, insertNamed, hname]
  exact Std.ExtTreeMap.getElem?_insert_self

theorem find_write_of_ne (d : Desired) {k k' : Kind} {obj : k.Obj} {name : String}
    (h : ¬(k' = k ∧ (k.metadata obj).name = some name)) :
    (d.write ⟨k, obj⟩).find k' name = d.find k' name := by
  by_cases hk : k' = k
  · subst hk
    rw [find, objects_write_self, insertNamed]
    cases hname : (k'.metadata obj).name with
    | none => rfl
    | some name' =>
      have hne : compare name' name ≠ .eq := by
        intro heq
        exact h ⟨rfl, by rw [hname, Std.LawfulEqCmp.eq_of_compare heq]⟩
      simp only [Std.ExtTreeMap.getElem?_insert, if_neg hne]
      rfl
  · rw [find, objects_write_of_ne d obj hk, find]

@[simp] theorem find_empty (k : Kind) (name : String) : Desired.empty.find k name = none := by
  cases k <;> simp [find, objects, Desired.empty]

@[simp] theorem writeAll_nil (d : Desired) : d.writeAll [] = d := rfl

theorem writeAll_append (d : Desired) (entries entries' : List Entry) :
    d.writeAll (entries ++ entries') = (d.writeAll entries).writeAll entries' :=
  List.foldl_append

/-! ## What a log leaves -/

theorem find_writeAll_origin {d : Desired} {entries : List Entry} {k : Kind} {name : String}
    {obj : k.Obj} (h : (d.writeAll entries).find k name = some obj) :
    d.find k name = some obj ∨
      ((⟨k, obj⟩ : Entry) ∈ entries ∧ (k.metadata obj).name = some name) := by
  induction entries using List.reverseRecOn with
  | nil => exact Or.inl h
  | append_singleton entries entry ih =>
    obtain ⟨k', obj'⟩ := entry
    rw [writeAll_append] at h
    by_cases hkey : k = k' ∧ (k'.metadata obj').name = some name
    · obtain ⟨rfl, hname⟩ := hkey
      have hself : ((d.writeAll entries).write ⟨k, obj'⟩).find k name = some obj' :=
        find_write_self _ hname
      obtain rfl : obj' = obj := Option.some.inj (hself.symm.trans h)
      exact Or.inr ⟨by simp, hname⟩
    · have hrest : ((d.writeAll entries).write ⟨k', obj'⟩).find k name =
          (d.writeAll entries).find k name := find_write_of_ne _ hkey
      rcases ih (hrest.symm.trans h) with hold | ⟨hmem, hname⟩
      · exact Or.inl hold
      · exact Or.inr ⟨List.mem_append_left _ hmem, hname⟩

theorem find_writeAll_written (d : Desired) {entries : List Entry} {k : Kind} {name : String}
    {obj : k.Obj} (hmem : (⟨k, obj⟩ : Entry) ∈ entries)
    (hname : (k.metadata obj).name = some name) :
    ∃ obj' : k.Obj, (⟨k, obj'⟩ : Entry) ∈ entries ∧ (k.metadata obj').name = some name ∧
      (d.writeAll entries).find k name = some obj' := by
  induction entries using List.reverseRecOn with
  | nil => simp at hmem
  | append_singleton entries entry ih =>
    obtain ⟨k', obj'⟩ := entry
    rw [writeAll_append]
    by_cases hkey : k = k' ∧ (k'.metadata obj').name = some name
    · obtain ⟨rfl, hname'⟩ := hkey
      exact ⟨obj', by simp, hname', find_write_self _ hname'⟩
    · have hfront : (⟨k, obj⟩ : Entry) ∈ entries := by
        rcases List.mem_append.mp hmem with hmem | hmem
        · exact hmem
        · obtain ⟨rfl, heq⟩ := Sigma.mk.inj (List.mem_singleton.mp hmem)
          exact absurd ⟨rfl, eq_of_heq heq ▸ hname⟩ hkey
      obtain ⟨last, hlast, hlastName, hfind⟩ := ih hfront
      exact ⟨last, List.mem_append_left _ hlast, hlastName,
        (find_write_of_ne _ hkey).trans hfind⟩

/-- An object that no other of its kind and name is written beside is there in the end. -/
theorem find_writeAll_sole (d : Desired) {entries : List Entry} {k : Kind} {name : String}
    {obj : k.Obj} (hmem : (⟨k, obj⟩ : Entry) ∈ entries)
    (hname : (k.metadata obj).name = some name)
    (hsole : ∀ obj' : k.Obj, (⟨k, obj'⟩ : Entry) ∈ entries →
      (k.metadata obj').name = some name → obj' = obj) :
    (d.writeAll entries).find k name = some obj := by
  obtain ⟨obj', hmem', hname', hfind⟩ := find_writeAll_written d hmem hname
  rw [hfind, hsole obj' hmem' hname']

end Desired
end PangolinGateway
