import PangolinGateway.Kube.Cluster

/-! # The desired set -/
namespace PangolinGateway
set_option autoImplicit false

/-- Everything the controller wants to exist in the cluster, keyed by resource name. -/
structure Desired where
  httpRoutes : Map HTTPRoute
  listenerSets : Map ListenerSet
  services : Map Service
  endpointSlices : Map EndpointSlice
  envoyBackends : Map Backend
  tcpRoutes : Map TCPRoute
  udpRoutes : Map UDPRoute
  securityPolicies : Map SecurityPolicy
  backendTlsPolicies : Map BackendTLSPolicy

def Desired.empty : Desired := ⟨∅, ∅, ∅, ∅, ∅, ∅, ∅, ∅, ∅⟩

/-- The maps that no backend emitter writes to. -/
def Desired.routing (d : Desired) :
    Map HTTPRoute × Map SecurityPolicy × Map ListenerSet × Map TCPRoute × Map UDPRoute :=
  (d.httpRoutes, d.securityPolicies, d.listenerSets, d.tcpRoutes, d.udpRoutes)

/-- The maps that the L4 transform does not write to. -/
def Desired.httpRouting (d : Desired) : Map HTTPRoute × Map SecurityPolicy × Map ListenerSet :=
  (d.httpRoutes, d.securityPolicies, d.listenerSets)

structure ResolvedBackend where
  group : String
  kind : String
  name : String
  /-- Set when the backend lives outside the controller's namespace. -/
  ns : Option String
  port : ℤ

abbrev BackendIndex := Map ResolvedBackend

/-! ## The objects of every kind -/

abbrev Entry := (k : Kind) × k.Obj

def Desired.objects (d : Desired) : (k : Kind) → Map k.Obj
  | .service => d.services
  | .endpointSlice => d.endpointSlices
  | .envoyBackend => d.envoyBackends
  | .backendTlsPolicy => d.backendTlsPolicies
  | .listenerSet => d.listenerSets
  | .httpRoute => d.httpRoutes
  | .tcpRoute => d.tcpRoutes
  | .udpRoute => d.udpRoutes
  | .securityPolicy => d.securityPolicies

def Desired.find (d : Desired) (k : Kind) (name : String) : Option k.Obj := (d.objects k)[name]?

/-- The names that survive the sweep of a kind. -/
def Desired.names (d : Desired) (k : Kind) : StringSet :=
  Std.ExtTreeSet.ofList (d.objects k).keys

theorem Desired.mem_names {d : Desired} {k : Kind} {name : String} :
    name ∈ d.names k ↔ ∃ obj, d.find k name = some obj := by
  rw [Desired.names, Std.ExtTreeSet.mem_ofList, Desired.find, ← Option.isSome_iff_exists,
    ← Std.ExtTreeMap.mem_iff_isSome_getElem?, ← Std.ExtTreeMap.mem_keys, List.contains_iff_mem]

/-- Backends first so that backendRefs resolve at once, then the parent of the routes, then the
routes, and the policies last. -/
def applyOrder : List Kind :=
  [.service, .endpointSlice, .envoyBackend, .backendTlsPolicy, .listenerSet,
    .httpRoute, .tcpRoute, .udpRoute, .securityPolicy]

def Desired.entries (d : Desired) : List Entry :=
  applyOrder.flatMap fun k => (d.objects k).values.map fun obj => ⟨k, obj⟩

theorem mem_applyOrder (k : Kind) : k ∈ applyOrder := by
  cases k <;> decide

theorem Desired.mem_entries {d : Desired} {k : Kind} {obj : k.Obj} :
    (⟨k, obj⟩ : Entry) ∈ d.entries ↔ ∃ name, d.find k name = some obj := by
  rw [Desired.entries, List.mem_flatMap]
  constructor
  · rintro ⟨k', _, hmem⟩
    obtain ⟨obj', hobj, heq⟩ := List.mem_map.mp hmem
    obtain ⟨rfl, rfl⟩ := heq
    exact Map.mem_values.mp hobj
  · intro h
    exact ⟨k, mem_applyOrder k, List.mem_map.mpr ⟨obj, Map.mem_values.mpr h, rfl⟩⟩

/-- Every desired object is stored under its own name. -/
def Desired.Named (d : Desired) : Prop :=
  ∀ k name obj, d.find k name = some obj → (k.metadata obj).name = some name

end PangolinGateway
