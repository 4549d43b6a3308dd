import Mathlib.Data.Set.Card
import PangolinGateway.Transform.L4Ports
import PangolinGateway.Transform.ListenerNames

/-! # How many listeners the ListenerSet has

One for every host that is routed, one more for every host that asked for TLS when HTTPS listeners
are on and have a secret, and one for every TCP and UDP port that is offered. The set is emitted
whatever that sum is. -/
namespace PangolinGateway
set_option autoImplicit false

/-- The bounds that the schema puts on the listeners of a ListenerSet. -/
def ListenerSet.Admissible (ls : ListenerSet) : Prop :=
  1 ≤ ls.spec.listeners.length ∧ ls.spec.listeners.length ≤ 64

/-- Every ListenerSet of the desired set is within the bounds. -/
def ListenerSetsAdmissible (desired : Desired) : Prop :=
  ∀ (name : String) (ls : ListenerSet), desired.listenerSets[name]? = some ls → ls.Admissible

theorem ncard_mem_list {A : Type} {l : List A} (h : l.Nodup) : {a | a ∈ l}.ncard = l.length := by
  classical
  rw [← List.toFinset_card_of_nodup h, ← Set.ncard_coe_finset]
  congr 1
  ext a
  simp

/-- The TCP or UDP ports that routers of the block offer. -/
def offeredPorts (cfg : Config) (dynConfig : TraefikDynamicConfig) (proto : L4Protocol) : Set ℤ :=
  {port | ∃ entry ∈ (l4Block cfg dynConfig proto).routers.toList,
    Offers cfg (l4Block cfg dynConfig proto) proto entry port}

variable [DefaultHasher]

theorem l4Claims_length (cfg : Config) (dynConfig : TraefikDynamicConfig) (proto : L4Protocol) :
    (l4Claims cfg (l4Block cfg dynConfig proto) proto).listeners.length =
      (offeredPorts cfg dynConfig proto).ncard := by
  have hlisted := l4Claims_listed cfg (l4Block cfg dynConfig proto) proto
  have hports : (l4Claims cfg (l4Block cfg dynConfig proto) proto).listeners.map
      ListenerSetListener.port = ((l4Claims cfg (l4Block cfg dynConfig proto) proto).claimedPorts.map
        Prod.fst).reverse := by
    rw [hlisted.listeners, List.map_map, ← List.map_reverse]
    rfl
  have hnodup : ((l4Claims cfg (l4Block cfg dynConfig proto) proto).listeners.map
      ListenerSetListener.port).Nodup := by
    rw [hports]
    exact List.nodup_reverse.mpr hlisted.distinct
  rw [← List.length_map ListenerSetListener.port, ← ncard_mem_list hnodup]
  congr 1
  ext port
  rw [Set.mem_ofPred_eq, List.mem_map]
  exact l4Claims_port

variable [UrlCrate]

/-- The listeners that the configuration asks for. -/
noncomputable def listenerCount (cfg : Config) (dynConfig : TraefikDynamicConfig) : ℕ :=
  {host | RoutedHost cfg dynConfig host}.ncard +
    (if cfg.enableHttpsListeners = true ∧ cfg.tlsSecretTemplate.isSome = true then
      {host | TlsHost cfg dynConfig host}.ncard else 0) +
    (offeredPorts cfg dynConfig .tcp).ncard + (offeredPorts cfg dynConfig .udp).ncard

theorem hostnames_length (cfg : Config) (dynConfig : TraefikDynamicConfig) :
    (routesStage cfg dynConfig).1.hostnames.toList.length =
      {host | RoutedHost cfg dynConfig host}.ncard := by
  rw [← ncard_mem_list (set_toList_nodup _)]
  congr 1
  ext host
  rw [Set.mem_ofPred_eq, Std.ExtTreeSet.mem_toList]
  exact hostnames_iff

theorem httpsListeners_length (cfg : Config) (dynConfig : TraefikDynamicConfig) :
    (httpsListeners cfg (routesStage cfg dynConfig).1).length =
      if cfg.enableHttpsListeners = true ∧ cfg.tlsSecretTemplate.isSome = true then
        {host | TlsHost cfg dynConfig host}.ncard else 0 := by
  rw [← List.length_map ListenerSetListener.name, httpsListeners_names]
  split
  · next henabled =>
    rw [List.length_map, ← ncard_mem_list (set_toList_nodup _)]
    congr 1
    ext host
    rw [Set.mem_ofPred_eq, Std.ExtTreeSet.mem_toList, httpsHosts_iff]
    exact and_iff_right henabled.1
  · rfl

theorem emittedListenerSet_length (cfg : Config) (dynConfig : TraefikDynamicConfig) :
    (emittedListenerSet cfg dynConfig).spec.listeners.length = listenerCount cfg dynConfig := by
  have hl4 : ∀ proto, (finalClaims cfg dynConfig proto).listeners.length =
      (offeredPorts cfg dynConfig proto).ncard := l4Claims_length cfg dynConfig
  simp only [emittedListenerSet, listenerSet, List.length_append, List.length_map]
  rw [hostnames_length, httpsListeners_length, tcpStage_writes, udpStage_writes, hl4, hl4,
    listenerCount, Nat.add_assoc _ (Set.ncard _)]

/-- The emitted ListenerSet is within the bounds exactly when the configuration asks for at least one
listener and for no more than 64. -/
theorem listenerSets_admissible_iff (cfg : Config) (dynConfig : TraefikDynamicConfig) :
    ListenerSetsAdmissible (buildDesired cfg dynConfig) ↔
      1 ≤ listenerCount cfg dynConfig ∧ listenerCount cfg dynConfig ≤ 64 := by
  rw [← emittedListenerSet_length]
  constructor
  · intro h
    exact h _ _ (listenerSets_iff.mpr ⟨rfl, rfl⟩)
  · intro h name ls hlookup
    obtain ⟨_, rfl⟩ := listenerSets_iff.mp hlookup
    exact h

omit [DefaultHasher] [UrlCrate] in
/-- Nothing to route: the ListenerSet is emitted without a listener. -/
theorem empty_listenerSet :
    ¬ListenerSetsAdmissible (@buildDesired sampleHasher sampleUrlCrate sampleConfig emptyDynConfig) := by
  let _ := sampleHasher
  let _ := sampleUrlCrate
  intro h
  have hbounds := h _ _ (listenerSets_iff.mpr ⟨rfl, rfl⟩)
  have hlength : (emittedListenerSet sampleConfig emptyDynConfig).spec.listeners.length = 0 := by
    rfl
  simp [ListenerSet.Admissible, hlength] at hbounds

end PangolinGateway
