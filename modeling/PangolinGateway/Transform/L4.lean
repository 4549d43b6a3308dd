import PangolinGateway.Transform.Backend
import PangolinGateway.Transform.ExtAuthz

/-! # Raw TCP/UDP resources as TCPRoute and UDPRoute

Pangolin encodes the public port in the entrypoint name (`tcp-234`, `udp-345`). Each port gets one
listener, claimed by the first router that names it, and the route refers to it by section name. -/
namespace PangolinGateway
set_option autoImplicit false

/-- TCP routers must carry the wildcard `HostSNI` rule or nothing; UDP routers never have rules. -/
def ruleIsSupported (router : L4Router) (proto : L4Protocol) : Bool :=
  if router.tls.isSome then false
  else match router.rule.map fun r => Str.trim r.toList with
    | none => true
    | some rule => rule.isEmpty || (proto == .tcp && rule == "HostSNI(`*`)".toList)

/-- `tcp-234` is 234, for the matching protocol only. -/
def parseEntrypointPort (entrypoint : String) (proto : L4Protocol) : Option ℤ := do
  let rest ← proto.infixTag.toList.isPrefixOf? entrypoint.toList
  let rest ← ['-'].isPrefixOf? rest
  let port ← Str.parseU16 rest
  if port = 0 then none else return port

def l4RouteSpec (cfg : Config) (sectionNames : List String) (backend : ResolvedBackend) :
    L4RouteSpec where
  parentRefs := some (sectionNames.map fun section_ =>
    ⟨some gatewayGroup, some "ListenerSet", cfg.listenerSetName, some cfg.ns, some section_⟩)
  rules := [⟨[⟨some backend.group, some backend.kind, backend.name, backend.ns, some backend.port,
    some 1⟩]⟩]

def buildTcpRoute (cfg : Config) (routeName : String) (sectionNames : List String)
    (backend : ResolvedBackend) : TCPRoute where
  metadata := managedMetadata cfg routeName (ownerLabels cfg routeName)
  spec := l4RouteSpec cfg sectionNames backend

def buildUdpRoute (cfg : Config) (routeName : String) (sectionNames : List String)
    (backend : ResolvedBackend) : UDPRoute where
  metadata := managedMetadata cfg routeName (ownerLabels cfg routeName)
  spec := l4RouteSpec cfg sectionNames backend

/-- The ports claimed so far with the router that claimed each, and the listeners in order. -/
structure PortClaims where
  claimedPorts : List (ℤ × String)
  listeners : List ListenerSetListener

variable [DefaultHasher]

def claimablePort (cfg : Config) (proto : L4Protocol) (claims : PortClaims) (entrypoint : String) :
    Option ℤ := do
  let port ← parseEntrypointPort entrypoint proto
  if proto = .tcp ∧ (port = cfg.httpPort ∨ port = cfg.httpsPort) then none
  else if claims.claimedPorts.any (·.1 == port) then none
  else return port

def claimEntrypoint (cfg : Config) (proto : L4Protocol) (routerName : String)
    (acc : PortClaims × List String) (entrypoint : String) : PortClaims × List String :=
  match claimablePort cfg proto acc.1 entrypoint with
  | none => acc
  | some port =>
    let listenerName := dnsLabel (proto.infixTag ++ "-" ++ toString port)
    ({ claimedPorts := (port, routerName) :: acc.1.claimedPorts
       listeners := acc.1.listeners ++ [⟨listenerName, none, port, proto.k8sProtocol, none⟩] },
      acc.2 ++ [listenerName])

def emitL4Route (cfg : Config) (proto : L4Protocol) (backends : BackendIndex)
    (acc : PortClaims × Desired) (entry : String × L4Router) : PortClaims × Desired :=
  if !ruleIsSupported entry.2 proto then acc
  else match backends[entry.2.service]? with
    | none => acc
    | some backend =>
      let (claims, sectionNames) :=
        entry.2.entryPoints.foldl (claimEntrypoint cfg proto entry.1) (acc.1, [])
      if sectionNames.isEmpty then (claims, acc.2)
      else
        let routeName := prefixedLabel proto.infixTag entry.1
        match proto with
        | .tcp => (claims, { acc.2 with
            tcpRoutes := acc.2.tcpRoutes.insert routeName (buildTcpRoute cfg routeName sectionNames backend) })
        | .udp => (claims, { acc.2 with
            udpRoutes := acc.2.udpRoutes.insert routeName (buildUdpRoute cfg routeName sectionNames backend) })

theorem emitL4Route_httpRouting (cfg : Config) (proto : L4Protocol) (backends : BackendIndex)
    (acc : PortClaims × Desired) (entry : String × L4Router) :
    (emitL4Route cfg proto backends acc entry).2.httpRouting = acc.2.httpRouting := by
  unfold emitL4Route
  split
  · rfl
  · split
    · rfl
    · simp only
      split
      · rfl
      · cases proto <;> rfl

def buildL4 (cfg : Config) (l4 : L4Config) (proto : L4Protocol) (desired : Desired) :
    List ListenerSetListener × Desired :=
  let (backends, desired) := buildL4Backends cfg l4.services proto desired
  let (claims, desired) := l4.routers.toList.foldl (emitL4Route cfg proto backends) (⟨[], []⟩, desired)
  (claims.listeners, desired)

theorem buildL4_httpRouting (cfg : Config) (l4 : L4Config) (proto : L4Protocol) (desired : Desired) :
    (buildL4 cfg l4 proto desired).2.httpRouting = desired.httpRouting := by
  have hroutes := InsertLoop.foldl_keeps (fun acc : PortClaims × Desired => acc.2.httpRouting)
    (emitL4Route_httpRouting cfg proto (buildL4Backends cfg l4.services proto desired).1)
    l4.routers.toList (⟨[], []⟩, (buildL4Backends cfg l4.services proto desired).2)
  have hbackends := buildL4Backends_routing cfg l4.services proto desired
  simp only [Desired.routing, Prod.mk.injEq] at hbackends
  calc (buildL4 cfg l4 proto desired).2.httpRouting
      = (buildL4Backends cfg l4.services proto desired).2.httpRouting := hroutes
    _ = desired.httpRouting := by simp only [Desired.httpRouting, hbackends]

/-! ## The listeners it contributes -/

theorem claimEntrypoint_hostname (cfg : Config) (proto : L4Protocol) (routerName : String)
    (acc : PortClaims × List String) (entrypoint : String)
    (h : ∀ listener ∈ acc.1.listeners, listener.hostname = none) :
    ∀ listener ∈ (claimEntrypoint cfg proto routerName acc entrypoint).1.listeners,
      listener.hostname = none := by
  unfold claimEntrypoint
  cases claimablePort cfg proto acc.1 entrypoint with
  | none => exact h
  | some port =>
    intro listener hmem
    rcases List.mem_append.mp hmem with hmem | hmem
    · exact h listener hmem
    · rw [List.mem_singleton.mp hmem]

theorem emitL4Route_hostname (cfg : Config) (proto : L4Protocol) (backends : BackendIndex)
    (acc : PortClaims × Desired) (entry : String × L4Router)
    (h : ∀ listener ∈ acc.1.listeners, listener.hostname = none) :
    ∀ listener ∈ (emitL4Route cfg proto backends acc entry).1.listeners,
      listener.hostname = none := by
  have hclaims : ∀ listener ∈ (entry.2.entryPoints.foldl (claimEntrypoint cfg proto entry.1)
      (acc.1, [])).1.listeners, listener.hostname = none :=
    List.foldlRecOn (motive := fun claims => ∀ listener ∈ claims.1.listeners,
        listener.hostname = none) _ _ h
      fun claims hclaims entrypoint _ => claimEntrypoint_hostname cfg proto entry.1 claims entrypoint
        hclaims
  unfold emitL4Route
  split
  · exact h
  · split
    · exact h
    · simp only
      split
      · exact hclaims
      · cases proto <;> exact hclaims

/-- A raw TCP/UDP listener serves no hostname. -/
theorem buildL4_hostname (cfg : Config) (l4 : L4Config) (proto : L4Protocol) (desired : Desired) :
    ∀ listener ∈ (buildL4 cfg l4 proto desired).1, listener.hostname = none :=
  List.foldlRecOn (motive := fun acc : PortClaims × Desired =>
      ∀ listener ∈ acc.1.listeners, listener.hostname = none) _ _ (by simp)
    fun acc hacc entry _ => emitL4Route_hostname cfg proto _ acc entry hacc

end PangolinGateway
