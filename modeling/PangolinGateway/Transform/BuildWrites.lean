import PangolinGateway.Transform.AuthGate
import PangolinGateway.Transform.PortClaims
import PangolinGateway.Transform.ServiceWrites

/-! # The log of a whole transform

Block by block the services are written, then the routes of the routers; the ListenerSet comes
last. The desired set is that log on the empty desired set. -/
namespace PangolinGateway
set_option autoImplicit false

/-- The block of an L4 family: empty when it is absent or the family is disabled. -/
def l4Block (cfg : Config) (dynConfig : TraefikDynamicConfig) : L4Protocol → L4Config
  | .tcp => if cfg.enableTcpRoutes then dynConfig.tcp.getD ⟨∅, ∅⟩ else ⟨∅, ∅⟩
  | .udp => if cfg.enableUdpRoutes then dynConfig.udp.getD ⟨∅, ∅⟩ else ⟨∅, ∅⟩

variable [DefaultHasher]

theorem buildL4Family_eq (cfg : Config) (block : Option L4Config) (proto : L4Protocol)
    (enabled : Bool) (d : Desired) : buildL4Family cfg block proto enabled d =
      buildL4 cfg (if enabled then block.getD ⟨∅, ∅⟩ else ⟨∅, ∅⟩) proto d := by
  unfold buildL4Family
  cases block <;> cases enabled <;> rfl

/-! ## The routes of an L4 block -/

def l4Route (cfg : Config) (routeName : String) (sectionNames : List String)
    (backend : ResolvedBackend) : L4Protocol → Entry
  | .tcp => ⟨.tcpRoute, buildTcpRoute cfg routeName sectionNames backend⟩
  | .udp => ⟨.udpRoute, buildUdpRoute cfg routeName sectionNames backend⟩

/-- The route of a router that is met with these claims: a supported rule, a resolved service and
an entrypoint that can still be claimed. -/
def l4RouteEntry (cfg : Config) (proto : L4Protocol) (backends : BackendIndex)
    (claims : PortClaims) (entry : String × L4Router) : Option Entry :=
  if ruleIsSupported entry.2 proto then
    (backends[entry.2.service]?).bind fun backend =>
      let sectionNames := (claimEntrypoints cfg proto entry claims).2
      if sectionNames.isEmpty then none
      else some (l4Route cfg (prefixedLabel proto.infixTag entry.1) sectionNames backend proto)
  else none

def nextClaims (cfg : Config) (proto : L4Protocol) (backends : BackendIndex)
    (claims : PortClaims) (entry : String × L4Router) : PortClaims :=
  (emitL4Route cfg proto backends (claims, .empty) entry).1

theorem emitL4Route_framed (cfg : Config) (proto : L4Protocol) (backends : BackendIndex) :
    WriteLog.Framed Desired.write (emitL4Route cfg proto backends)
      (nextClaims cfg proto backends)
      fun claims entry => (l4RouteEntry cfg proto backends claims entry).toList := by
  intro claims d entry
  unfold nextClaims emitL4Route l4RouteEntry claimEntrypoints
  beta_reduce
  cases ruleIsSupported entry.2 proto with
  | false => rfl
  | true =>
    cases backends[entry.2.service]? with
    | none => rfl
    | some backend =>
      simp only [Bool.not_true, Bool.false_eq_true, if_false, if_true, Option.bind_some]
      cases (entry.2.entryPoints.foldl (claimEntrypoint cfg proto entry.1)
        (claims, [])).2.isEmpty with
      | true => rfl
      | false => cases proto <;> rfl

/-! ## The services of a block -/

def l4Request (cfg : Config) : ServiceRequest L4Service := fun svc => (classifyL4Service cfg svc, false)

variable [UrlCrate]

def httpRequest (cfg : Config) (dynConfig : TraefikDynamicConfig) : ServiceRequest PangService :=
  fun svc => (classifyService cfg svc, serviceSkipsVerify svc dynConfig.http.serversTransports)

/-- What a service of a block resolves to, with the objects made for it. -/
def serviceBackend (cfg : Config) (dynConfig : TraefikDynamicConfig) (b : Block) (name : String) :
    Option (ResolvedBackend × Desired) :=
  match b with
  | .http => (dynConfig.http.services[name]?).bind fun svc =>
      emission cfg .http (httpRequest cfg dynConfig) (name, svc)
  | .l4 proto => ((l4Block cfg dynConfig proto).services[name]?).bind fun svc =>
      emission cfg (.l4 proto) (l4Request cfg) (name, svc)

def blockIndex (cfg : Config) (dynConfig : TraefikDynamicConfig) : Block → BackendIndex
  | .http => backendIndex cfg dynConfig
  | .l4 proto => (buildL4Backends cfg (l4Block cfg dynConfig proto).services proto .empty).1

def serviceWrites (cfg : Config) (dynConfig : TraefikDynamicConfig) : Block → List Entry
  | .http =>
    dynConfig.http.services.toList.flatMap (emissionEntries cfg .http (httpRequest cfg dynConfig))
  | .l4 proto =>
    (l4Block cfg dynConfig proto).services.toList.flatMap
      (emissionEntries cfg (.l4 proto) (l4Request cfg))

theorem buildBackends_writes (cfg : Config) (dynConfig : TraefikDynamicConfig) (d : Desired) :
    buildBackends cfg dynConfig.http.services dynConfig.http.serversTransports d =
      (InsertLoop.insertAll (indexEntry cfg .http (httpRequest cfg dynConfig))
        dynConfig.http.services.toList ∅, d.writeAll (serviceWrites cfg dynConfig .http)) :=
  foldl_emitRequest cfg .http (httpRequest cfg dynConfig) dynConfig.http.services.toList d

theorem buildL4Backends_writes (cfg : Config) (dynConfig : TraefikDynamicConfig)
    (proto : L4Protocol) (d : Desired) :
    buildL4Backends cfg (l4Block cfg dynConfig proto).services proto d =
      (InsertLoop.insertAll (indexEntry cfg (.l4 proto) (l4Request cfg))
        (l4Block cfg dynConfig proto).services.toList ∅,
        d.writeAll (serviceWrites cfg dynConfig (.l4 proto))) :=
  foldl_emitRequest cfg (.l4 proto) (l4Request cfg) (l4Block cfg dynConfig proto).services.toList d

theorem blockIndex_iff {cfg : Config} {dynConfig : TraefikDynamicConfig} {b : Block}
    {name : String} {backend : ResolvedBackend} :
    (blockIndex cfg dynConfig b)[name]? = some backend ↔
      ∃ d, serviceBackend cfg dynConfig b name = some (backend, d) := by
  cases b with
  | http =>
    rw [blockIndex, backendIndex, buildBackends_writes, index_iff]
    simp only [serviceBackend, Option.bind_eq_some_iff]
    grind
  | l4 proto =>
    rw [blockIndex, buildL4Backends_writes, index_iff]
    simp only [serviceBackend, Option.bind_eq_some_iff]
    grind

omit [UrlCrate] in
theorem mem_emissionEntries {A : Type} {cfg : Config} {b : Block} {request : ServiceRequest A}
    {entry : String × A} {e : Entry} : e ∈ emissionEntries cfg b request entry ↔
      ∃ backend d, emission cfg b request entry = some (backend, d) ∧ e ∈ d.entries := by
  unfold emissionEntries
  cases emission cfg b request entry with
  | none => simp
  | some made => simp [Prod.ext_iff]

theorem mem_serviceWrites {cfg : Config} {dynConfig : TraefikDynamicConfig} {b : Block}
    {e : Entry} : e ∈ serviceWrites cfg dynConfig b ↔
      ∃ name backend d, serviceBackend cfg dynConfig b name = some (backend, d) ∧
        e ∈ d.entries := by
  cases b with
  | http =>
    simp only [serviceWrites, List.mem_flatMap, mem_emissionEntries, serviceBackend,
      Option.bind_eq_some_iff, Prod.exists, Std.ExtTreeMap.mem_toList_iff_getElem?_eq_some]
    grind
  | l4 proto =>
    simp only [serviceWrites, List.mem_flatMap, mem_emissionEntries, serviceBackend,
      Option.bind_eq_some_iff, Prod.exists, Std.ExtTreeMap.mem_toList_iff_getElem?_eq_some]
    grind

/-! ## The routes of a block -/

/-- The routers of an L4 block, each with the claims it is met with. -/
def l4Visits (cfg : Config) (dynConfig : TraefikDynamicConfig) (proto : L4Protocol) :
    List (PortClaims × String × L4Router) :=
  WriteLog.visits (nextClaims cfg proto (blockIndex cfg dynConfig (.l4 proto))) ⟨[], []⟩
    (l4Block cfg dynConfig proto).routers.toList

/-- The claims when all routers of an L4 block are through. -/
def finalClaims (cfg : Config) (dynConfig : TraefikDynamicConfig) (proto : L4Protocol) :
    PortClaims :=
  (l4Block cfg dynConfig proto).routers.toList.foldl
    (nextClaims cfg proto (blockIndex cfg dynConfig (.l4 proto))) ⟨[], []⟩

/-- A router writes its policy, if it needs one, and its route. -/
def routerEntries (cfg : Config) (dynConfig : TraefikDynamicConfig) (entry : String × Router) :
    List Entry :=
  ((policyEntry cfg dynConfig (backendIndex cfg dynConfig) entry).map fun written =>
      (⟨.securityPolicy, written.2⟩ : Entry)).toList ++
    ((routeEntry cfg dynConfig (backendIndex cfg dynConfig) entry).map fun written =>
      (⟨.httpRoute, written.2⟩ : Entry)).toList

def routeWrites (cfg : Config) (dynConfig : TraefikDynamicConfig) : Block → List Entry
  | .http => dynConfig.http.routers.toList.flatMap (routerEntries cfg dynConfig)
  | .l4 proto => (l4Visits cfg dynConfig proto).flatMap fun visit =>
      (l4RouteEntry cfg proto (blockIndex cfg dynConfig (.l4 proto)) visit.1 visit.2).toList

theorem emitRoute_framed (cfg : Config) (dynConfig : TraefikDynamicConfig) :
    WriteLog.Framed Desired.write (emitRoute cfg dynConfig (backendIndex cfg dynConfig))
      (fun index entry => (emitRoute cfg dynConfig (backendIndex cfg dynConfig)
        (index, .empty) entry).1)
      fun _ => routerEntries cfg dynConfig := by
  intro index d entry
  unfold emitRoute routerEntries routeEntry
  beta_reduce
  cases hroute : buildRoute cfg dynConfig (backendIndex cfg dynConfig) entry.1 entry.2 with
  | none => simp [policyEntry, hroute]
  | some route =>
    have hname : route.metadata.name = some (prefixedLabel "hr" entry.1) := by
      rw [(buildRoute_builds hroute).metadata]
      rfl
    rw [policyEntry_of_route (by rw [hroute]; rfl)]
    cases buildPolicy cfg dynConfig entry.1 entry.2 with
    | none => simp [Desired.write, insertNamed, hname]
    | some sp =>
      cases hpolicy : sp.metadata.name <;>
        simp [Desired.write, insertNamed, insertPolicy, hname, hpolicy]

theorem buildL4_writes (cfg : Config) (dynConfig : TraefikDynamicConfig) (proto : L4Protocol)
    (d : Desired) : buildL4 cfg (l4Block cfg dynConfig proto) proto d =
      ((finalClaims cfg dynConfig proto).listeners,
        d.writeAll (serviceWrites cfg dynConfig (.l4 proto) ++
          routeWrites cfg dynConfig (.l4 proto))) := by
  have hindex : blockIndex cfg dynConfig (.l4 proto) =
      (buildL4Backends cfg (l4Block cfg dynConfig proto).services proto d).1 := by
    rw [blockIndex, buildL4Backends_writes, buildL4Backends_writes]
  unfold buildL4
  rw [Desired.writeAll_append, finalClaims]
  simp only [← hindex]
  rw [buildL4Backends_writes, (emitL4Route_framed cfg proto _).foldl]
  rfl

/-! ## The whole transform -/

def writes (cfg : Config) (dynConfig : TraefikDynamicConfig) : List Entry :=
  [.http, .l4 .tcp, .l4 .udp].flatMap (fun b =>
      serviceWrites cfg dynConfig b ++ routeWrites cfg dynConfig b) ++
    [⟨.listenerSet, listenerSet cfg (routesStage cfg dynConfig).1
      ((tcpStage cfg dynConfig).1 ++ (udpStage cfg dynConfig).1)⟩]

theorem routesStage_writes (cfg : Config) (dynConfig : TraefikDynamicConfig) :
    (routesStage cfg dynConfig).2 = Desired.empty.writeAll
      (serviceWrites cfg dynConfig .http ++ routeWrites cfg dynConfig .http) := by
  rw [routesStage, buildRoutes, (emitRoute_framed cfg dynConfig).foldl, WriteLog.flatMap_visits,
    buildBackends_writes, Desired.writeAll_append]
  rfl

theorem tcpStage_writes (cfg : Config) (dynConfig : TraefikDynamicConfig) :
    tcpStage cfg dynConfig = ((finalClaims cfg dynConfig .tcp).listeners,
      (routesStage cfg dynConfig).2.writeAll (serviceWrites cfg dynConfig (.l4 .tcp) ++
        routeWrites cfg dynConfig (.l4 .tcp))) := by
  rw [tcpStage, buildL4Family_eq]
  exact buildL4_writes cfg dynConfig .tcp _

theorem udpStage_writes (cfg : Config) (dynConfig : TraefikDynamicConfig) :
    udpStage cfg dynConfig = ((finalClaims cfg dynConfig .udp).listeners,
      (tcpStage cfg dynConfig).2.writeAll (serviceWrites cfg dynConfig (.l4 .udp) ++
        routeWrites cfg dynConfig (.l4 .udp))) := by
  rw [udpStage, buildL4Family_eq]
  exact buildL4_writes cfg dynConfig .udp _

theorem buildDesired_writes (cfg : Config) (dynConfig : TraefikDynamicConfig) :
    buildDesired cfg dynConfig = Desired.empty.writeAll (writes cfg dynConfig) := by
  have hudp : (udpStage cfg dynConfig).2 = Desired.empty.writeAll
      ([.http, .l4 .tcp, .l4 .udp].flatMap fun b =>
        serviceWrites cfg dynConfig b ++ routeWrites cfg dynConfig b) := by
    rw [udpStage_writes, tcpStage_writes, routesStage_writes]
    simp only [List.flatMap_cons, List.flatMap_nil, List.append_nil, Desired.writeAll_append]
  rw [buildDesired_eq, writes, Desired.writeAll_append, ← hudp]
  rfl

end PangolinGateway
