import PangolinGateway.Crates
import PangolinGateway.Kube.Metadata
import PangolinGateway.Maps.InsertLoop
import PangolinGateway.Pangolin.Types
import PangolinGateway.Text.IpAddr
import PangolinGateway.Transform.Desired
import PangolinGateway.Transform.Naming

/-! # Pangolin services as backend references

A service is classified by the hosts of its servers and then emitted: IP literals as a synthesized
`Service` and `EndpointSlice` or as an Envoy `Backend`, cluster DNS names as a direct reference to
the `Service`, other names as an Envoy `Backend`. Each emitter returns the desired set it has
written to. -/
namespace PangolinGateway
set_option autoImplicit false

inductive L4Protocol where
  | tcp
  | udp
  deriving DecidableEq

namespace L4Protocol

def k8sProtocol : L4Protocol → String
  | tcp => "TCP"
  | udp => "UDP"

def infixTag : L4Protocol → String
  | tcp => "tcp"
  | udp => "udp"

end L4Protocol

def portName : String := "default"

/-- A server target reduced to host, port and whether the URL asked for TLS. -/
structure HostPort where
  host : String
  port : ℤ
  tls : Bool

inductive Classification where
  | empty
  | ips (entries : List Str.IpAddr) (port : ℤ) (tls : Bool)
  | fqdn (hostname : String) (port : ℤ) (tls : Bool)
  | clusterDns (service ns : String) (port : ℤ) (tls : Bool)

/-- Does the service's `serversTransport` ask for TLS verification to be skipped? -/
def transportSkipsVerify (transport : Option String) (transports : Map Value) : Bool :=
  match transport.bind fun name => transports[name]? with
  | none => false
  | some t => (t.get "insecureSkipVerify").bind Value.asBool == some true

/-! ## Parsing servers -/

def parseUrlServer [UrlCrate] (s : LoadBalancerServer) : Option HostPort := do
  let url ← UrlCrate.parse s.url
  let host ← url.hostStr
  let port ← url.portOrKnownDefault
  return {
    host := String.ofList (Str.trimEndMatches (· == ']')
      (Str.trimStartMatches (· == '[') host.toList))
    port := port.toNat
    tls := url.scheme == "https" }

def parseUrlServers [UrlCrate] (servers : List LoadBalancerServer) : List HostPort :=
  servers.filterMap parseUrlServer

/-- A Traefik L4 server `address` (`host:port`, IPv6 in brackets), after a stray `<scheme>://`. -/
def parseL4Address (address : String) : Option HostPort := do
  let trimmed := Str.trim address.toList
  let withoutScheme := match Str.splitOnce "://".toList trimmed with
    | some (_, rest) => rest
    | none => trimmed
  let (host, portStr) ← match withoutScheme with
    | '[' :: rest => (Str.splitOnce [']'] rest).map fun (host, after) =>
        (host, [':'].isPrefixOf? after)
    | _ => match Str.rsplitOnce ':' withoutScheme with
      | some (h, p) => some (h, some p)
      | none => some (withoutScheme, none)
  let portStr ← portStr
  let port ← Str.parseU16 portStr
  if host.isEmpty then none
  else return { host := String.ofList host, port := port, tls := false }

/-- `<svc>.<ns>.svc`, with any further labels, as `(svc, ns)`. -/
def parseClusterDns (host : String) : Option (String × String) :=
  let normalized := (Str.trimEndMatches (· == '.') host.toList).map Str.toAsciiLowercase
  match normalized.splitOn '.' with
  | svc :: ns :: third :: _ =>
    if third = "svc".toList then some (String.ofList svc, String.ofList ns) else none
  | _ => none

/-! ## Classification -/

structure ClassifyState where
  ips : List Str.IpAddr
  ipPort : Option ℤ
  ipTls : Option Bool
  cluster : Option (String × String × ℤ × Bool)
  fqdn : Option (String × ℤ × Bool)

def classifyEntry (kind : BackendKind) (st : ClassifyState) (e : HostPort) : ClassifyState :=
  match Str.IpAddr.parse e.host.toList with
  | some ip =>
    if st.ipPort.any (· != e.port) then st
    else if st.ipTls.any (· != e.tls) then st
    else { st with
      ipPort := st.ipPort.or (some e.port)
      ipTls := st.ipTls.or (some e.tls)
      ips := st.ips ++ [ip] }
  | none =>
    match parseClusterDns e.host with
    | some (svc, ns) =>
      if st.cluster.isSome then st else { st with cluster := some (svc, ns, e.port, e.tls) }
    | none =>
      match kind with
      | .envoyBackend =>
        if st.fqdn.isSome then st else { st with fqdn := some (e.host, e.port, e.tls) }
      | .service => st

/-- When a service mixes kinds, IPs win over cluster DNS, and cluster DNS over other names. -/
def classifyEntries (entries : List HostPort) (kind : BackendKind) : Classification :=
  let st := entries.foldl (classifyEntry kind) ⟨[], none, none, none, none⟩
  if !st.ips.isEmpty then .ips st.ips (st.ipPort.getD 80) (st.ipTls.getD false)
  else match st.cluster with
    | some (svc, ns, port, tls) => .clusterDns svc ns port tls
    | none => match st.fqdn with
      | some (hostname, port, tls) => .fqdn hostname port tls
      | none => .empty

/-! ## Emitters

`tls : Option Bool` reads: `none` is plaintext, `some skipVerify` originates TLS. -/

/-- `<base>-<infix>` when an infix is set. -/
def namePrefix (base infx : String) : String :=
  if infx = "" then base else base ++ "-" ++ infx

def backendTlsSettings (skipVerify : Bool) (sni : Option String) : BackendTlsSettings :=
  if skipVerify then ⟨none, some true, none⟩ else ⟨some "System", none, sni⟩

variable [DefaultHasher]

/-- A `BackendTLSPolicy` for a Service in the controller namespace: originate TLS, validate against
system CAs, match the SAN against `hostname`. -/
def emitBackendTlsPolicy (cfg : Config) (pangName infx targetService hostname : String)
    (desired : Desired) : Desired :=
  let name := prefixedLabel (namePrefix "btp" infx) pangName
  let policy : BackendTLSPolicy := {
    metadata := managedMetadata cfg name (ownerLabels cfg name)
    spec := {
      targetRefs := [⟨"", "Service", targetService, none⟩]
      validation := ⟨hostname, some "System"⟩ } }
  { desired with backendTlsPolicies := desired.backendTlsPolicies.insert name policy }

def emitEnvoyBackend (cfg : Config) (pangName : String) (endpoints : List BackendEndpoint)
    (port : ℤ) (infx : String) (tls : Option BackendTlsSettings) (desired : Desired) :
    ResolvedBackend × Desired :=
  let name := prefixedLabel (namePrefix "be" infx) pangName
  let backend : Backend := {
    metadata := managedMetadata cfg name (ownerLabels cfg name)
    spec := ⟨endpoints, tls⟩ }
  (⟨"gateway.envoyproxy.io", "Backend", name, none, port⟩,
    { desired with envoyBackends := desired.envoyBackends.insert name backend })

def emitSynthesizedService (cfg : Config) (pangName : String) (ips : List Str.IpAddr) (port : ℤ)
    (infx protocol : String) (desired : Desired) : ResolvedBackend × Desired :=
  let svcName := prefixedLabel (namePrefix "svc" infx) pangName
  let sliceName := prefixedLabel (namePrefix "eps" infx) pangName
  let labels := ownerLabels cfg svcName
  let service : Service := {
    metadata := managedMetadata cfg svcName labels
    spec := some {
      clusterIp := some "None"
      type := some "ClusterIP"
      ports := some [⟨some portName, port, some port, some protocol⟩] } }
  let sliceLabels := labels.insert "kubernetes.io/service-name" svcName
  let endpointSlice : EndpointSlice := {
    metadata := managedMetadata cfg sliceName sliceLabels
    addressType := "IPv4"
    endpoints := ips.map fun ip => ⟨[String.ofList ip.print]⟩
    ports := some [⟨some portName, some port, some protocol⟩] }
  (⟨"", "Service", svcName, none, port⟩,
    { desired with
      services := desired.services.insert svcName service
      endpointSlices := desired.endpointSlices.insert sliceName endpointSlice })

def emitIpBackend (cfg : Config) (pangName : String) (ips : List Str.IpAddr) (port : ℤ)
    (infx protocol : String) (tls : Option Bool) (desired : Desired) : ResolvedBackend × Desired :=
  match cfg.backendKind with
  | .service =>
    let (resolved, desired) := emitSynthesizedService cfg pangName ips port infx protocol desired
    match tls, ips.head? with
    -- skip-verify cannot be expressed here; the first address is what the SAN must match
    | some _, some ip =>
      (resolved, emitBackendTlsPolicy cfg pangName infx resolved.name (String.ofList ip.print) desired)
    | _, _ => (resolved, desired)
  | .envoyBackend =>
    let endpoints := ips.map fun ip => ⟨some ⟨String.ofList ip.print, port⟩, none⟩
    let tlsSettings := tls.map fun skipVerify => backendTlsSettings skipVerify none
    emitEnvoyBackend cfg pangName endpoints port infx tlsSettings desired

def emitFqdnBackend (cfg : Config) (pangName hostname : String) (port : ℤ) (infx : String)
    (tls : Option Bool) (desired : Desired) : ResolvedBackend × Desired :=
  let endpoints := [⟨none, some ⟨hostname, port⟩⟩]
  let tlsSettings := tls.map fun skipVerify => backendTlsSettings skipVerify (some hostname)
  emitEnvoyBackend cfg pangName endpoints port infx tlsSettings desired

/-- The DNS name of a Service. -/
def clusterHostname (svc ns : String) : String := svc ++ "." ++ ns ++ ".svc.cluster.local"

/-- A cluster-DNS target passes through as a direct Service reference, except when it needs TLS in
envoy-backend mode. -/
def emitClusterDnsBackend (cfg : Config) (pangName service ns : String) (port : ℤ)
    (infx : String) (tls : Option Bool) (desired : Desired) : ResolvedBackend × Desired :=
  let direct : ResolvedBackend := ⟨"", "Service", service, some ns, port⟩
  match tls with
  | none => (direct, desired)
  | some skipVerify =>
    let fqdn := clusterHostname service ns
    match cfg.backendKind with
    | .envoyBackend => emitFqdnBackend cfg pangName fqdn port infx (some skipVerify) desired
    | .service =>
      -- a BackendTLSPolicy only reaches Services of its own namespace
      if ns = cfg.ns then (direct, emitBackendTlsPolicy cfg pangName infx service fqdn desired)
      else (direct, desired)

/-! ### No emitter touches routes, listeners or auth policies -/

theorem emitIpBackend_routing (cfg : Config) (pangName : String) (ips : List Str.IpAddr) (port : ℤ)
    (infx protocol : String) (tls : Option Bool) (desired : Desired) :
    (emitIpBackend cfg pangName ips port infx protocol tls desired).2.routing = desired.routing := by
  unfold emitIpBackend
  cases cfg.backendKind with
  | service => cases tls <;> cases ips <;> rfl
  | envoyBackend => rfl

theorem emitClusterDnsBackend_routing (cfg : Config) (pangName service ns : String) (port : ℤ)
    (infx : String) (tls : Option Bool) (desired : Desired) :
    (emitClusterDnsBackend cfg pangName service ns port infx tls desired).2.routing =
      desired.routing := by
  unfold emitClusterDnsBackend
  cases tls with
  | none => rfl
  | some skipVerify =>
    cases cfg.backendKind with
    | service =>
      simp only
      split <;> rfl
    | envoyBackend => rfl

def thenSome {α : Type} (b : Bool) (a : α) : Option α := if b then some a else none

def emitBackend (cfg : Config) (pangName : String) (classification : Classification)
    (infx protocol : String) (skipVerify : Bool) (desired : Desired) :
    Option (ResolvedBackend × Desired) :=
  match classification with
  | .empty => none
  | .ips entries port tls =>
    some (emitIpBackend cfg pangName entries port infx protocol (thenSome tls skipVerify) desired)
  | .fqdn hostname port tls =>
    some (emitFqdnBackend cfg pangName hostname port infx (thenSome tls skipVerify) desired)
  | .clusterDns service ns port tls =>
    some (emitClusterDnsBackend cfg pangName service ns port infx (thenSome tls skipVerify) desired)

theorem emitBackend_routing {cfg : Config} {pangName : String} {classification : Classification}
    {infx protocol : String} {skipVerify : Bool} {desired desired' : Desired}
    {resolved : ResolvedBackend}
    (h : emitBackend cfg pangName classification infx protocol skipVerify desired =
      some (resolved, desired')) : desired'.routing = desired.routing := by
  cases classification with
  | empty => simp [emitBackend] at h
  | ips entries port tls =>
    have hi := emitIpBackend_routing cfg pangName entries port infx protocol
      (thenSome tls skipVerify) desired
    simp only [emitBackend, Option.some.injEq] at h
    rwa [h] at hi
  | fqdn hostname port tls =>
    simp only [emitBackend, Option.some.injEq] at h
    rw [show desired' = (emitFqdnBackend cfg pangName hostname port infx _ desired).2 by rw [h]]
    rfl
  | clusterDns service ns port tls =>
    have hc := emitClusterDnsBackend_routing cfg pangName service ns port infx
      (thenSome tls skipVerify) desired
    simp only [emitBackend, Option.some.injEq] at h
    rwa [h] at hc

/-! ## The loops over services -/

/-- What a service asks to be emitted: nothing without a load balancer or without servers. -/
def classifyService [UrlCrate] (cfg : Config) (svc : PangService) : Classification :=
  match svc.loadBalancer with
  | none => .empty
  | some lb =>
    if lb.servers.isEmpty then .empty
    else classifyEntries (parseUrlServers lb.servers) cfg.backendKind

def serviceSkipsVerify (svc : PangService) (transports : Map Value) : Bool :=
  match svc.loadBalancer with
  | none => false
  | some lb => transportSkipsVerify lb.serversTransport transports

def emitIndexed (cfg : Config) (pangName : String) (classification : Classification)
    (infx protocol : String) (skipVerify : Bool) (acc : BackendIndex × Desired) :
    BackendIndex × Desired :=
  match emitBackend cfg pangName classification infx protocol skipVerify acc.2 with
  | none => acc
  | some (resolved, desired) => (acc.1.insert pangName resolved, desired)

theorem emitIndexed_routing (cfg : Config) (pangName : String) (classification : Classification)
    (infx protocol : String) (skipVerify : Bool) (acc : BackendIndex × Desired) :
    (emitIndexed cfg pangName classification infx protocol skipVerify acc).2.routing =
      acc.2.routing := by
  unfold emitIndexed
  split
  · rfl
  · next h => exact emitBackend_routing h

def emitService [UrlCrate] (cfg : Config) (transports : Map Value) (acc : BackendIndex × Desired)
    (entry : String × PangService) : BackendIndex × Desired :=
  emitIndexed cfg entry.1 (classifyService cfg entry.2) "" "TCP"
    (serviceSkipsVerify entry.2 transports) acc

def buildBackends [UrlCrate] (cfg : Config) (services : Map PangService)
    (transports : Map Value) (desired : Desired) : BackendIndex × Desired :=
  services.toList.foldl (emitService cfg transports) (∅, desired)

theorem buildBackends_routing [UrlCrate] (cfg : Config) (services : Map PangService)
    (transports : Map Value) (desired : Desired) :
    (buildBackends cfg services transports desired).2.routing = desired.routing := by
  refine InsertLoop.foldl_keeps (fun acc : BackendIndex × Desired => acc.2.routing) ?_ _ _
  intro acc entry
  exact emitIndexed_routing cfg entry.1 _ _ _ _ acc

def classifyL4Service (cfg : Config) (svc : L4Service) : Classification :=
  match svc.loadBalancer with
  | none => .empty
  | some lb =>
    if lb.servers.isEmpty then .empty
    else classifyEntries (lb.servers.filterMap fun s => parseL4Address s.address) cfg.backendKind

/-- Raw TCP/UDP is opaque passthrough: TLS origination doesn't apply. -/
def emitL4Service (cfg : Config) (proto : L4Protocol) (acc : BackendIndex × Desired)
    (entry : String × L4Service) : BackendIndex × Desired :=
  emitIndexed cfg entry.1 (classifyL4Service cfg entry.2) proto.infixTag proto.k8sProtocol false acc

def buildL4Backends (cfg : Config) (services : Map L4Service) (proto : L4Protocol)
    (desired : Desired) : BackendIndex × Desired :=
  services.toList.foldl (emitL4Service cfg proto) (∅, desired)

theorem buildL4Backends_routing (cfg : Config) (services : Map L4Service) (proto : L4Protocol)
    (desired : Desired) : (buildL4Backends cfg services proto desired).2.routing = desired.routing := by
  refine InsertLoop.foldl_keeps (fun acc : BackendIndex × Desired => acc.2.routing) ?_ _ _
  intro acc entry
  exact emitIndexed_routing cfg entry.1 _ _ _ _ acc

end PangolinGateway
