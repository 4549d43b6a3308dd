import PangolinGateway.Json.Members
import PangolinGateway.Pangolin.Types

/-! # Decoding the dynamic config

What `serde_json` makes of a document. A member that is left out has its default, unless it is the
rule or the service of an HTTP router or the url of a server: then the whole document is refused. -/
namespace PangolinGateway
open Value
set_option autoImplicit false

def texts : Value → Option (List String) := asList asStr

/-! ## TCP and UDP -/

def L4Router.decode (v : Value) : Option L4Router := do
  let members ← v.fields ["rule", "service", "entryPoints", "tls"]
  let rule ← maybe members "rule" asStr
  let service ← fieldOr members "service" asStr ""
  let entryPoints ← fieldOr members "entryPoints" texts []
  let tls ← maybe members "tls" some
  return { rule, service, entryPoints, tls }

def L4Server.decode (v : Value) : Option L4Server := do
  let members ← v.fields ["address"]
  let address ← fieldOr members "address" asStr ""
  return { address }

def L4LoadBalancer.decode (v : Value) : Option L4LoadBalancer := do
  let members ← v.fields ["servers"]
  let servers ← fieldOr members "servers" (asList L4Server.decode) []
  return { servers }

def L4Service.decode (v : Value) : Option L4Service := do
  let members ← v.fields ["loadBalancer", "weighted"]
  let loadBalancer ← maybe members "loadBalancer" L4LoadBalancer.decode
  return { loadBalancer }

def L4Config.decode (v : Value) : Option L4Config := do
  let members ← v.fields ["routers", "services"]
  let routers ← fieldOr members "routers" (asMap L4Router.decode) ∅
  let services ← fieldOr members "services" (asMap L4Service.decode) ∅
  return { routers, services }

/-! ## HTTP -/

def TlsDomain.decode (v : Value) : Option TlsDomain := do
  let members ← v.fields ["main", "sans"]
  let main ← maybe members "main" asStr
  let sans ← fieldOr members "sans" texts []
  return { main, sans }

def RouterTls.decode (v : Value) : Option RouterTls := do
  let members ← v.fields ["certResolver", "domains"]
  let certResolver ← maybe members "certResolver" asStr
  let domains ← fieldOr members "domains" (asList TlsDomain.decode) []
  return { certResolver, domains }

def Router.decode (v : Value) : Option Router := do
  let members ← v.fields ["rule", "service", "middlewares", "entryPoints", "priority", "tls"]
  let rule ← required members "rule" asStr
  let service ← required members "service" asStr
  let middlewares ← fieldOr members "middlewares" texts []
  let entryPoints ← fieldOr members "entryPoints" texts []
  let priority ← maybe members "priority" (asInt Str.InI64)
  let tls ← maybe members "tls" RouterTls.decode
  return { rule, service, middlewares, entryPoints, priority, tls }

def LoadBalancerServer.decode (v : Value) : Option LoadBalancerServer := do
  let members ← v.fields ["url"]
  let url ← required members "url" asStr
  return { url }

/-- `passHostHeader` is read, so that it has to be a boolean. -/
def LoadBalancer.decode (v : Value) : Option LoadBalancer := do
  let members ← v.fields ["servers", "sticky", "serversTransport", "passHostHeader"]
  let servers ← fieldOr members "servers" (asList LoadBalancerServer.decode) []
  let serversTransport ← maybe members "serversTransport" asStr
  let _passHostHeader ← maybe members "passHostHeader" asBool
  return { servers, serversTransport }

def PangService.decode (v : Value) : Option PangService := do
  let members ← v.fields ["loadBalancer", "weighted", "mirroring"]
  let loadBalancer ← maybe members "loadBalancer" LoadBalancer.decode
  return { loadBalancer }

def HttpConfig.decode (v : Value) : Option HttpConfig := do
  let members ← v.fields ["routers", "services", "middlewares", "serversTransports"]
  let routers ← fieldOr members "routers" (asMap Router.decode) ∅
  let services ← fieldOr members "services" (asMap PangService.decode) ∅
  let middlewares ← fieldOr members "middlewares" (asMap some) ∅
  let serversTransports ← fieldOr members "serversTransports" (asMap some) ∅
  return { routers, services, middlewares, serversTransports }

def TraefikDynamicConfig.decode (v : Value) : Option TraefikDynamicConfig := do
  let members ← v.fields ["http", "tcp", "udp"]
  let http ← fieldOr members "http" HttpConfig.decode ⟨∅, ∅, ∅, ∅⟩
  let tcp ← maybe members "tcp" L4Config.decode
  let udp ← maybe members "udp" L4Config.decode
  return { http, tcp, udp }

end PangolinGateway
