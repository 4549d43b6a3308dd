import PangolinGateway.Json

/-! # Traefik dynamic configuration, as pangolin emits it

The fields the transform reads. `weighted` and `mirroring` services, `sticky` and
`passHostHeader` only reach log lines. -/
namespace PangolinGateway
set_option autoImplicit false

structure L4Router where
  rule : Option String
  service : String
  entryPoints : List String
  tls : Option Value

structure L4Server where
  address : String

structure L4LoadBalancer where
  servers : List L4Server

structure L4Service where
  loadBalancer : Option L4LoadBalancer

structure L4Config where
  routers : Map L4Router
  services : Map L4Service

structure TlsDomain where
  main : Option String
  sans : List String

structure RouterTls where
  certResolver : Option String
  domains : List TlsDomain

structure Router where
  rule : String
  service : String
  middlewares : List String
  entryPoints : List String
  priority : Option ℤ
  tls : Option RouterTls

structure LoadBalancerServer where
  url : String

structure LoadBalancer where
  servers : List LoadBalancerServer
  serversTransport : Option String

structure PangService where
  loadBalancer : Option LoadBalancer

/-- One of many disjoint variants in Traefik, kept as untyped JSON. -/
abbrev Middleware := Value

structure HttpConfig where
  routers : Map Router
  services : Map PangService
  middlewares : Map Middleware
  serversTransports : Map Value

structure TraefikDynamicConfig where
  http : HttpConfig
  tcp : Option L4Config
  udp : Option L4Config

end PangolinGateway
