import PangolinGateway.Config

/-! # Kubernetes objects

The fields the controller writes or reads of the nine kinds it manages; every field left out is
`None` in what it writes. The `status` of an object belongs to the gateway. -/
namespace PangolinGateway
set_option autoImplicit false

structure ObjectMeta where
  name : Option String
  ns : Option String
  labels : Option (Map String)
  annotations : Option (Map String)

/-! ## Core and discovery -/

structure ServicePort where
  name : Option String
  port : ℤ
  targetPort : Option ℤ
  protocol : Option String

structure ServiceSpec where
  clusterIp : Option String
  type : Option String
  ports : Option (List ServicePort)

structure Service where
  metadata : ObjectMeta
  spec : Option ServiceSpec

structure EndpointPort where
  name : Option String
  port : Option ℤ
  protocol : Option String

structure Endpoint where
  addresses : List String

structure EndpointSlice where
  metadata : ObjectMeta
  addressType : String
  endpoints : List Endpoint
  ports : Option (List EndpointPort)

/-! ## Envoy Gateway -/

structure BackendIp where
  address : String
  port : ℤ

structure BackendFqdn where
  hostname : String
  port : ℤ

structure BackendEndpoint where
  ip : Option BackendIp
  fqdn : Option BackendFqdn

structure BackendTlsSettings where
  wellKnownCaCertificates : Option String
  insecureSkipVerify : Option Bool
  sni : Option String

structure BackendSpec where
  endpoints : List BackendEndpoint
  tls : Option BackendTlsSettings

structure Backend where
  metadata : ObjectMeta
  spec : BackendSpec

structure PolicyTargetRef where
  group : String
  kind : String
  name : String
  deriving DecidableEq

structure ExtAuthBackendRef where
  name : String
  ns : Option String
  port : Option ℤ

structure HttpExtAuthService where
  backendRefs : List ExtAuthBackendRef
  path : Option String
  headersToBackend : Option (List String)

structure ExtAuth where
  http : Option HttpExtAuthService
  headersToExtAuth : Option (List String)
  failOpen : Option Bool

structure SecurityPolicySpec where
  targetRefs : List PolicyTargetRef
  extAuth : Option ExtAuth

structure SecurityPolicy where
  metadata : ObjectMeta
  spec : SecurityPolicySpec

/-! ## Gateway API -/

structure BackendTlsPolicyTargetRef where
  group : String
  kind : String
  name : String
  sectionName : Option String

structure BackendTlsPolicyValidation where
  hostname : String
  wellKnownCaCertificates : Option String

structure BackendTlsPolicySpec where
  targetRefs : List BackendTlsPolicyTargetRef
  validation : BackendTlsPolicyValidation

structure BackendTLSPolicy where
  metadata : ObjectMeta
  spec : BackendTlsPolicySpec

inductive TlsMode where
  | terminate
  deriving DecidableEq

structure CertificateRef where
  group : Option String
  kind : Option String
  name : String
  ns : Option String

structure ListenerTls where
  mode : Option TlsMode
  certificateRefs : Option (List CertificateRef)

structure ListenerSetListener where
  name : String
  hostname : Option String
  port : ℤ
  protocol : String
  tls : Option ListenerTls

structure ListenerSetParentRef where
  group : Option String
  kind : Option String
  name : String
  ns : Option String

structure ListenerSetSpec where
  parentRef : ListenerSetParentRef
  listeners : List ListenerSetListener

structure ListenerSet where
  metadata : ObjectMeta
  spec : ListenerSetSpec

/-- The parent reference of an `HTTPRoute`, a `TCPRoute` and a `UDPRoute`. -/
structure RouteParentRef where
  group : Option String
  kind : Option String
  name : String
  ns : Option String
  sectionName : Option String

/-- The backend reference of an `HTTPRoute`, a `TCPRoute` and a `UDPRoute`. -/
structure RouteBackendRef where
  group : Option String
  kind : Option String
  name : String
  ns : Option String
  port : Option ℤ
  weight : Option ℤ

inductive FilterType where
  | requestRedirect
  | urlRewrite
  | requestHeaderModifier
  | responseHeaderModifier
  deriving DecidableEq

inductive RedirectScheme where
  | http
  | https
  deriving DecidableEq

structure RequestRedirect where
  scheme : Option RedirectScheme
  port : Option ℤ
  deriving DecidableEq

inductive UrlRewritePathType where
  | replacePrefixMatch
  | replaceFullPath
  deriving DecidableEq

structure UrlRewritePath where
  type : UrlRewritePathType
  replacePrefixMatch : Option String
  replaceFullPath : Option String
  deriving DecidableEq

structure UrlRewrite where
  hostname : Option String
  path : Option UrlRewritePath
  deriving DecidableEq

structure HeaderSet where
  name : String
  value : String
  deriving DecidableEq

/-- `RequestHeaderModifier` and `ResponseHeaderModifier`. -/
structure HeaderModifier where
  set : Option (List HeaderSet)
  deriving DecidableEq

structure HttpRouteFilter where
  type : FilterType
  requestRedirect : Option RequestRedirect
  urlRewrite : Option UrlRewrite
  requestHeaderModifier : Option HeaderModifier
  responseHeaderModifier : Option HeaderModifier
  deriving DecidableEq

inductive PathMatchType where
  | exact
  | pathPrefix
  | regularExpression
  deriving DecidableEq

structure HttpPathMatch where
  type : Option PathMatchType
  value : Option String
  deriving DecidableEq

structure HttpRouteMatch where
  path : Option HttpPathMatch
  deriving DecidableEq

structure HttpRouteRule where
  routeMatches : Option (List HttpRouteMatch)
  filters : Option (List HttpRouteFilter)
  backendRefs : Option (List RouteBackendRef)

structure HttpRouteSpec where
  parentRefs : Option (List RouteParentRef)
  hostnames : Option (List String)
  rules : Option (List HttpRouteRule)

structure HTTPRoute where
  metadata : ObjectMeta
  spec : HttpRouteSpec

structure L4RouteRule where
  backendRefs : List RouteBackendRef

structure L4RouteSpec where
  parentRefs : Option (List RouteParentRef)
  rules : List L4RouteRule

structure TCPRoute where
  metadata : ObjectMeta
  spec : L4RouteSpec

structure UDPRoute where
  metadata : ObjectMeta
  spec : L4RouteSpec

end PangolinGateway
