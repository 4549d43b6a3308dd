import PangolinGateway.Kube.Objects
import PangolinGateway.Pangolin.Types
import PangolinGateway.Text.Str

/-! # Traefik middlewares as HTTPRoute filters

Only filters of the standard Gateway API are emitted; everything else is logged and dropped. -/
namespace PangolinGateway
set_option autoImplicit false

def isBadger (mw : Middleware) : Bool :=
  match (mw.asObject.bind fun obj => obj["plugin"]?).bind Value.asObject with
  | some plugin => plugin.contains "badger"
  | none => false

/-- The router references pangolin's `badger` auth plugin. A referenced but missing middleware
literally named `badger` counts too: better to skip a route than to expose a protected resource. -/
def requiresBadgerAuth (middlewareNames : List String) (middlewares : Map Middleware) : Bool :=
  middlewareNames.any fun name =>
    match middlewares[name]? with
    | some mw => isBadger mw
    | none => name == "badger"

/-! ## Translating one middleware -/

def HttpRouteFilter.ofType (type : FilterType) : HttpRouteFilter := ⟨type, none, none, none, none⟩

def translateRedirectScheme (body : Value) : Option HttpRouteFilter := do
  let scheme ← (← body.get "scheme").asStr
  let port := ((body.get "port").bind Value.asStr).bind fun p => Str.parseI32 p.toList
  let schemeEnum ←
    if scheme = "http" then some RedirectScheme.http
    else if scheme = "https" then some RedirectScheme.https
    else none
  return { HttpRouteFilter.ofType .requestRedirect with requestRedirect := some ⟨some schemeEnum, port⟩ }

def rewriteFilter (rewrite : UrlRewrite) : HttpRouteFilter :=
  { HttpRouteFilter.ofType .urlRewrite with urlRewrite := some rewrite }

def requestHeaderFilter (set : List HeaderSet) : HttpRouteFilter :=
  { HttpRouteFilter.ofType .requestHeaderModifier with requestHeaderModifier := some ⟨some set⟩ }

def responseHeaderFilter (set : List HeaderSet) : HttpRouteFilter :=
  { HttpRouteFilter.ofType .responseHeaderModifier with responseHeaderModifier := some ⟨some set⟩ }

/-- The string members of the object under `key`, in key order. -/
def stringMembers (body : Value) (key : String) : List (String × String) :=
  match (body.get key).bind Value.asObject with
  | none => []
  | some map => map.toList.filterMap fun (k, v) => v.asStr.map fun val => (k, val)

def isHostHeader (name : String) : Bool := Str.eqIgnoreAsciiCase name.toList "host".toList

/-- A custom Host header is a `URLRewrite`: Gateway API forbids touching Host otherwise. -/
def translateHeaders (body : Value) : List HttpRouteFilter :=
  let custom := stringMembers body "customRequestHeaders"
  let hostRewrites := (custom.filter fun h => isHostHeader h.1).map fun h => rewriteFilter ⟨some h.2, none⟩
  let reqSet := (custom.filter fun h => !isHostHeader h.1).map fun h => HeaderSet.mk h.1 h.2
  let respSet := (stringMembers body "customResponseHeaders").map fun h => HeaderSet.mk h.1 h.2
  hostRewrites ++ (if reqSet.isEmpty then [] else [requestHeaderFilter reqSet]) ++
    (if respSet.isEmpty then [] else [responseHeaderFilter respSet])

def translateAddPrefix (body : Value) : Option HttpRouteFilter := do
  let pre ← (body.get "prefix").bind Value.asStr
  return rewriteFilter ⟨none, some ⟨.replacePrefixMatch, some pre, none⟩⟩

def translateReplacePath (body : Value) : Option HttpRouteFilter := do
  let path ← (body.get "path").bind Value.asStr
  return rewriteFilter ⟨none, some ⟨.replaceFullPath, none, some path⟩⟩

def translateStripPrefix (body : Value) : Option HttpRouteFilter := do
  let prefixes ← (body.get "prefixes").bind Value.asArray
  let _ ← prefixes.head?
  return rewriteFilter ⟨none, some ⟨.replacePrefixMatch, some "", none⟩⟩

/-- Only the first member of the middleware object, in key order, counts. -/
def translate (mw : Middleware) : List HttpRouteFilter :=
  match mw.asObject.bind fun obj => obj.toList.head? with
  | none => []
  | some (kind, body) =>
    if kind = "redirectScheme" then (translateRedirectScheme body).toList
    else if kind = "headers" then translateHeaders body
    else if kind = "addPrefix" then (translateAddPrefix body).toList
    else if kind = "replacePath" then (translateReplacePath body).toList
    else if kind = "stripPrefix" then (translateStripPrefix body).toList
    -- `replacePathRegex`, plugins and unknown kinds differ only in the warning
    else []

/-! ## Merging -/

structure Merged where
  out : List HttpRouteFilter
  rewrite : Option UrlRewrite
  reqSet : List HeaderSet
  respSet : List HeaderSet

/-- The last hostname and the first path win. -/
def mergeRewrite (merged incoming : UrlRewrite) : UrlRewrite where
  hostname := incoming.hostname.or merged.hostname
  path := merged.path.or incoming.path

def modifierSet (m : Option HeaderModifier) : List HeaderSet :=
  (m.bind HeaderModifier.set).getD []

def mergeStep (acc : Merged) (f : HttpRouteFilter) : Merged :=
  match f.type with
  | .urlRewrite =>
    match f.urlRewrite with
    | none => acc
    | some incoming =>
      { acc with rewrite := some (mergeRewrite (acc.rewrite.getD ⟨none, none⟩) incoming) }
  | .requestHeaderModifier =>
    { acc with reqSet := acc.reqSet ++ modifierSet f.requestHeaderModifier }
  | .responseHeaderModifier =>
    { acc with respSet := acc.respSet ++ modifierSet f.responseHeaderModifier }
  | .requestRedirect => { acc with out := acc.out ++ [f] }

/-- Gateway API allows each of `URLRewrite`, `RequestHeaderModifier` and `ResponseHeaderModifier`
at most once per rule. -/
def mergeFilters (filters : List HttpRouteFilter) : List HttpRouteFilter :=
  let acc := filters.foldl mergeStep ⟨[], none, [], []⟩
  acc.out ++ (if acc.reqSet.isEmpty then [] else [requestHeaderFilter acc.reqSet]) ++
    (if acc.respSet.isEmpty then [] else [responseHeaderFilter acc.respSet]) ++
    (acc.rewrite.map rewriteFilter).toList

def buildFilters (middlewareNames : List String) (middlewares : Map Middleware) :
    List HttpRouteFilter :=
  mergeFilters (middlewareNames.flatMap fun name =>
    match middlewares[name]? with
    | some mw => translate mw
    | none => [])

end PangolinGateway
