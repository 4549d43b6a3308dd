import PangolinGateway.Transform.Route

/-! # One ListenerSet for every hostname seen in routes

One HTTP listener per host, an HTTPS listener per TLS host when a secret template is configured,
then the TCP/UDP listeners of the L4 transform. -/
namespace PangolinGateway
set_option autoImplicit false

def renderSecretName (template host : String) : String :=
  let dashed := host.toList.map fun c => if c = '.' then '-' else c
  String.ofList (Str.replace "\x7bhostname-dashed\x7d".toList dashed
    (Str.replace "\x7bhostname\x7d".toList host.toList template.toList))

variable [DefaultHasher]

def httpListener (cfg : Config) (host : String) : ListenerSetListener :=
  ⟨dnsLabel ("http-" ++ host), some host, cfg.httpPort, "HTTP", none⟩

def httpsListener (cfg : Config) (template host : String) : ListenerSetListener :=
  ⟨dnsLabel ("https-" ++ host), some host, cfg.httpsPort, "HTTPS",
    some ⟨some .terminate,
      some [⟨some "", some "Secret", renderSecretName template host, cfg.tlsSecretNamespace⟩]⟩⟩

def httpsListeners (cfg : Config) (routes : RouteIndex) : List ListenerSetListener :=
  match cfg.tlsSecretTemplate with
  | some template =>
    if cfg.enableHttpsListeners then routes.httpsHosts.toList.map (httpsListener cfg template) else []
  | none => []

def listenerSet (cfg : Config) (routes : RouteIndex) (l4Listeners : List ListenerSetListener) :
    ListenerSet :=
  let name := dnsLabel cfg.listenerSetName
  { metadata := managedMetadataWith cfg name (ownerLabels cfg name) cfg.listenersetAnnotations
    spec := {
      parentRef := ⟨some gatewayGroup, some "Gateway", cfg.parentGateway, cfg.parentGatewayNamespace⟩
      listeners := routes.hostnames.toList.map (httpListener cfg) ++ httpsListeners cfg routes ++
        l4Listeners } }

def buildListenerSet (cfg : Config) (routes : RouteIndex) (l4Listeners : List ListenerSetListener)
    (desired : Desired) : Desired :=
  { desired with listenerSets :=
      desired.listenerSets.insert (dnsLabel cfg.listenerSetName) (listenerSet cfg routes l4Listeners) }

end PangolinGateway
