import PangolinGateway.Kube.Metadata
import PangolinGateway.Transform.Naming

/-! # One Envoy Gateway `SecurityPolicy` per badger-protected HTTPRoute

`failOpen` is always false: if the auth service is down, protected resources stay closed. -/
namespace PangolinGateway
set_option autoImplicit false

def gatewayGroup : String := "gateway.networking.k8s.io"

def optionalList (l : List String) : Option (List String) := if l.isEmpty then none else some l

/-- Policy protecting the HTTPRoute named `routeName`. The policy name is derived from the route
name so route GC and policy GC stay in lockstep. -/
def buildSecurityPolicy [DefaultHasher] (cfg : Config) (ea : ExtAuthzConfig) (routeName : String) :
    SecurityPolicy :=
  let name := prefixedLabel "sp" routeName
  { metadata := managedMetadata cfg name (ownerLabels cfg name)
    spec := {
      targetRefs := [⟨gatewayGroup, "HTTPRoute", routeName⟩]
      extAuth := some {
        http := some {
          backendRefs := [⟨ea.service, ea.ns, some ea.port⟩]
          path := ea.path
          headersToBackend := optionalList ea.headersToBackend }
        headersToExtAuth := optionalList ea.headersToExtAuth
        failOpen := some false } } }

/-! ## What a policy protects -/

def SecurityPolicy.targets (sp : SecurityPolicy) (routeName : String) : Bool :=
  sp.spec.targetRefs.any fun ref =>
    ref.group == gatewayGroup && ref.kind == "HTTPRoute" && ref.name == routeName

@[simp] theorem buildSecurityPolicy_targetRefs [DefaultHasher] (cfg : Config) (ea : ExtAuthzConfig)
    (routeName : String) :
    (buildSecurityPolicy cfg ea routeName).spec.targetRefs =
      [⟨gatewayGroup, "HTTPRoute", routeName⟩] :=
  rfl

@[simp] theorem buildSecurityPolicy_name [DefaultHasher] (cfg : Config) (ea : ExtAuthzConfig)
    (routeName : String) :
    (buildSecurityPolicy cfg ea routeName).metadata.name = some (prefixedLabel "sp" routeName) :=
  rfl

theorem buildSecurityPolicy_targets [DefaultHasher] {cfg : Config} {ea : ExtAuthzConfig}
    {routeName routeName' : String} :
    (buildSecurityPolicy cfg ea routeName).targets routeName' = true ↔ routeName = routeName' := by
  simp [SecurityPolicy.targets]

end PangolinGateway
