import PangolinGateway.Config.FromEnv
import PangolinGateway.Kube.EnvoyWire
import PangolinGateway.Transform.PortRange

/-! # What is applied can be listed

The listing of a kind fails when one object of it cannot be read. Whatever the controller starts
with, the Backends and SecurityPolicies that it builds come back as they were written. -/
namespace PangolinGateway
open Value
set_option autoImplicit false

/-- The spec is read from what is written of it. -/
structure ReadBack (desired : Desired) : Prop where
  backends : ∀ (name : String) (be : Backend), desired.envoyBackends[name]? = some be →
    BackendSpec.decode be.spec.encode = some be.spec
  policies : ∀ (name : String) (sp : SecurityPolicy), desired.securityPolicies[name]? = some sp →
    SecurityPolicySpec.decode sp.spec.encode = some sp.spec

section Build
variable [DefaultHasher] [UrlCrate]

theorem built_backend_valid {cfg : Config} {dynConfig : TraefikDynamicConfig} {name : String}
    {be : Backend} (h : (buildDesired cfg dynConfig).envoyBackends[name]? = some be) :
    ∀ e ∈ be.spec.endpoints, e.Valid := by
  obtain ⟨b, pangName, hmade, _⟩ := (@find_object_iff _ _ _ _ .envoyBackend "be" rfl be).mp ⟨name, h⟩
  intro e he
  have hport : ∀ p ∈ e.ports, Str.InI32 p := by
    intro p hp
    obtain ⟨server, hserver, rfl⟩ := (hmade.port_iff (by decide)).mp (List.mem_flatMap.mpr ⟨e, he, hp⟩)
    have hbounds := blockServers_port hserver
    unfold Str.InI32
    omega
  constructor
  · intro ip hip
    exact hport _ (by simp [BackendEndpoint.ports, hip])
  · intro fqdn hfqdn
    exact hport _ (by simp [BackendEndpoint.ports, hfqdn])

theorem built_policy_valid {cfg : Config} (hauthz : ∀ ea, cfg.extAuthz = some ea → Str.InI32 ea.port)
    {dynConfig : TraefikDynamicConfig} {name : String} {sp : SecurityPolicy}
    (h : (buildDesired cfg dynConfig).securityPolicies[name]? = some sp) : sp.spec.Valid := by
  obtain ⟨_, _, ea, _, _, hea, rfl, _⟩ := securityPolicies_origin h
  intro _ hsome _ hhttp ref href port hport
  obtain rfl := Option.some.inj hsome
  obtain rfl := Option.some.inj hhttp
  obtain rfl := List.mem_singleton.mp href
  obtain rfl := Option.some.inj hport
  exact hauthz ea hea

/-- Whatever the controller is configured with and is sent, it can list what it applied. -/
theorem applied_specs_read_back [HumantimeCrate] (env : Vars) (s : Settings)
    (h : Settings.fromEnv env = .ok s) (dynConfig : TraefikDynamicConfig) :
    ReadBack (buildDesired s.toConfig dynConfig) := by
  have hwell := (fromEnv_ok_iff.mp h).wellFormed
  constructor
  · intro name be hbe
    exact (BackendSpec.reads (built_backend_valid hbe)).back
  · intro name sp hsp
    exact (SecurityPolicySpec.reads (built_policy_valid (fun ea hea => (hwell.extAuthz ea hea).port)
      hsp)).back

end Build

theorem exists_eq_ok {E A : Type} {x : Except E A} (h : x.toOption.isSome = true) :
    ∃ a, x = .ok a := by
  cases x with
  | error e => cases h
  | ok a => exact ⟨a, rfl⟩

section Sample

/-- An endpoint over plain HTTP, which is allowed, and an auth service. -/
def plainVars : Vars
  | "CONFIG_ENDPOINT" => some "http://10.0.0.7:8080"
  | "CONFIG_ALLOW_INSECURE_HTTP" => some "yes"
  | "CONFIG_PARENT_GATEWAY" => some "eg"
  | "CONFIG_EXT_AUTHZ_SERVICE" => some "badger-shim"
  | _ => none

@[reducible] def noDurations : HumantimeCrate where
  parseDuration _ := none

attribute [local instance] sampleHasher sampleUrlCrate noDurations

theorem plainVars_start : ∃ s, Settings.fromEnv plainVars = .ok s := by
  refine exists_eq_ok ?_
  decide

theorem applied_specs_read_back_sample : ∃ s, Settings.fromEnv plainVars = .ok s ∧
    ReadBack (buildDesired s.toConfig (sampleDynConfig sampleRouters)) := by
  obtain ⟨s, hs⟩ := plainVars_start
  exact ⟨s, hs, applied_specs_read_back plainVars s hs (sampleDynConfig sampleRouters)⟩

end Sample

end PangolinGateway
