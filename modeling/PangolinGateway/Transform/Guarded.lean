import PangolinGateway.Transform.Dispatch

/-! # What a gateway lets through

A policy that targets a route decides on its requests. Where several do, which of them counts is left
open, as is what a policy says of a request: `allows` is that. -/
namespace PangolinGateway
set_option autoImplicit false

/-- A policy that targets the route allows the request, or none targets it. -/
def Lets (d : Desired) (allows : SecurityPolicySpec → Prop) (routeName : String) : Prop :=
  (∃ (name : String) (sp : SecurityPolicy), d.securityPolicies[name]? = some sp ∧
    sp.targets routeName = true ∧ allows sp.spec) ∨
  ∀ (name : String) (sp : SecurityPolicy), d.securityPolicies[name]? = some sp →
    sp.targets routeName = false

/-- Some route of the set forwards the request to the upstream, and lets it through. -/
def ForwardsGuarded (d : Desired) (allows : SecurityPolicySpec → Prop) (cmp : PathComparison)
    (protocol : String) (port : ℤ) (host path : String) (u : Upstream) : Prop :=
  ∃ (name : String) (route : HTTPRoute), d.httpRoutes[name]? = some route ∧
    RouteForwards d cmp protocol port host path u route ∧ Lets d allows name

variable [DefaultHasher] [UrlCrate]

/-- The auth service lets the request through the route of a protected router. -/
def LetBy (cfg : Config) (dynConfig : TraefikDynamicConfig) (allows : SecurityPolicySpec → Prop)
    (routerName : String) (router : Router) : Prop :=
  NeedsAuth dynConfig router → ∀ ea, cfg.extAuthz = some ea →
    allows (buildSecurityPolicy cfg ea (prefixedLabel "hr" routerName)).spec

variable {cfg : Config} {dynConfig : TraefikDynamicConfig}

/-- A policy that targets the route of a translated router is its own. -/
theorem NamesApart.policy_of_target (h : NamesApart cfg dynConfig) {routerName : String}
    {router : Router} (htranslated : Translated cfg dynConfig routerName router) {name : String}
    {sp : SecurityPolicy} (hsp : (buildDesired cfg dynConfig).securityPolicies[name]? = some sp)
    (htarget : sp.targets (prefixedLabel "hr" routerName) = true) :
    NeedsAuth dynConfig router ∧ ∃ ea, cfg.extAuthz = some ea ∧
      sp = buildSecurityPolicy cfg ea (prefixedLabel "hr" routerName) := by
  obtain ⟨other, otherRouter, ea, hother, hauth, hea, rfl, -⟩ := securityPolicies_origin hsp
  have hroute := buildSecurityPolicy_targets.mp htarget
  obtain ⟨route, hbuilt⟩ := Option.isSome_iff_exists.mp htranslated.2
  obtain ⟨otherRoute, hotherBuilt⟩ := Option.isSome_iff_exists.mp hother.2
  have hsame : other = routerName := by
    by_contra hne
    have hroutes := RoutesTo.http hother.1 hotherBuilt
    have hroutes' := RoutesTo.http htranslated.1 hbuilt
    refine h.routes hroutes hroutes' hne ?_
    have hname : prefixedLabel Block.http.routePrefix other =
      prefixedLabel Block.http.routePrefix routerName := hroute
    rw [Entry.key, Entry.key, hroutes.routeOf.name, hroutes'.routeOf.name, hname]
  subst hsame
  obtain rfl := Option.some.inj (hother.1.symm.trans htranslated.1)
  exact ⟨hauth, ea, hea, by rw [hroute]⟩

/-- A protected router that is translated has a policy that targets its route. -/
theorem target_of_protected (hpolicies : PolicyNamesDistinct dynConfig) {routerName : String}
    {router : Router} (htranslated : Translated cfg dynConfig routerName router)
    (hauth : NeedsAuth dynConfig router) {ea : ExtAuthzConfig} (hea : cfg.extAuthz = some ea) :
    ∃ (name : String) (sp : SecurityPolicy),
      (buildDesired cfg dynConfig).securityPolicies[name]? = some sp ∧
        sp.targets (prefixedLabel "hr" routerName) = true := by
  obtain ⟨sp, hsp⟩ := securityPolicies_of_protected hea htranslated hauth
  obtain ⟨other, _, ea', hother, _, _, rfl, hname⟩ := securityPolicies_origin hsp
  have hmem : ∀ {name : String} {r : Router}, Translated cfg dynConfig name r →
      name ∈ dynConfig.http.routers.keys := fun h =>
    Std.ExtTreeMap.mem_keys.mpr (Map.mem_of_getElem? h.1)
  have hsame := hpolicies routerName (hmem htranslated) other (hmem hother) hname
  exact ⟨_, _, hsp, buildSecurityPolicy_targets.mpr hsame.symm⟩

theorem NamesApart.lets_iff (h : NamesApart cfg dynConfig)
    (hpolicies : PolicyNamesDistinct dynConfig) {allows : SecurityPolicySpec → Prop}
    {routerName : String} {router : Router}
    (htranslated : Translated cfg dynConfig routerName router) :
    Lets (buildDesired cfg dynConfig) allows (prefixedLabel "hr" routerName) ↔
      LetBy cfg dynConfig allows routerName router := by
  constructor
  · intro hlets hauth ea hea
    rcases hlets with ⟨name, sp, hsp, htarget, hallows⟩ | hnone
    · obtain ⟨-, ea', hea', rfl⟩ := h.policy_of_target htranslated hsp htarget
      obtain rfl := Option.some.inj (hea.symm.trans hea')
      exact hallows
    · obtain ⟨name, sp, hsp, htarget⟩ := target_of_protected hpolicies htranslated hauth hea
      simp [hnone name sp hsp] at htarget
  · intro hlet
    by_cases hsome : ∃ (name : String) (sp : SecurityPolicy),
        (buildDesired cfg dynConfig).securityPolicies[name]? = some sp ∧
          sp.targets (prefixedLabel "hr" routerName) = true
    · obtain ⟨name, sp, hsp, htarget⟩ := hsome
      obtain ⟨hauth, ea, hea, rfl⟩ := h.policy_of_target htranslated hsp htarget
      exact Or.inl ⟨name, _, hsp, htarget, hlet hauth ea hea⟩
    · refine Or.inr fun name sp hsp => Bool.eq_false_iff.mpr fun htarget => ?_
      exact hsome ⟨name, sp, hsp, htarget⟩

theorem NamesApart.forwardsGuarded_iff (h : NamesApart cfg dynConfig)
    (hpolicies : PolicyNamesDistinct dynConfig) {allows : SecurityPolicySpec → Prop}
    {cmp : PathComparison} {protocol : String} {port : ℤ} {host path : String} {u : Upstream} :
    ForwardsGuarded (buildDesired cfg dynConfig) allows cmp protocol port host path u ↔
      ∃ routerName router,
        ProxiedBy cfg dynConfig cmp protocol port host path u routerName router ∧
          LetBy cfg dynConfig allows routerName router := by
  constructor
  · rintro ⟨name, route, hlookup, hroutes, hlets⟩
    obtain ⟨routerName, router, hrouter, hroute, rfl⟩ := httpRoutes_origin hlookup
    have hby := (h.routeForwards_iff hrouter hroute).mp hroutes
    exact ⟨routerName, router, hby, (h.lets_iff hpolicies hby.translated).mp hlets⟩
  · rintro ⟨routerName, router, hby, hlet⟩
    obtain ⟨hrouter, hsome⟩ := hby.translated
    obtain ⟨route, hroute⟩ := Option.isSome_iff_exists.mp hsome
    exact ⟨_, route, h.find_route (.http hrouter hroute),
      (h.routeForwards_iff hrouter hroute).mpr hby,
      (h.lets_iff hpolicies hby.translated).mpr hlet⟩

/-- A request reaches an upstream past the policies exactly when a router has it proxied there, and,
if that router is protected and there is an auth service, the policy made for it allows the
request. -/
theorem guarded_dispatch (cfg : Config) (dynConfig : TraefikDynamicConfig)
    (hapart : NamesApart cfg dynConfig) (hpolicies : PolicyNamesDistinct dynConfig)
    (allows : SecurityPolicySpec → Prop) (cmp : PathComparison) (protocol : String) (port : ℤ)
    (host path : String) (u : Upstream) :
    ForwardsGuarded (buildDesired cfg dynConfig) allows cmp protocol port host path u ↔
      ∃ routerName router,
        ProxiedBy cfg dynConfig cmp protocol port host path u routerName router ∧
          LetBy cfg dynConfig allows routerName router :=
  hapart.forwardsGuarded_iff hpolicies

omit [DefaultHasher] [UrlCrate] in
theorem dispatch_policies : @PolicyNamesDistinct sampleHasher dispatchConfig := by
  unfold PolicyNamesDistinct
  decide

omit [DefaultHasher] [UrlCrate] in
theorem dispatch_router {routerName : String} {router : Router}
    (h : dispatchConfig.http.routers[routerName]? = some router) :
    routerName = "app" ∧ router = webRouter := by
  have hmem := Std.ExtTreeMap.mem_toList_iff_getElem?_eq_some.mpr h
  rw [show dispatchConfig.http.routers.toList = [("app", webRouter)] by rfl,
    List.mem_singleton] at hmem
  exact Prod.mk.inj hmem

omit [DefaultHasher] [UrlCrate] in
/-- The web application is protected, so that what policies do not allow does not reach it. -/
theorem guarded_dispatch_sample :
    ¬ForwardsGuarded (@buildDesired sampleHasher dispatchUrlCrate sampleConfig dispatchConfig)
      (fun _ => False) (byElements fun _ _ => False) "HTTPS" 443 "a.b" "/"
        (.address "10.0.0.7" 8080) := by
  let _ := sampleHasher
  let _ := dispatchUrlCrate
  intro hforwards
  obtain ⟨routerName, router, hby, hlet⟩ := (guarded_dispatch sampleConfig dispatchConfig
    dispatch_apart dispatch_policies _ _ _ _ _ _ _).mp hforwards
  obtain ⟨rfl, rfl⟩ := dispatch_router hby.translated.1
  have hauth : requiresBadgerAuth webRouter.middlewares dispatchConfig.http.middlewares = true := by
    decide
  exact hlet hauth sampleExtAuthz rfl

end PangolinGateway
