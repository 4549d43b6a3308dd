import PangolinGateway.Transform.BackendTls

/-! # Which Services a BackendTLSPolicy reaches, in service mode

Only the https services of the http block write policies, each for the Service it resolves to. A
policy has no `sectionName`, so it also reaches every other service that resolves to that Service,
whatever the scheme and the port of its own servers. -/
namespace PangolinGateway
set_option autoImplicit false

/-- Does the policy originate TLS towards the port of that name? Without a section name it does so
towards every port. -/
def BackendTLSPolicy.AppliesTo (policy : BackendTLSPolicy) (service : String)
    (portName : Option String) : Prop :=
  ∃ ref ∈ policy.spec.targetRefs, ref.group = "" ∧ ref.kind = "Service" ∧ ref.name = service ∧
    ∀ sectionName, ref.sectionName = some sectionName → portName = some sectionName

/-- A policy for one Service, without a section name. -/
def BackendTLSPolicy.Targets (policy : BackendTLSPolicy) (service : String) : Prop :=
  policy.spec.targetRefs = [⟨"", "Service", service, none⟩]

theorem BackendTLSPolicy.Targets.appliesTo {policy : BackendTLSPolicy} {service : String}
    (h : policy.Targets service) (other : String) (portName : Option String) :
    policy.AppliesTo other portName ↔ service = other := by
  unfold AppliesTo
  rw [show policy.spec.targetRefs = [⟨"", "Service", service, none⟩] from h]
  simp

variable [DefaultHasher]

/-! ## The policy of one service -/

/-- The Service a policy is written for and the hostname that the certificate must carry. -/
def tlsTarget (cfg : Config) (pangName infx : String) : Classification → Option (String × String)
  | .ips (ip :: _) _ true => some (backendName "svc" infx pangName, String.ofList ip.print)
  | .clusterDns service ns _ true =>
    if ns = cfg.ns then some (service, clusterHostname service ns) else none
  | _ => none

def tlsPolicyOf (cfg : Config) (pangName infx service hostname : String) : BackendTLSPolicy :=
  let name := backendName "btp" infx pangName
  ⟨managedMetadata cfg name (ownerLabels cfg name),
    ⟨[⟨"", "Service", service, none⟩], ⟨hostname, some "System"⟩⟩⟩

def tlsPolicyEntry (cfg : Config) (pangName infx : String) (c : Classification) :
    Option (String × BackendTLSPolicy) :=
  (tlsTarget cfg pangName infx c).map fun (service, hostname) =>
    (backendName "btp" infx pangName, tlsPolicyOf cfg pangName infx service hostname)

def insertEntry {V : Type} (m : Map V) : Option (String × V) → Map V
  | some (k, v) => m.insert k v
  | none => m

theorem emitBackendTlsPolicy_policies_eq (cfg : Config) (pangName infx service hostname : String)
    (d : Desired) :
    (emitBackendTlsPolicy cfg pangName infx service hostname d).backendTlsPolicies =
      d.backendTlsPolicies.insert (backendName "btp" infx pangName)
        (tlsPolicyOf cfg pangName infx service hostname) := by
  unfold emitBackendTlsPolicy tlsPolicyOf backendName
  rfl

/-- Only a service without a usable server is not emitted. -/
theorem emitBackend_none {cfg : Config} {pangName infx protocol : String} {c : Classification}
    {skip : Bool} {d : Desired} (h : emitBackend cfg pangName c infx protocol skip d = none) :
    c = .empty := by
  cases c with
  | empty => rfl
  | ips addresses port tls => cases h
  | fqdn hostname port tls => cases h
  | clusterDns service ns port tls => cases h

theorem emitBackend_policies {cfg : Config} (hkind : cfg.backendKind = .service)
    {pangName infx protocol : String} {c : Classification} {skip : Bool} {d : Desired}
    {made : ResolvedBackend × Desired}
    (h : emitBackend cfg pangName c infx protocol skip d = some made) :
    made.2.backendTlsPolicies =
      insertEntry d.backendTlsPolicies (tlsPolicyEntry cfg pangName infx c) := by
  cases c with
  | empty => cases h
  | ips addresses port tls =>
    simp only [emitBackend, emitIpBackend, hkind, Option.some.injEq] at h
    rw [← h]
    cases tls with
    | false => cases addresses <;> simp only [thenSome, tlsPolicyEntry, tlsTarget] <;> rfl
    | true =>
      cases addresses with
      | nil => simp only [thenSome, tlsPolicyEntry, tlsTarget]; rfl
      | cons ip addresses =>
        simp only [thenSome, if_true, List.head?_cons, emitBackendTlsPolicy_policies_eq]
        simp only [tlsPolicyEntry, tlsTarget, Option.map_some, insertEntry, emitSynthesizedService,
          backendName]
  | fqdn hostname port tls =>
    rw [← Option.some.inj h]
    rfl
  | clusterDns service ns port tls =>
    rw [← Option.some.inj h]
    cases tls with
    | false => rfl
    | true =>
      simp only [thenSome, if_true, emitClusterDnsBackend, hkind, tlsPolicyEntry, tlsTarget]
      split
      · exact emitBackendTlsPolicy_policies_eq _ _ _ _ _ _
      · rfl

/-- A service gets a policy when its servers are https and it resolves to a Service of the
controller's namespace, and the policy is for that Service. -/
theorem tlsTarget_iff {cfg : Config} (hkind : cfg.backendKind = .service)
    {pangName infx protocol : String} {servers : List HostPort} {c : Classification}
    (hc : c.Of servers) {skip : Bool} {d : Desired} {made : ResolvedBackend × Desired}
    (h : emitBackend cfg pangName c infx protocol skip d = some made) {service : String} :
    (∃ hostname, tlsTarget cfg pangName infx c = some (service, hostname)) ↔
      c.tls = true ∧ made.1.kind = "Service" ∧ made.1.ns.getD cfg.ns = cfg.ns ∧
        made.1.name = service := by
  cases c with
  | empty => cases h
  | ips addresses port tls =>
    have hresolved : made.1 = ⟨"", "Service", backendName "svc" infx pangName, none, port⟩ := by
      simp only [emitBackend, emitIpBackend, hkind, Option.some.injEq] at h
      rw [← h]
      cases thenSome tls skip <;> cases addresses <;> simp only [List.head?] <;> rfl
    cases addresses with
    | nil => exact absurd (List.map_eq_nil_iff.mp hc.2.1) hc.1
    | cons ip addresses => cases tls <;> simp [hresolved, tlsTarget, Classification.tls]
  | fqdn hostname port tls =>
    have hresolved : made.1.kind = "Backend" := by
      rw [← Option.some.inj h]
      rfl
    simp [hresolved, tlsTarget]
  | clusterDns target ns port tls =>
    have hresolved : made.1 = ⟨"", "Service", target, some ns, port⟩ := by
      rw [← Option.some.inj h]
      cases tls with
      | false => rfl
      | true =>
        simp only [thenSome, if_true, emitClusterDnsBackend, hkind]
        split <;> rfl
    cases tls with
    | false => simp [tlsTarget, Classification.tls]
    | true =>
      by_cases hns : ns = cfg.ns <;> simp [hresolved, tlsTarget, Classification.tls, hns]

variable [UrlCrate]

/-! ## The policies of a run -/

def httpPolicyEntry (cfg : Config) (entry : String × PangService) :
    Option (String × BackendTLSPolicy) :=
  tlsPolicyEntry cfg entry.1 "" (classifyService cfg entry.2)

theorem emitService_policies {cfg : Config} (hkind : cfg.backendKind = .service)
    (transports : Map Value) (acc : BackendIndex × Desired) (entry : String × PangService) :
    (emitService cfg transports acc entry).2.backendTlsPolicies =
      insertEntry acc.2.backendTlsPolicies (httpPolicyEntry cfg entry) := by
  unfold emitService emitIndexed httpPolicyEntry
  cases hmade : emitBackend cfg entry.1 (classifyService cfg entry.2) "" "TCP"
    (serviceSkipsVerify entry.2 transports) acc.2 with
  | some made => exact emitBackend_policies hkind hmade
  | none =>
    rw [emitBackend_none hmade]
    rfl

theorem buildBackends_policies {cfg : Config} (hkind : cfg.backendKind = .service)
    (services : Map PangService) (transports : Map Value) (d : Desired) :
    (buildBackends cfg services transports d).2.backendTlsPolicies =
      InsertLoop.insertAll (httpPolicyEntry cfg) services.toList d.backendTlsPolicies := by
  unfold buildBackends InsertLoop.insertAll
  refine (List.foldl_hom (fun acc : BackendIndex × Desired => acc.2.backendTlsPolicies) ?_).symm
  intro acc entry
  rw [emitService_policies hkind]
  cases httpPolicyEntry cfg entry <;> rfl

omit [UrlCrate] in
theorem buildRoutes_backendTlsPolicies (cfg : Config) (dynConfig : TraefikDynamicConfig)
    (backends : BackendIndex) (d : Desired) :
    (buildRoutes cfg dynConfig backends d).2.backendTlsPolicies = d.backendTlsPolicies := by
  refine InsertLoop.foldl_keeps (fun acc : RouteIndex × Desired => acc.2.backendTlsPolicies) ?_ _ _
  intro acc entry
  unfold emitRoute
  split <;> rfl

omit [UrlCrate] in
theorem emitL4Route_backendTlsPolicies (cfg : Config) (proto : L4Protocol) (backends : BackendIndex)
    (acc : PortClaims × Desired) (entry : String × L4Router) :
    (emitL4Route cfg proto backends acc entry).2.backendTlsPolicies = acc.2.backendTlsPolicies := by
  unfold emitL4Route
  split
  · rfl
  · split
    · rfl
    · simp only
      split
      · rfl
      · cases proto <;> rfl

omit [UrlCrate] in
theorem buildL4Family_backendTlsPolicies (cfg : Config) (block : Option L4Config)
    (proto : L4Protocol) (enabled : Bool) (d : Desired) :
    (buildL4Family cfg block proto enabled d).2.backendTlsPolicies = d.backendTlsPolicies := by
  rw [buildL4Family_eq]
  generalize (if enabled then block.getD ⟨∅, ∅⟩ else ⟨∅, ∅⟩ : L4Config) = l4
  have hroutes := InsertLoop.foldl_keeps
    (fun acc : PortClaims × Desired => acc.2.backendTlsPolicies)
    (emitL4Route_backendTlsPolicies cfg proto (buildL4Backends cfg l4.services proto d).1)
    l4.routers.toList (⟨[], []⟩, (buildL4Backends cfg l4.services proto d).2)
  calc (buildL4 cfg l4 proto d).2.backendTlsPolicies
      = (buildL4Backends cfg l4.services proto d).2.backendTlsPolicies := hroutes
    _ = d.backendTlsPolicies := (buildL4Backends_plain cfg l4.services proto d).policies

theorem buildDesired_backendTlsPolicies {cfg : Config} (hkind : cfg.backendKind = .service)
    (dynConfig : TraefikDynamicConfig) : (buildDesired cfg dynConfig).backendTlsPolicies =
      InsertLoop.insertAll (httpPolicyEntry cfg) dynConfig.http.services.toList ∅ := by
  calc (buildDesired cfg dynConfig).backendTlsPolicies
      = (udpStage cfg dynConfig).2.backendTlsPolicies := by rw [buildDesired_eq]; rfl
    _ = (tcpStage cfg dynConfig).2.backendTlsPolicies := buildL4Family_backendTlsPolicies _ _ _ _ _
    _ = (routesStage cfg dynConfig).2.backendTlsPolicies := buildL4Family_backendTlsPolicies _ _ _ _ _
    _ = (buildBackends cfg dynConfig.http.services dynConfig.http.serversTransports
          .empty).2.backendTlsPolicies := buildRoutes_backendTlsPolicies _ _ _ _
    _ = _ := buildBackends_policies hkind _ _ _

/-! ## Which services a policy comes from -/

/-- The servers of the http service are https, and it resolves to that Service of the controller's
namespace. -/
structure TlsTowards (cfg : Config) (dynConfig : TraefikDynamicConfig) (name target : String) :
    Prop where
  resolved : ∃ backend d, serviceBackend cfg dynConfig .http name = some (backend, d) ∧
    backend.kind = "Service" ∧ backend.ns.getD cfg.ns = cfg.ns ∧ backend.name = target
  https : ∀ e ∈ blockServers cfg dynConfig .http name, e.tls = true

/-- No https service that comes later, in name order, gives its policy the same name. -/
def KeepsPolicy (cfg : Config) (dynConfig : TraefikDynamicConfig) (name : String) : Prop :=
  ∀ later target, compare name later = .lt → TlsTowards cfg dynConfig later target →
    backendName "btp" "" later ≠ backendName "btp" "" name

theorem TlsTowards.service {cfg : Config} {dynConfig : TraefikDynamicConfig} {name target : String}
    (h : TlsTowards cfg dynConfig name target) :
    ∃ svc, dynConfig.http.services[name]? = some svc := by
  obtain ⟨backend, d, hmade, _⟩ := h.resolved
  obtain ⟨svc, hsvc, _⟩ := Option.bind_eq_some_iff.mp hmade
  exact ⟨svc, hsvc⟩

theorem tlsTowards_iff {cfg : Config} (hkind : cfg.backendKind = .service)
    {dynConfig : TraefikDynamicConfig} {name target : String} {svc : PangService}
    (hsvc : dynConfig.http.services[name]? = some svc) :
    TlsTowards cfg dynConfig name target ↔
      ∃ hostname, tlsTarget cfg name "" (classifyService cfg svc) = some (target, hostname) := by
  have hof := classifyEntries_of (blockTargets cfg dynConfig .http name) cfg.backendKind
  have hclass : classifyService cfg svc =
      classifyEntries (blockTargets cfg dynConfig .http name) cfg.backendKind := by
    rw [classifyService_targets, blockTargets, hsvc, Option.elim_some]
  rw [← hclass] at hof
  have hmade : serviceBackend cfg dynConfig .http name = emitBackend cfg name
      (classifyService cfg svc) "" "TCP" (blockSkipsVerify dynConfig .http name) .empty := by
    rw [serviceBackend_eq, ← hclass]
    rfl
  constructor
  · rintro ⟨⟨backend, d, hbackend, hservice, hns, hname⟩, htls⟩
    rw [hmade] at hbackend
    refine (tlsTarget_iff hkind hof hbackend).mpr ⟨hof.tls_iff.mpr ⟨?_, htls⟩, hservice, hns, hname⟩
    intro hnil
    rw [hof.eq_empty.mpr hnil] at hbackend
    cases hbackend
  · rintro ⟨hostname, htarget⟩
    cases hemit : emitBackend cfg name (classifyService cfg svc) "" "TCP"
      (blockSkipsVerify dynConfig .http name) .empty with
    | none =>
      rw [emitBackend_none hemit] at htarget
      cases htarget
    | some made =>
      obtain ⟨htls, hservice, hns, hname⟩ := (tlsTarget_iff hkind hof hemit).mp ⟨hostname, htarget⟩
      refine ⟨⟨made.1, made.2, by rw [hmade, hemit], hservice, hns, hname⟩, ?_⟩
      exact (hof.tls_iff.mp htls).2

theorem httpPolicyEntry_some {cfg : Config} (hkind : cfg.backendKind = .service)
    {dynConfig : TraefikDynamicConfig} {name policyName : String} {svc : PangService}
    {policy : BackendTLSPolicy} (hsvc : dynConfig.http.services[name]? = some svc)
    (h : httpPolicyEntry cfg (name, svc) = some (policyName, policy)) :
    ∃ target, TlsTowards cfg dynConfig name target ∧ backendName "btp" "" name = policyName ∧
      policy.Targets target := by
  obtain ⟨⟨target, hostname⟩, htarget, heq⟩ := Option.map_eq_some_iff.mp h
  obtain ⟨hname, rfl⟩ := Prod.mk.inj heq
  exact ⟨target, (tlsTowards_iff hkind hsvc).mpr ⟨hostname, htarget⟩, hname, rfl⟩

theorem httpPolicyEntry_of {cfg : Config} (hkind : cfg.backendKind = .service)
    {dynConfig : TraefikDynamicConfig} {name target : String} {svc : PangService}
    (hsvc : dynConfig.http.services[name]? = some svc) (h : TlsTowards cfg dynConfig name target) :
    ∃ policy : BackendTLSPolicy, policy.Targets target ∧
      httpPolicyEntry cfg (name, svc) = some (backendName "btp" "" name, policy) := by
  obtain ⟨hostname, htarget⟩ := (tlsTowards_iff hkind hsvc).mp h
  exact ⟨tlsPolicyOf cfg name "" target hostname, rfl,
    Option.map_eq_some_iff.mpr ⟨(target, hostname), htarget, rfl⟩⟩

/-! ## The policies that are left -/

omit [DefaultHasher] [UrlCrate] in
theorem services_sorted (services : Map PangService) :
    services.toList.Pairwise fun entry entry' => compare entry.1 entry'.1 = .lt :=
  Std.ExtTreeMap.ordered_keys_toList

omit [DefaultHasher] [UrlCrate] in
theorem name_order_asymm (entry entry' : String × PangService)
    (h : compare entry.1 entry'.1 = .lt) : ¬ compare entry'.1 entry.1 = .lt := by
  rw [Std.OrientedCmp.gt_of_lt h]
  simp

/-- A policy that is left was written by an https service for the Service that it resolves to, and
that service keeps its policy. -/
theorem policy_origin {cfg : Config} (hkind : cfg.backendKind = .service)
    {dynConfig : TraefikDynamicConfig} {policyName : String} {policy : BackendTLSPolicy}
    (h : (buildDesired cfg dynConfig).backendTlsPolicies[policyName]? = some policy) :
    ∃ name target, TlsTowards cfg dynConfig name target ∧ KeepsPolicy cfg dynConfig name ∧
      policy.Targets target := by
  rw [buildDesired_backendTlsPolicies hkind, InsertLoop.getElem?_insertAll] at h
  cases hwriter : InsertLoop.lastWriter (httpPolicyEntry cfg) policyName
    dynConfig.http.services.toList with
  | none => simp [hwriter] at h
  | some entry =>
    obtain ⟨name, svc⟩ := entry
    obtain ⟨hmem, written, hentry⟩ := InsertLoop.lastWriter_some _ hwriter
    have hsvc := Std.ExtTreeMap.mem_toList_iff_getElem?_eq_some.mp hmem
    obtain rfl : written = policy := by simpa [hwriter, hentry] using h
    obtain ⟨target, htowards, hname, htargets⟩ := httpPolicyEntry_some hkind hsvc hentry
    refine ⟨name, target, htowards, ?_, htargets⟩
    intro later target' hlater htowards' hsame
    obtain ⟨svc', hsvc'⟩ := htowards'.service
    obtain ⟨policy', _, hentry'⟩ := httpPolicyEntry_of hkind hsvc' htowards'
    have hmem' := Std.ExtTreeMap.mem_toList_iff_getElem?_eq_some.mpr hsvc'
    apply InsertLoop.lastWriter_later _ name_order_asymm (services_sorted _) hwriter hmem' hlater
      policy'
    rw [hentry', hsame, hname]

theorem policy_of_tlsTowards {cfg : Config} (hkind : cfg.backendKind = .service)
    {dynConfig : TraefikDynamicConfig} {name target : String}
    (h : TlsTowards cfg dynConfig name target) (hkeeps : KeepsPolicy cfg dynConfig name) :
    ∃ (policyName : String) (policy : BackendTLSPolicy),
      (buildDesired cfg dynConfig).backendTlsPolicies[policyName]? = some policy ∧
        policy.Targets target := by
  obtain ⟨svc, hsvc⟩ := h.service
  obtain ⟨policy, htargets, hentry⟩ := httpPolicyEntry_of hkind hsvc h
  refine ⟨backendName "btp" "" name, policy, ?_, htargets⟩
  have hmem := Std.ExtTreeMap.mem_toList_iff_getElem?_eq_some.mpr hsvc
  have hwriter := InsertLoop.lastWriter_of_later (httpPolicyEntry cfg)
    (services_sorted dynConfig.http.services) hmem hentry (by
      intro entry' hmem' hlater policy' hentry'
      have hsvc' := Std.ExtTreeMap.mem_toList_iff_getElem?_eq_some.mp hmem'
      obtain ⟨target', htowards', hname', _⟩ := httpPolicyEntry_some hkind hsvc' hentry'
      exact hkeeps entry'.1 target' hlater htowards' hname')
  rw [buildDesired_backendTlsPolicies hkind, InsertLoop.getElem?_insertAll, hwriter]
  simp [hentry]

/-- Every policy belongs to an https service, and none applies to the Service that a plain service
resolves to unless an https service whose policy is kept resolves to the same Service. -/
theorem policies_reach_plain (cfg : Config) (hkind : cfg.backendKind = .service)
    (dynConfig : TraefikDynamicConfig) :
    (∀ (policyName : String) (policy : BackendTLSPolicy),
      (buildDesired cfg dynConfig).backendTlsPolicies[policyName]? = some policy →
        ∃ name target, TlsTowards cfg dynConfig name target ∧ policy.Targets target) ∧
    ∀ (b : Block) (name : String) (backend : ResolvedBackend) (d : Desired),
      serviceBackend cfg dynConfig b name = some (backend, d) →
      (∀ e ∈ blockServers cfg dynConfig b name, e.tls = false) →
      backend.kind = "Service" → backend.ns.getD cfg.ns = cfg.ns →
        ((∀ (policyName : String) (policy : BackendTLSPolicy) (portName : Option String),
            (buildDesired cfg dynConfig).backendTlsPolicies[policyName]? = some policy →
              ¬ policy.AppliesTo backend.name portName) ↔
          ¬ ∃ other, TlsTowards cfg dynConfig other backend.name ∧
            KeepsPolicy cfg dynConfig other) := by
  constructor
  · intro policyName policy hpolicy
    obtain ⟨name, target, htowards, _, htargets⟩ := policy_origin hkind hpolicy
    exact ⟨name, target, htowards, htargets⟩
  · intro b name backend d _ _ _ _
    constructor
    · rintro hnone ⟨other, htowards, hkeeps⟩
      obtain ⟨policyName, policy, hpolicy, htargets⟩ := policy_of_tlsTowards hkind htowards hkeeps
      exact hnone policyName policy none hpolicy ((htargets.appliesTo _ none).mpr rfl)
    · intro hnone policyName policy portName hpolicy happlies
      obtain ⟨other, target, htowards, hkeeps, htargets⟩ := policy_origin hkind hpolicy
      rw [htargets.appliesTo] at happlies
      exact hnone ⟨other, happlies ▸ htowards, hkeeps⟩

omit [DefaultHasher] [UrlCrate] in
/-- The plain IP service of the sample, with no https service beside it. -/
theorem policies_reach_plain_sample : ∃ backend d,
    @serviceBackend sampleHasher sampleUrlCrate sampleConfig (sampleDynConfig sampleRouters) .http
      "app" = some (backend, d) ∧
    ∀ (policyName : String) (policy : BackendTLSPolicy) (portName : Option String),
      (@buildDesired sampleHasher sampleUrlCrate sampleConfig
        (sampleDynConfig sampleRouters)).backendTlsPolicies[policyName]? = some policy →
        ¬ policy.AppliesTo backend.name portName := by
  let _ := sampleHasher
  let _ := sampleUrlCrate
  have hservers : ∀ e ∈ blockServers sampleConfig (sampleDynConfig sampleRouters) .http "app",
      e.tls = false := by
    rw [show blockServers sampleConfig (sampleDynConfig sampleRouters) .http "app" =
      [⟨"10.0.0.7", 8080, false⟩] by rfl]
    simp
  obtain ⟨backend, d, hmade, hservice, hns⟩ : ∃ backend d,
      serviceBackend sampleConfig (sampleDynConfig sampleRouters) .http "app" = some (backend, d) ∧
        backend.kind = "Service" ∧ backend.ns.getD "gateway" = "gateway" :=
    ⟨_, _, rfl, rfl, rfl⟩
  refine ⟨backend, d, hmade, ?_⟩
  rw [(policies_reach_plain sampleConfig rfl (sampleDynConfig sampleRouters)).2 .http "app" backend d
    hmade hservers hservice hns]
  rintro ⟨other, htowards, _⟩
  obtain ⟨svc, hsvc⟩ := htowards.service
  have hmem := Std.ExtTreeMap.mem_toList_iff_getElem?_eq_some.mpr hsvc
  have hlist : (sampleDynConfig sampleRouters).http.services.toList = sampleServices := by rfl
  rw [hlist, sampleServices, List.mem_singleton] at hmem
  obtain ⟨rfl, rfl⟩ := Prod.mk.inj hmem
  obtain ⟨backend', d', hmade', _⟩ := htowards.resolved
  have hplain := htowards.https ⟨"10.0.0.7", 8080, false⟩ (by
    rw [show blockServers sampleConfig (sampleDynConfig sampleRouters) .http "app" =
      [⟨"10.0.0.7", 8080, false⟩] by rfl]
    exact List.mem_singleton_self _)
  cases hplain

@[reducible] def echoUrlCrate : UrlCrate where
  parse s :=
    if s = "http://echo.gateway.svc" then
      some ⟨"http://echo.gateway.svc/", "http", some "echo.gateway.svc", some 80⟩
    else if s = "https://echo.gateway.svc:8443" then
      some ⟨"https://echo.gateway.svc:8443/", "https", some "echo.gateway.svc", some 8443⟩
    else none
  formUrlencodedParse _ := []
  formUrlencodedSerialize _ := ""

def echoServices : List (String × PangService) :=
  [("plain", ⟨some ⟨[⟨"http://echo.gateway.svc"⟩], none⟩⟩),
    ("secure", ⟨some ⟨[⟨"https://echo.gateway.svc:8443"⟩], none⟩⟩)]

def echoDynConfig : TraefikDynamicConfig where
  http := ⟨∅, Std.ExtTreeMap.ofList echoServices, ∅, ∅⟩
  tcp := none
  udp := none

omit [DefaultHasher] [UrlCrate] in
/-- One cluster Service behind a plain service and, on another port, behind an https service. -/
theorem plain_service_gets_policy :
    ¬ ∀ (cfg : Config) (dynConfig : TraefikDynamicConfig) (b : Block) (name : String)
      (backend : ResolvedBackend) (d : Desired), cfg.backendKind = .service →
      @serviceBackend sampleHasher echoUrlCrate cfg dynConfig b name = some (backend, d) →
      (∀ e ∈ @blockServers echoUrlCrate cfg dynConfig b name, e.tls = false) →
      backend.kind = "Service" → backend.ns.getD cfg.ns = cfg.ns →
        ∀ (policyName : String) (policy : BackendTLSPolicy) (portName : Option String),
          (@buildDesired sampleHasher echoUrlCrate cfg dynConfig).backendTlsPolicies[policyName]? =
            some policy → ¬ policy.AppliesTo backend.name portName := by
  let _ := sampleHasher
  let _ := echoUrlCrate
  intro h
  have hplain : ∀ e ∈ blockServers sampleConfig echoDynConfig .http "plain", e.tls = false := by
    rw [show blockServers sampleConfig echoDynConfig .http "plain" =
      [⟨"echo.gateway.svc", 80, false⟩] by rfl]
    simp
  have hsecure : ∀ e ∈ blockServers sampleConfig echoDynConfig .http "secure", e.tls = true := by
    rw [show blockServers sampleConfig echoDynConfig .http "secure" =
      [⟨"echo.gateway.svc", 8443, true⟩] by rfl]
    simp
  have htowards : TlsTowards sampleConfig echoDynConfig "secure" "echo" :=
    ⟨⟨_, _, rfl, rfl, rfl, rfl⟩, hsecure⟩
  have hkeeps : KeepsPolicy sampleConfig echoDynConfig "secure" := by
    intro later target hlater hlast _
    obtain ⟨svc, hsvc⟩ := hlast.service
    have hmem := Std.ExtTreeMap.mem_toList_iff_getElem?_eq_some.mpr hsvc
    have hlist : echoDynConfig.http.services.toList = echoServices := by rfl
    rw [hlist, echoServices] at hmem
    simp only [List.mem_cons, Prod.mk.injEq, List.not_mem_nil, or_false] at hmem
    obtain ⟨rfl, _⟩ | ⟨rfl, _⟩ := hmem
    · revert hlater
      decide
    · revert hlater
      decide
  obtain ⟨policyName, policy, hpolicy, htargets⟩ := policy_of_tlsTowards rfl htowards hkeeps
  exact h sampleConfig echoDynConfig .http "plain" _ _ rfl rfl hplain rfl rfl policyName policy none
    hpolicy ((htargets.appliesTo _ none).mpr rfl)

end PangolinGateway
