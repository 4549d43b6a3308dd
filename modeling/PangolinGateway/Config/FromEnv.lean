import PangolinGateway.Config.Readable
import PangolinGateway.Crates

/-! # The configuration of the controller

What the controller starts with is read from the environment, variable by variable. The settings
that some environment yields are exactly the well-formed ones, and an error names a variable that is
at fault. -/
namespace PangolinGateway
set_option autoImplicit false

/-- Everything that the controller reads at its start. -/
structure Settings extends Config where
  pangolinEndpoint : Url
  fetchTimeout : ℕ
  tlsSkipVerify : Bool
  caFile : Option String
  fieldManager : String
  logTraefikConfig : Bool
  /-- Where the health endpoints listen, if they are not switched off. -/
  healthListen : Option String

variable [UrlCrate] [HumantimeCrate]

/-- What is needed only on a condition has to be confirmed by another variable. -/
def confirmed (env : Vars) (needed : Bool) (key : String) (e : EnvError) : Except EnvError Unit :=
  if needed then
    match boolEnv env key false with
    | .error e' => .error e'
    | .ok true => .ok ()
    | .ok false => .error e
  else .ok ()

def backendKindEnv (env : Vars) : Except EnvError BackendKind :=
  match optionalEnv env "CONFIG_BACKEND_KIND" with
  | some raw => BackendKind.parse raw
  | none => .ok .envoyBackend

def extAuthzEnv (env : Vars) : Except EnvError (Option ExtAuthzConfig) :=
  match optionalEnv env "CONFIG_EXT_AUTHZ_SERVICE" with
  | none => .ok none
  | some service =>
    match i32Env env "CONFIG_EXT_AUTHZ_PORT" 80 with
    | .error e => .error e
    | .ok port => .ok <| some {
        service := service
        ns := optionalEnv env "CONFIG_EXT_AUTHZ_NAMESPACE"
        port := port
        path := optionalEnv env "CONFIG_EXT_AUTHZ_PATH"
        headersToExtAuth :=
          csvEnv env "CONFIG_EXT_AUTHZ_HEADERS_TO_EXT_AUTH" ["cookie", "authorization"]
        headersToBackend := csvEnv env "CONFIG_EXT_AUTHZ_HEADERS_TO_BACKEND" [] }

def healthListenEnv (env : Vars) : Option String :=
  match optionalEnv env "CONFIG_HEALTH_LISTEN" with
  | none => some "0.0.0.0:8081"
  | some v => if v = "off" ∨ v = "disabled" ∨ v = "none" then none else some v

def Settings.fromEnv (env : Vars) : Except EnvError Settings := do
  let endpointRaw ← requiredEnv env "CONFIG_ENDPOINT"
  let pangolinEndpoint ← orError .endpoint (UrlCrate.parse endpointRaw)
  let tlsSkipVerify ← boolEnv env "CONFIG_TLS_SKIP_VERIFY" false
  confirmed env tlsSkipVerify "I_UNDERSTAND_CONFIG_TLS_SKIP_VERIFY_IS_INSECURE" .tlsSkipVerify
  confirmed env (pangolinEndpoint.scheme == "http") "CONFIG_ALLOW_INSECURE_HTTP" .insecureHttp
  let fetchTimeout ← durationEnv env "CONFIG_FETCH_TIMEOUT" 30000000000
  let pollInterval ← durationEnv env "CONFIG_POLL_INTERVAL" 30000000000
  let maxBackoff ← durationEnv env "CONFIG_MAX_BACKOFF" 300000000000
  let maxResponseBodyBytes ← u64Env env "CONFIG_MAX_RESPONSE_BODY_BYTES" (16 * 1024 * 1024)
  let parentGateway ← requiredEnv env "CONFIG_PARENT_GATEWAY"
  let httpPort ← i32Env env "CONFIG_HTTP_PORT" 80
  let httpsPort ← i32Env env "CONFIG_HTTPS_PORT" 443
  let enableHttpsListeners ← boolEnv env "CONFIG_ENABLE_HTTPS_LISTENERS" true
  let enableTcpRoutes ← boolEnv env "CONFIG_ENABLE_TCP_ROUTES" false
  let enableUdpRoutes ← boolEnv env "CONFIG_ENABLE_UDP_ROUTES" false
  let backendKind ← backendKindEnv env
  let extAuthz ← extAuthzEnv env
  let allowUnauthenticatedRoutes ← boolEnv env "CONFIG_ALLOW_UNAUTHENTICATED_ROUTES" false
  let httprouteAnnotations ← parseKvEnv env "CONFIG_HTTPROUTE_ANNOTATIONS"
  let listenersetAnnotations ← parseKvEnv env "CONFIG_LISTENERSET_ANNOTATIONS"
  let readOnly ← boolEnv env "CONFIG_READ_ONLY" false
  let logTraefikConfig ← boolEnv env "CONFIG_LOG_TRAEFIK_CONFIG" false
  return {
    pangolinEndpoint, fetchTimeout, pollInterval, maxBackoff, maxResponseBodyBytes, tlsSkipVerify
    parentGateway, httpPort, httpsPort, enableHttpsListeners, enableTcpRoutes, enableUdpRoutes
    backendKind, extAuthz, allowUnauthenticatedRoutes, httprouteAnnotations, listenersetAnnotations
    readOnly, logTraefikConfig
    authHeader := optionalEnv env "CONFIG_AUTH_HEADER"
    caFile := optionalEnv env "CONFIG_CA_FILE"
    ns := (optionalEnv env "CONFIG_NAMESPACE").getD "default"
    parentGatewayNamespace := optionalEnv env "CONFIG_PARENT_GATEWAY_NAMESPACE"
    listenerSetName := (optionalEnv env "CONFIG_LISTENERSET_NAME").getD "pangolin"
    tlsSecretTemplate := optionalEnv env "CONFIG_TLS_SECRET_TEMPLATE"
    tlsSecretNamespace := optionalEnv env "CONFIG_TLS_SECRET_NAMESPACE"
    fieldManager := (optionalEnv env "CONFIG_FIELD_MANAGER").getD "pangolin-gateway-controller"
    managedLabelKey :=
      (optionalEnv env "CONFIG_MANAGED_LABEL_KEY").getD "app.kubernetes.io/managed-by"
    managedLabelValue :=
      (optionalEnv env "CONFIG_MANAGED_LABEL_VALUE").getD "pangolin-gateway-controller"
    instanceLabelKey :=
      (optionalEnv env "CONFIG_INSTANCE_LABEL_KEY").getD "pangolin.envisia.de/instance"
    instanceLabelValue := (optionalEnv env "CONFIG_INSTANCE_LABEL_VALUE").getD "default"
    managedAnnotationKey :=
      (optionalEnv env "CONFIG_MANAGED_ANNOTATION_KEY").getD "pangolin.envisia.de/source"
    managedAnnotationValue :=
      (optionalEnv env "CONFIG_MANAGED_ANNOTATION_VALUE").getD "pangolin-gateway-controller"
    healthListen := healthListenEnv env }

/-! ## Accepted settings -/

omit [UrlCrate] [HumantimeCrate] in
theorem bind_ok_iff {E A B : Type} {x : Except E A} {f : A → Except E B} {b : B} :
    (x >>= f) = .ok b ↔ ∃ a, x = .ok a ∧ f a = .ok b := by
  cases x <;> simp [bind, Except.bind]

/-- Every field is what its variable says. -/
structure Settings.ReadFrom (env : Vars) (s : Settings) : Prop where
  endpoint : ∃ raw, requiredEnv env "CONFIG_ENDPOINT" = .ok raw ∧
    UrlCrate.parse raw = some s.pangolinEndpoint
  tlsSkipVerify : boolEnv env "CONFIG_TLS_SKIP_VERIFY" false = .ok s.tlsSkipVerify
  tlsConfirmed : confirmed env s.tlsSkipVerify "I_UNDERSTAND_CONFIG_TLS_SKIP_VERIFY_IS_INSECURE"
    .tlsSkipVerify = .ok ()
  httpConfirmed : confirmed env (s.pangolinEndpoint.scheme == "http") "CONFIG_ALLOW_INSECURE_HTTP"
    .insecureHttp = .ok ()
  fetchTimeout : durationEnv env "CONFIG_FETCH_TIMEOUT" 30000000000 = .ok s.fetchTimeout
  pollInterval : durationEnv env "CONFIG_POLL_INTERVAL" 30000000000 = .ok s.pollInterval
  maxBackoff : durationEnv env "CONFIG_MAX_BACKOFF" 300000000000 = .ok s.maxBackoff
  maxResponseBodyBytes :
    u64Env env "CONFIG_MAX_RESPONSE_BODY_BYTES" (16 * 1024 * 1024) = .ok s.maxResponseBodyBytes
  parentGateway : requiredEnv env "CONFIG_PARENT_GATEWAY" = .ok s.parentGateway
  httpPort : i32Env env "CONFIG_HTTP_PORT" 80 = .ok s.httpPort
  httpsPort : i32Env env "CONFIG_HTTPS_PORT" 443 = .ok s.httpsPort
  enableHttpsListeners :
    boolEnv env "CONFIG_ENABLE_HTTPS_LISTENERS" true = .ok s.enableHttpsListeners
  enableTcpRoutes : boolEnv env "CONFIG_ENABLE_TCP_ROUTES" false = .ok s.enableTcpRoutes
  enableUdpRoutes : boolEnv env "CONFIG_ENABLE_UDP_ROUTES" false = .ok s.enableUdpRoutes
  backendKind : backendKindEnv env = .ok s.backendKind
  extAuthz : extAuthzEnv env = .ok s.extAuthz
  allowUnauthenticatedRoutes :
    boolEnv env "CONFIG_ALLOW_UNAUTHENTICATED_ROUTES" false = .ok s.allowUnauthenticatedRoutes
  httprouteAnnotations : parseKvEnv env "CONFIG_HTTPROUTE_ANNOTATIONS" = .ok s.httprouteAnnotations
  listenersetAnnotations :
    parseKvEnv env "CONFIG_LISTENERSET_ANNOTATIONS" = .ok s.listenersetAnnotations
  readOnly : boolEnv env "CONFIG_READ_ONLY" false = .ok s.readOnly
  logTraefikConfig : boolEnv env "CONFIG_LOG_TRAEFIK_CONFIG" false = .ok s.logTraefikConfig
  authHeader : optionalEnv env "CONFIG_AUTH_HEADER" = s.authHeader
  caFile : optionalEnv env "CONFIG_CA_FILE" = s.caFile
  ns : (optionalEnv env "CONFIG_NAMESPACE").getD "default" = s.ns
  parentGatewayNamespace :
    optionalEnv env "CONFIG_PARENT_GATEWAY_NAMESPACE" = s.parentGatewayNamespace
  listenerSetName : (optionalEnv env "CONFIG_LISTENERSET_NAME").getD "pangolin" = s.listenerSetName
  tlsSecretTemplate : optionalEnv env "CONFIG_TLS_SECRET_TEMPLATE" = s.tlsSecretTemplate
  tlsSecretNamespace : optionalEnv env "CONFIG_TLS_SECRET_NAMESPACE" = s.tlsSecretNamespace
  fieldManager : (optionalEnv env "CONFIG_FIELD_MANAGER").getD
    "pangolin-gateway-controller" = s.fieldManager
  managedLabelKey : (optionalEnv env "CONFIG_MANAGED_LABEL_KEY").getD
    "app.kubernetes.io/managed-by" = s.managedLabelKey
  managedLabelValue : (optionalEnv env "CONFIG_MANAGED_LABEL_VALUE").getD
    "pangolin-gateway-controller" = s.managedLabelValue
  instanceLabelKey : (optionalEnv env "CONFIG_INSTANCE_LABEL_KEY").getD
    "pangolin.envisia.de/instance" = s.instanceLabelKey
  instanceLabelValue : (optionalEnv env "CONFIG_INSTANCE_LABEL_VALUE").getD
    "default" = s.instanceLabelValue
  managedAnnotationKey : (optionalEnv env "CONFIG_MANAGED_ANNOTATION_KEY").getD
    "pangolin.envisia.de/source" = s.managedAnnotationKey
  managedAnnotationValue : (optionalEnv env "CONFIG_MANAGED_ANNOTATION_VALUE").getD
    "pangolin-gateway-controller" = s.managedAnnotationValue
  healthListen : healthListenEnv env = s.healthListen

theorem fromEnv_ok_iff {env : Vars} {s : Settings} :
    Settings.fromEnv env = .ok s ↔ s.ReadFrom env := by
  unfold Settings.fromEnv
  simp only [bind_ok_iff, orError_ok]
  constructor
  · rintro ⟨raw, hraw, url, hurl, skip, hskip, ⟨⟩, htls, ⟨⟩, hhttp, _, h0, _, h1, _, h2, _, h3, _,
      h4, _, h5, _, h6, _, h7, _, h8, _, h9, _, h10, _, h11, _, h12, _, h13, _, h14, _, h15, _, h16,
      hs⟩
    obtain rfl := Except.ok.inj hs
    exact ⟨⟨raw, hraw, hurl⟩, hskip, htls, hhttp, h0, h1, h2, h3, h4, h5, h6, h7, h8, h9, h10, h11,
      h12, h13, h14, h15, h16, rfl, rfl, rfl, rfl, rfl, rfl, rfl, rfl, rfl, rfl, rfl, rfl, rfl, rfl,
      rfl⟩
  · rintro h
    obtain ⟨raw, hraw, hurl⟩ := h.endpoint
    refine ⟨raw, hraw, _, hurl, _, h.tlsSkipVerify, (), h.tlsConfirmed, (), h.httpConfirmed, _,
      h.fetchTimeout, _, h.pollInterval, _, h.maxBackoff, _, h.maxResponseBodyBytes, _,
      h.parentGateway, _, h.httpPort, _, h.httpsPort, _, h.enableHttpsListeners, _,
      h.enableTcpRoutes, _, h.enableUdpRoutes, _, h.backendKind, _, h.extAuthz, _,
      h.allowUnauthenticatedRoutes, _, h.httprouteAnnotations, _, h.listenersetAnnotations, _,
      h.readOnly, _, h.logTraefikConfig, ?_⟩
    simp only [h.authHeader, h.caFile, h.ns, h.parentGatewayNamespace, h.listenerSetName,
      h.tlsSecretTemplate, h.tlsSecretNamespace, h.fieldManager, h.managedLabelKey,
      h.managedLabelValue, h.instanceLabelKey, h.instanceLabelValue, h.managedAnnotationKey,
      h.managedAnnotationValue, h.healthListen]
    rfl

/-- The value of a duration variable: its default, or what some text stands for. -/
def Duration (default n : ℕ) : Prop :=
  n = default ∨ ∃ v, v ≠ "" ∧ HumantimeCrate.parseDuration v = some n

structure ExtAuthzConfig.WellFormed (ea : ExtAuthzConfig) : Prop where
  service : ea.service ≠ ""
  ns : ea.ns ≠ some ""
  port : Str.InI32 ea.port
  path : ea.path ≠ some ""
  headersToExtAuth :
    ea.headersToExtAuth = ["cookie", "authorization"] ∨ CsvWords ea.headersToExtAuth
  headersToBackend : ea.headersToBackend = [] ∨ CsvWords ea.headersToBackend

/-- What settings from the environment look like. -/
structure Settings.WellFormed (s : Settings) : Prop where
  endpoint : ∃ raw, UrlCrate.parse raw = some s.pangolinEndpoint
  fetchTimeout : Duration 30000000000 s.fetchTimeout
  pollInterval : Duration 30000000000 s.pollInterval
  maxBackoff : Duration 300000000000 s.maxBackoff
  maxResponseBodyBytes : s.maxResponseBodyBytes < 18446744073709551616
  ports : Str.InI32 s.httpPort ∧ Str.InI32 s.httpsPort
  extAuthz : ∀ ea, s.extAuthz = some ea → ea.WellFormed
  annotations : ∀ m ∈ [s.httprouteAnnotations, s.listenersetAnnotations],
    ∀ k v, m[k]? = some v → Annotation k v
  texts : ∀ text ∈ [s.ns, s.listenerSetName, s.fieldManager, s.managedLabelKey, s.managedLabelValue,
    s.instanceLabelKey, s.instanceLabelValue, s.managedAnnotationKey, s.managedAnnotationValue],
      text ≠ ""
  options : ∀ option ∈ [s.authHeader, s.caFile, s.parentGatewayNamespace, s.tlsSecretTemplate,
    s.tlsSecretNamespace], option ≠ some ""
  healthListen : ∀ v, s.healthListen = some v → v ∉ ["", "off", "disabled", "none"]

/-! ### What is read is well formed -/

section
omit [UrlCrate] [HumantimeCrate]

theorem optionalEnv_ne (env : Vars) (key : String) : optionalEnv env key ≠ some "" :=
  (exists_optional key).mp ⟨env key, rfl⟩

theorem getD_ne {env : Vars} {key default : String} (h : default ≠ "") :
    (optionalEnv env key).getD default ≠ "" := by
  cases hset : optionalEnv env key with
  | none => exact h
  | some v =>
    rintro rfl
    exact optionalEnv_ne env key hset

theorem extAuthzEnv_wellFormed {env : Vars} {ea : ExtAuthzConfig}
    (h : extAuthzEnv env = .ok (some ea)) : ea.WellFormed := by
  unfold extAuthzEnv at h
  cases hservice : optionalEnv env "CONFIG_EXT_AUTHZ_SERVICE" with
  | none => simp [hservice] at h
  | some service =>
    rw [hservice] at h
    cases hport : i32Env env "CONFIG_EXT_AUTHZ_PORT" 80 with
    | error e => simp [hport] at h
    | ok port =>
      rw [hport] at h
      obtain rfl := Option.some.inj (Except.ok.inj h)
      refine ⟨?_, optionalEnv_ne _ _, ?_, optionalEnv_ne _ _,
        (exists_csv "CONFIG_EXT_AUTHZ_HEADERS_TO_EXT_AUTH").mp ⟨env _, rfl⟩,
        (exists_csv "CONFIG_EXT_AUTHZ_HEADERS_TO_BACKEND").mp ⟨env _, rfl⟩⟩
      · rintro rfl
        exact optionalEnv_ne _ _ hservice
      · exact (readAs_i32 (by decide)).mp ⟨env "CONFIG_EXT_AUTHZ_PORT", hport⟩

end

theorem Settings.ReadFrom.wellFormed {env : Vars} {s : Settings} (h : s.ReadFrom env) :
    s.WellFormed := by
  obtain ⟨raw, _, hurl⟩ := h.endpoint
  constructor
  · exact ⟨raw, hurl⟩
  · exact readAs_duration.mp ⟨env "CONFIG_FETCH_TIMEOUT", h.fetchTimeout⟩
  · exact readAs_duration.mp ⟨env "CONFIG_POLL_INTERVAL", h.pollInterval⟩
  · exact readAs_duration.mp ⟨env "CONFIG_MAX_BACKOFF", h.maxBackoff⟩
  · exact (readAs_u64 (by decide)).mp ⟨env "CONFIG_MAX_RESPONSE_BODY_BYTES",
      h.maxResponseBodyBytes⟩
  · exact ⟨(readAs_i32 (by decide)).mp ⟨env "CONFIG_HTTP_PORT", h.httpPort⟩,
      (readAs_i32 (by decide)).mp ⟨env "CONFIG_HTTPS_PORT", h.httpsPort⟩⟩
  · intro ea hea
    exact extAuthzEnv_wellFormed (hea ▸ h.extAuthz)
  · simp only [List.mem_cons, List.not_mem_nil, or_false, forall_eq_or_imp, forall_eq]
    exact ⟨readAs_kv.mp ⟨env "CONFIG_HTTPROUTE_ANNOTATIONS", h.httprouteAnnotations⟩,
      readAs_kv.mp ⟨env "CONFIG_LISTENERSET_ANNOTATIONS", h.listenersetAnnotations⟩⟩
  · simp only [← h.ns, ← h.listenerSetName, ← h.fieldManager, ← h.managedLabelKey,
      ← h.managedLabelValue, ← h.instanceLabelKey, ← h.instanceLabelValue, ← h.managedAnnotationKey,
      ← h.managedAnnotationValue, List.mem_cons, List.not_mem_nil, or_false, forall_eq_or_imp,
      forall_eq]
    exact ⟨getD_ne (by decide), getD_ne (by decide), getD_ne (by decide), getD_ne (by decide),
      getD_ne (by decide), getD_ne (by decide), getD_ne (by decide), getD_ne (by decide),
      getD_ne (by decide)⟩
  · simp only [← h.authHeader, ← h.caFile, ← h.parentGatewayNamespace, ← h.tlsSecretTemplate,
      ← h.tlsSecretNamespace, List.mem_cons, List.not_mem_nil, or_false, forall_eq_or_imp,
        forall_eq]
    exact ⟨optionalEnv_ne _ _, optionalEnv_ne _ _, optionalEnv_ne _ _, optionalEnv_ne _ _,
      optionalEnv_ne _ _⟩
  · intro v hv
    rw [← h.healthListen, healthListenEnv] at hv
    cases hset : optionalEnv env "CONFIG_HEALTH_LISTEN" with
    | none =>
      rw [hset] at hv
      obtain rfl := Option.some.inj hv
      decide
    | some w =>
      simp only [hset] at hv
      split at hv
      · cases hv
      · next hoff =>
        obtain rfl := Option.some.inj hv
        have hne : w ≠ "" := by
          rintro rfl
          exact optionalEnv_ne _ _ hset
        simpa [hne] using hoff

/-! ### What is well formed can be read -/

section
omit [UrlCrate]

def Setting.duration (key : String) (default n : ℕ) (h : Duration default n) : Setting :=
  .of (durationEnv · key default) key (.ok n) (fun _ => rfl) (readAs_duration.mpr h)

omit [HumantimeCrate]

def Setting.confirmation (needed : Bool) (key : String) (e : EnvError) : Setting :=
  .of (confirmed · needed key e) key (.ok ()) (fun _ => rfl) <| by
    obtain ⟨o, ho⟩ := readAs_bool key false true
    exact ⟨o, by cases needed <;> simp [confirmed, ho]⟩

def Setting.backendKind (kind : BackendKind) : Setting :=
  .of backendKindEnv "CONFIG_BACKEND_KIND" (.ok kind) (fun _ => rfl) <| by
    cases kind with
    | service => exact ⟨some "service", by decide⟩
    | envoyBackend => exact ⟨none, rfl⟩

def Setting.healthListen (healthListen : Option String)
    (h : ∀ v, healthListen = some v → v ∉ ["", "off", "disabled", "none"]) : Setting :=
  .of healthListenEnv "CONFIG_HEALTH_LISTEN" healthListen (fun _ => rfl) <| by
    cases healthListen with
    | none => exact ⟨some "off", by decide⟩
    | some v =>
      have hv := h v rfl
      simp only [List.mem_cons, List.not_mem_nil, or_false, not_or] at hv
      obtain ⟨o, ho⟩ := (exists_optional "CONFIG_HEALTH_LISTEN").mpr
        fun heq => hv.1 (Option.some.inj heq)
      refine ⟨o, ?_⟩
      rw [healthListenEnv, ho]
      exact if_neg (by simpa using hv.2)

def Setting.extAuthz (extAuthz : Option ExtAuthzConfig)
    (h : ∀ ea, extAuthz = some ea → ea.WellFormed) : Setting where
  keys := ["CONFIG_EXT_AUTHZ_SERVICE", "CONFIG_EXT_AUTHZ_NAMESPACE", "CONFIG_EXT_AUTHZ_PORT",
    "CONFIG_EXT_AUTHZ_PATH", "CONFIG_EXT_AUTHZ_HEADERS_TO_EXT_AUTH",
    "CONFIG_EXT_AUTHZ_HEADERS_TO_BACKEND"]
  holds env := extAuthzEnv env = .ok extAuthz
  settable := by
    cases extAuthz with
    | none =>
      refine ⟨fun _ => none, fun env henv => ?_⟩
      simp [extAuthzEnv, optionalEnv, henv "CONFIG_EXT_AUTHZ_SERVICE"]
    | some ea =>
      obtain ⟨hservice, hns, hport, hpath, hto, hback⟩ := h ea rfl
      obtain ⟨o, ho⟩ := @exists_vars [
        .optional "CONFIG_EXT_AUTHZ_SERVICE" (some ea.service)
          fun heq => hservice (Option.some.inj heq),
        .optional "CONFIG_EXT_AUTHZ_NAMESPACE" ea.ns hns,
        .i32 "CONFIG_EXT_AUTHZ_PORT" 80 ea.port (by decide) hport,
        .optional "CONFIG_EXT_AUTHZ_PATH" ea.path hpath,
        .csv "CONFIG_EXT_AUTHZ_HEADERS_TO_EXT_AUTH" ["cookie", "authorization"] _ hto,
        .csv "CONFIG_EXT_AUTHZ_HEADERS_TO_BACKEND" [] _ hback]
        (by simp [Setting.optional, Setting.i32, Setting.csv, Setting.of])
      refine ⟨o, fun env henv => ?_⟩
      have hall := ho env henv
      simp only [List.forall_mem_cons, List.not_mem_nil, false_imp_iff, implies_true,
        and_true] at hall
      obtain ⟨hservice, hns, hport, hpath, hto, hback⟩ := hall
      simp only [Setting.optional, Setting.i32, Setting.csv, Setting.of]
        at hservice hns hport hpath hto hback
      rw [extAuthzEnv, hservice]
      simp only [hport, hns, hpath, hto, hback]

end

/-- What the variables are set to, so that the settings are read. -/
def Settings.variables (s : Settings) (h : s.WellFormed) (raw : String) : List Setting := [
    .required "CONFIG_ENDPOINT" raw,
    .bool "CONFIG_TLS_SKIP_VERIFY" false s.tlsSkipVerify,
    .confirmation s.tlsSkipVerify "I_UNDERSTAND_CONFIG_TLS_SKIP_VERIFY_IS_INSECURE"
      .tlsSkipVerify,
    .confirmation (s.pangolinEndpoint.scheme == "http") "CONFIG_ALLOW_INSECURE_HTTP"
      .insecureHttp,
    .duration "CONFIG_FETCH_TIMEOUT" 30000000000 _ h.fetchTimeout,
    .duration "CONFIG_POLL_INTERVAL" 30000000000 _ h.pollInterval,
    .duration "CONFIG_MAX_BACKOFF" 300000000000 _ h.maxBackoff,
    .u64 "CONFIG_MAX_RESPONSE_BODY_BYTES" (16 * 1024 * 1024) _ (by decide) h.maxResponseBodyBytes,
    .required "CONFIG_PARENT_GATEWAY" s.parentGateway,
    .i32 "CONFIG_HTTP_PORT" 80 _ (by decide) h.ports.1,
    .i32 "CONFIG_HTTPS_PORT" 443 _ (by decide) h.ports.2,
    .bool "CONFIG_ENABLE_HTTPS_LISTENERS" true s.enableHttpsListeners,
    .bool "CONFIG_ENABLE_TCP_ROUTES" false s.enableTcpRoutes,
    .bool "CONFIG_ENABLE_UDP_ROUTES" false s.enableUdpRoutes,
    .backendKind s.backendKind,
    .extAuthz _ h.extAuthz,
    .bool "CONFIG_ALLOW_UNAUTHENTICATED_ROUTES" false s.allowUnauthenticatedRoutes,
    .kv "CONFIG_HTTPROUTE_ANNOTATIONS" _ (h.annotations s.httprouteAnnotations (by simp)),
    .kv "CONFIG_LISTENERSET_ANNOTATIONS" _ (h.annotations s.listenersetAnnotations (by simp)),
    .bool "CONFIG_READ_ONLY" false s.readOnly,
    .bool "CONFIG_LOG_TRAEFIK_CONFIG" false s.logTraefikConfig,
    .optional "CONFIG_AUTH_HEADER" _ (h.options s.authHeader (by simp)),
    .optional "CONFIG_CA_FILE" _ (h.options s.caFile (by simp)),
    .text "CONFIG_NAMESPACE" "default" _ (h.texts s.ns (by simp)),
    .optional "CONFIG_PARENT_GATEWAY_NAMESPACE" _ (h.options s.parentGatewayNamespace (by simp)),
    .text "CONFIG_LISTENERSET_NAME" "pangolin" _ (h.texts s.listenerSetName (by simp)),
    .optional "CONFIG_TLS_SECRET_TEMPLATE" _ (h.options s.tlsSecretTemplate (by simp)),
    .optional "CONFIG_TLS_SECRET_NAMESPACE" _ (h.options s.tlsSecretNamespace (by simp)),
    .text "CONFIG_FIELD_MANAGER"
      "pangolin-gateway-controller" _ (h.texts s.fieldManager (by simp)),
    .text "CONFIG_MANAGED_LABEL_KEY"
      "app.kubernetes.io/managed-by" _ (h.texts s.managedLabelKey (by simp)),
    .text "CONFIG_MANAGED_LABEL_VALUE"
      "pangolin-gateway-controller" _ (h.texts s.managedLabelValue (by simp)),
    .text "CONFIG_INSTANCE_LABEL_KEY"
      "pangolin.envisia.de/instance" _ (h.texts s.instanceLabelKey (by simp)),
    .text "CONFIG_INSTANCE_LABEL_VALUE" "default" _ (h.texts s.instanceLabelValue (by simp)),
    .text "CONFIG_MANAGED_ANNOTATION_KEY"
      "pangolin.envisia.de/source" _ (h.texts s.managedAnnotationKey (by simp)),
    .text "CONFIG_MANAGED_ANNOTATION_VALUE"
      "pangolin-gateway-controller" _ (h.texts s.managedAnnotationValue (by simp)),
    .healthListen _ h.healthListen]

theorem Settings.variables_apart {s : Settings} (h : s.WellFormed) (raw : String) :
    ((s.variables h raw).flatMap Setting.keys).Nodup := by
  simp [Settings.variables, Setting.required, Setting.confirmation, Setting.duration, Setting.u64,
    Setting.i32, Setting.bool, Setting.backendKind, Setting.extAuthz, Setting.healthListen,
    Setting.kv, Setting.optional, Setting.text, Setting.of]

theorem Settings.WellFormed.exists_readFrom {s : Settings} (h : s.WellFormed) :
    ∃ env, s.ReadFrom env := by
  obtain ⟨raw, hurl⟩ := h.endpoint
  obtain ⟨env, henv⟩ := exists_vars (Settings.variables_apart h raw)
  have hall := henv env fun _ _ => rfl
  simp only [Settings.variables, List.forall_mem_cons, List.not_mem_nil, false_imp_iff,
    implies_true, and_true] at hall
  obtain ⟨hraw, htls, htlsConfirmed, hhttpConfirmed, hfetch, hpoll, hbackoff, hbody, hparent, hhttp,
    hhttps, henable, htcp, hudp, hkind, hauthz, hallow, hroute, hset, hread, hlog, hheader, hca,
      hns,
    hparentNs, hname, htemplate, hsecretNs, hmanager, hlabel, hlabelValue, hinstance,
    hinstanceValue, hannotation, hannotationValue, hhealth⟩ := hall
  exact ⟨env, ⟨raw, hraw, hurl⟩, htls, htlsConfirmed, hhttpConfirmed, hfetch, hpoll, hbackoff,
    hbody,
    hparent, hhttp, hhttps, henable, htcp, hudp, hkind, hauthz, hallow, hroute, hset, hread, hlog,
    hheader, hca, hns, hparentNs, hname, htemplate, hsecretNs, hmanager, hlabel, hlabelValue,
    hinstance, hinstanceValue, hannotation, hannotationValue, hhealth⟩

/-- The settings that the controller can start with. -/
theorem settings_wellFormed_iff (s : Settings) :
    (∃ env, Settings.fromEnv env = .ok s) ↔ s.WellFormed := by
  constructor
  · rintro ⟨env, henv⟩
    exact (fromEnv_ok_iff.mp henv).wellFormed
  · intro h
    obtain ⟨env, henv⟩ := h.exists_readFrom
    exact ⟨env, fromEnv_ok_iff.mpr henv⟩

end PangolinGateway
