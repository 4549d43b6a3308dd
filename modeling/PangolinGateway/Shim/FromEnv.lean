import PangolinGateway.Config.Faults
import PangolinGateway.Shim.Prefixed

/-! # The configuration of the shim

The shim reads a variable of its own for everything it is told. Its guard against unverified TLS is
stricter than the controller's: a switch that is not understood is off, and only `true` confirms. -/
namespace PangolinGateway
open FirstError FirstClaim
set_option autoImplicit false

structure ShimSettings extends ShimConfig where
  listen : String
  timeout : ℕ
  caFile : Option String
  tlsSkipVerify : Bool

/-- An error that ends the start of the shim. -/
inductive ShimEnvError where
  /-- "required environment variable SHIM_PANGOLIN_API_BASE_URL is not set" -/
  | notSet
  /-- "invalid SHIM_PANGOLIN_API_BASE_URL" -/
  | baseUrl
  /-- "SHIM_PATH_PREFIX must start with '/' (got {path_prefix:?})" -/
  | pathPrefix (got : String)
  /-- "SHIM_TLS_SKIP_VERIFY=true requires I_UNDERSTAND_SHIM_TLS_SKIP_VERIFY_IS_INSECURE=true to be
  explicitly set" -/
  | tlsSkipVerify
  /-- "invalid SHIM_PANGOLIN_TIMEOUT" -/
  | timeout

/-- An error unless the condition holds. -/
def ensure {E : Type} (holds : Bool) (e : E) : Except E Unit := if holds then .ok () else .error e

def trimSlashes (raw : String) : String :=
  String.ofList (Str.trimEndMatches (· == '/') raw.toList)

def shimPathPrefix (env : Vars) : String := (optionalEnv env "SHIM_PATH_PREFIX").getD "/verify"

def shimSkipsTls (env : Vars) : Bool :=
  (optionalEnv env "SHIM_TLS_SKIP_VERIFY").any fun v => yesWords.contains (toLowercase v)

def shimConfirms (env : Vars) : Bool :=
  (optionalEnv env "I_UNDERSTAND_SHIM_TLS_SKIP_VERIFY_IS_INSECURE").any fun v =>
    Str.eqIgnoreAsciiCase v.toList "true".toList

variable [UrlCrate] [HumantimeCrate]

def shimTimeout (env : Vars) : Except ShimEnvError ℕ :=
  readEnv env "SHIM_PANGOLIN_TIMEOUT" 10000000000 fun v =>
    orError .timeout (HumantimeCrate.parseDuration v)

def ShimSettings.fromEnv (env : Vars) : Except ShimEnvError ShimSettings := do
  let apiRaw ← orError .notSet (env "SHIM_PANGOLIN_API_BASE_URL")
  let pangolinApiBaseUrl ← orError .baseUrl (UrlCrate.parse (trimSlashes apiRaw))
  let pathPrefix := shimPathPrefix env
  ensure (pathPrefix.isEmpty || pathPrefix.toList.head? == some '/') (.pathPrefix pathPrefix)
  let tlsSkipVerify := shimSkipsTls env
  ensure (!tlsSkipVerify || shimConfirms env) .tlsSkipVerify
  let timeout ← shimTimeout env
  return {
    pangolinApiBaseUrl, pathPrefix, timeout, tlsSkipVerify
    listen := (optionalEnv env "SHIM_LISTEN").getD "0.0.0.0:9001"
    userSessionCookieName :=
      (optionalEnv env "SHIM_USER_SESSION_COOKIE_NAME").getD "p_session_token"
    resourceSessionRequestParam :=
      (optionalEnv env "SHIM_RESOURCE_SESSION_REQUEST_PARAM").getD "p_session_request"
    caFile := optionalEnv env "SHIM_CA_FILE" }

/-! ## Faults -/

def ShimSettings.faults (env : Vars) : List (ShimEnvError → Prop) := [
    fun e => env "SHIM_PANGOLIN_API_BASE_URL" = none ∧ e = .notSet,
    fun e => ∃ raw, env "SHIM_PANGOLIN_API_BASE_URL" = some raw ∧
      UrlCrate.parse (trimSlashes raw) = none ∧ e = .baseUrl,
    Unread env "SHIM_PATH_PREFIX" (fun v => v.toList.head? ≠ some '/') .pathPrefix,
    fun e => Says env "SHIM_TLS_SKIP_VERIFY" ∧
      (∀ v, optionalEnv env "I_UNDERSTAND_SHIM_TLS_SKIP_VERIFY_IS_INSECURE" = some v →
        toLowercase v ≠ "true") ∧ e = .tlsSkipVerify,
    Unread env "SHIM_PANGOLIN_TIMEOUT" (fun v => HumantimeCrate.parseDuration v = none)
      fun _ => .timeout]

omit [UrlCrate] [HumantimeCrate] in
/-- A condition reports when it fails. -/
theorem reports_ensure {E : Type} {holds : Bool} {e : E} {fault : E → Prop}
    (hfault : ∀ e', fault e' ↔ holds = false ∧ e' = e) : Reports (ensure holds e) [fault] := by
  unfold ensure
  cases holds with
  | true => exact .one (fun _ _ => by simp [Reported, hfault]) fun e h => by cases h
  | false =>
    refine .one (fun _ h => by cases h) fun e' h => ?_
    obtain rfl : e = e' := Except.error.inj h
    simp [hfault]

section
omit [UrlCrate] [HumantimeCrate]

theorem prefix_fault {env : Vars} {e : ShimEnvError} :
    Unread env "SHIM_PATH_PREFIX" (fun v => v.toList.head? ≠ some '/') .pathPrefix e ↔
      ((shimPathPrefix env).isEmpty || (shimPathPrefix env).toList.head? == some '/') = false ∧
        e = .pathPrefix (shimPathPrefix env) := by
  unfold Unread shimPathPrefix
  cases hset : optionalEnv env "SHIM_PATH_PREFIX" with
  | none => exact iff_of_false (by simp) (by simp)
  | some v =>
    have hne : v ≠ "" := by
      rintro rfl
      exact optionalEnv_ne _ _ hset
    simp [hne]

theorem shimSkipsTls_iff {env : Vars} :
    shimSkipsTls env = true ↔ Says env "SHIM_TLS_SKIP_VERIFY" := by
  simp [shimSkipsTls, Says, Option.any_eq_true]

/-- Only the word `true` confirms, in any case. -/
theorem shimConfirms_iff {env : Vars} : shimConfirms env = true ↔
    ∃ v, optionalEnv env "I_UNDERSTAND_SHIM_TLS_SKIP_VERIFY_IS_INSECURE" = some v ∧
      toLowercase v = "true" := by
  have hword : ∀ v : String,
      Str.eqIgnoreAsciiCase v.toList "true".toList = true ↔ toLowercase v = "true" := by
    intro v
    have hlower : "true".toList.map Str.toAsciiLowercase = "true".toList := by decide
    rw [Str.eqIgnoreAsciiCase, beq_iff_eq, hlower, toLowercase, ← String.toList_inj]
    simp only [String.toList_ofList]
  simp only [shimConfirms, Option.any_eq_true, hword]

theorem tls_fault {env : Vars} {e : ShimEnvError} :
    Says env "SHIM_TLS_SKIP_VERIFY" ∧
      (∀ v, optionalEnv env "I_UNDERSTAND_SHIM_TLS_SKIP_VERIFY_IS_INSECURE" = some v →
        toLowercase v ≠ "true") ∧ e = .tlsSkipVerify ↔
      (!shimSkipsTls env || shimConfirms env) = false ∧ e = .tlsSkipVerify := by
  have hconfirms : shimConfirms env = false ↔
      ∀ v, optionalEnv env "I_UNDERSTAND_SHIM_TLS_SKIP_VERIFY_IS_INSECURE" = some v →
        toLowercase v ≠ "true" := by
    rw [← Bool.not_eq_true, shimConfirms_iff]
    simp
  rw [← shimSkipsTls_iff, ← hconfirms]
  simp [and_assoc]

end

theorem reports_shimFromEnv (env : Vars) :
    Reports (ShimSettings.fromEnv env) (ShimSettings.faults env) := by
  unfold ShimSettings.fromEnv
  refine (reports_option fun e => Iff.rfl).bind fun raw hraw => ?_
  refine (reports_option fun e => ?_).bind fun url hurl => ?_
  · simp [orError_ok.mp hraw]
  refine (reports_ensure fun e => ?_).bind fun _ _ => ?_
  · exact prefix_fault
  refine (reports_ensure fun e => ?_).bind fun _ _ => ?_
  · exact tls_fault
  exact reports_orError.bind fun _ _ => Reports.ok _

/-- The shim starts when nothing is wrong with its variables, and otherwise it stops with the first
fault. -/
theorem shim_stops_at_first_fault (env : Vars) :
    ((∃ s, ShimSettings.fromEnv env = .ok s) ↔ ∀ fault ∈ ShimSettings.faults env, ¬Reported fault) ∧
      ∀ e, ShimSettings.fromEnv env = .error e ↔
        ∃ fault, First Reported (ShimSettings.faults env) fault ∧ fault e :=
  ⟨(reports_shimFromEnv env).ok_iff, (reports_shimFromEnv env).error_iff⟩

/-! ## Accepted settings -/

/-- What settings of the shim look like. -/
structure ShimSettings.WellFormed (s : ShimSettings) : Prop where
  baseUrl : ∃ raw : String, raw.toList.getLast? ≠ some '/' ∧
    UrlCrate.parse raw = some s.pangolinApiBaseUrl
  pathPrefix : s.pathPrefix.toList.head? = some '/'
  timeout : Duration 10000000000 s.timeout
  texts : ∀ text ∈ [s.listen, s.userSessionCookieName, s.resourceSessionRequestParam], text ≠ ""
  caFile : s.caFile ≠ some ""

omit [UrlCrate] [HumantimeCrate] in
theorem ensure_ok {E : Type} {holds : Bool} {e : E} {u : Unit} :
    ensure holds e = .ok u ↔ holds = true := by
  cases holds <;> simp [ensure]

/-- Every field is what its variable says. -/
structure ShimSettings.ReadFrom (env : Vars) (s : ShimSettings) : Prop where
  baseUrl : ∃ raw, env "SHIM_PANGOLIN_API_BASE_URL" = some raw ∧
    UrlCrate.parse (trimSlashes raw) = some s.pangolinApiBaseUrl
  pathPrefix : shimPathPrefix env = s.pathPrefix
  rooted : s.pathPrefix.toList.head? = some '/'
  tlsSkipVerify : shimSkipsTls env = s.tlsSkipVerify
  confirmed : s.tlsSkipVerify = true → shimConfirms env = true
  timeout : shimTimeout env = .ok s.timeout
  listen : (optionalEnv env "SHIM_LISTEN").getD "0.0.0.0:9001" = s.listen
  userSessionCookieName : (optionalEnv env "SHIM_USER_SESSION_COOKIE_NAME").getD
    "p_session_token" = s.userSessionCookieName
  resourceSessionRequestParam : (optionalEnv env "SHIM_RESOURCE_SESSION_REQUEST_PARAM").getD
    "p_session_request" = s.resourceSessionRequestParam
  caFile : optionalEnv env "SHIM_CA_FILE" = s.caFile

theorem shimFromEnv_ok_iff {env : Vars} {s : ShimSettings} :
    ShimSettings.fromEnv env = .ok s ↔ s.ReadFrom env := by
  have hpre : (shimPathPrefix env).isEmpty = false := by
    rw [← Bool.not_eq_true, String.isEmpty_iff]
    exact getD_ne (by decide)
  unfold ShimSettings.fromEnv
  simp only [bind_ok_iff, orError_ok, ensure_ok, hpre, Bool.false_or, beq_iff_eq,
    Bool.or_eq_true, Bool.not_eq_true']
  constructor
  · rintro ⟨raw, hraw, url, hurl, ⟨⟩, hrooted, ⟨⟩, hconfirmed, n, htimeout, hs⟩
    obtain rfl := Except.ok.inj hs
    refine ⟨⟨raw, hraw, hurl⟩, rfl, hrooted, rfl, ?_, htimeout, rfl, rfl, rfl, rfl⟩
    intro hskips
    exact hconfirmed.resolve_left (by simpa using hskips)
  · intro h
    obtain ⟨raw, hraw, hurl⟩ := h.baseUrl
    refine ⟨raw, hraw, _, hurl, (), h.pathPrefix ▸ h.rooted, (), ?_, _, h.timeout, ?_⟩
    · rw [h.tlsSkipVerify]
      cases hskips : s.tlsSkipVerify with
      | false => exact Or.inl rfl
      | true => exact Or.inr (h.confirmed hskips)
    · simp only [h.pathPrefix, h.tlsSkipVerify, h.listen, h.userSessionCookieName,
        h.resourceSessionRequestParam, h.caFile]
      rfl

omit [UrlCrate] in
theorem readAs_shimTimeout {n : ℕ} : ReadAs shimTimeout n ↔ Duration 10000000000 n := by
  refine readAs_iff.trans ?_
  simp only [orError_ok, Duration]

theorem ShimSettings.ReadFrom.wellFormed {env : Vars} {s : ShimSettings} (h : s.ReadFrom env) :
    s.WellFormed := by
  obtain ⟨raw, _, hurl⟩ := h.baseUrl
  constructor
  · refine ⟨trimSlashes raw, ?_, hurl⟩
    intro hlast
    rw [trimSlashes, String.toList_ofList] at hlast
    obtain ⟨hne, hchar⟩ := List.mem_getLast?_eq_getLast hlast
    exact List.rdropWhile_last_not (· == '/') raw.toList hne (beq_iff_eq.mpr hchar.symm)
  · exact h.rooted
  · exact readAs_shimTimeout.mp ⟨env "SHIM_PANGOLIN_TIMEOUT", h.timeout⟩
  · simp only [← h.listen, ← h.userSessionCookieName, ← h.resourceSessionRequestParam,
      List.mem_cons, List.not_mem_nil, or_false, forall_eq_or_imp, forall_eq]
    exact ⟨getD_ne (by decide), getD_ne (by decide), getD_ne (by decide)⟩
  · rw [← h.caFile]
    exact optionalEnv_ne _ _

/-- What the variables are set to, so that the settings are read. -/
def ShimSettings.variables (s : ShimSettings) (h : s.WellFormed) (raw : String) : List Setting := [
    .of (· "SHIM_PANGOLIN_API_BASE_URL") "SHIM_PANGOLIN_API_BASE_URL" (some raw) (fun _ => rfl)
      ⟨some raw, rfl⟩,
    .text "SHIM_PATH_PREFIX" "/verify" s.pathPrefix (by
      intro hempty
      have hrooted := h.pathPrefix
      simp [hempty] at hrooted),
    .of shimSkipsTls "SHIM_TLS_SKIP_VERIFY" s.tlsSkipVerify (fun _ => rfl) (by
      cases s.tlsSkipVerify with
      | true => exact ⟨some "true", by decide⟩
      | false => exact ⟨none, rfl⟩),
    .of shimConfirms "I_UNDERSTAND_SHIM_TLS_SKIP_VERIFY_IS_INSECURE" true (fun _ => rfl)
      ⟨some "true", by decide⟩,
    .of shimTimeout "SHIM_PANGOLIN_TIMEOUT" (.ok s.timeout) (fun _ => rfl)
      (readAs_shimTimeout.mpr h.timeout),
    .text "SHIM_LISTEN" "0.0.0.0:9001" _ (h.texts s.listen (by simp)),
    .text "SHIM_USER_SESSION_COOKIE_NAME" "p_session_token" _
      (h.texts s.userSessionCookieName (by simp)),
    .text "SHIM_RESOURCE_SESSION_REQUEST_PARAM" "p_session_request" _
      (h.texts s.resourceSessionRequestParam (by simp)),
    .optional "SHIM_CA_FILE" s.caFile h.caFile]

theorem ShimSettings.variables_apart {s : ShimSettings} (h : s.WellFormed) (raw : String) :
    ((s.variables h raw).flatMap Setting.keys).Nodup := by
  simp [ShimSettings.variables, Setting.text, Setting.optional, Setting.of]

theorem ShimSettings.WellFormed.exists_readFrom {s : ShimSettings} (h : s.WellFormed) :
    ∃ env, s.ReadFrom env := by
  obtain ⟨raw, hlast, hurl⟩ := h.baseUrl
  obtain ⟨env, henv⟩ := exists_vars (ShimSettings.variables_apart h raw)
  have hall := henv env fun _ _ => rfl
  simp only [ShimSettings.variables, Setting.of, Setting.text, Setting.optional,
    List.forall_mem_cons, List.not_mem_nil, false_imp_iff, implies_true, and_true] at hall
  obtain ⟨hraw, hpre, hskips, hconfirms, htimeout, hlisten, hcookie, hparam, hca⟩ := hall
  have htrim : trimSlashes raw = raw := by
    rw [trimSlashes, Str.trimEndMatches, List.rdropWhile_eq_self_iff.mpr, String.ofList_toList]
    intro hne hslash
    exact hlast (by rw [List.getLast?_eq_some_getLast hne, beq_iff_eq.mp hslash])
  exact ⟨env, ⟨raw, hraw, by rw [htrim, hurl]⟩, hpre, h.pathPrefix, hskips, fun _ => hconfirms,
    htimeout, hlisten, hcookie, hparam, hca⟩

/-- The settings that the shim can start with. -/
theorem shimSettings_wellFormed_iff (s : ShimSettings) :
    (∃ env, ShimSettings.fromEnv env = .ok s) ↔ s.WellFormed := by
  constructor
  · rintro ⟨env, henv⟩
    exact (shimFromEnv_ok_iff.mp henv).wellFormed
  · intro h
    obtain ⟨env, henv⟩ := h.exists_readFrom
    exact ⟨env, shimFromEnv_ok_iff.mpr henv⟩

end PangolinGateway
