import PangolinGateway.Config.FromEnv
import PangolinGateway.Runs.FirstError

/-! # What the controller refuses to start with

The variables are read one after the other, some of them only when an earlier one asks for it. The
controller starts when nothing is wrong with those that are read, and it stops with the first fault
in their order. -/
namespace PangolinGateway
open FirstError FirstClaim
set_option autoImplicit false

/-! ## Faults -/

def NotSet (env : Vars) (key : String) (e : EnvError) : Prop := env key = none ∧ e = .notSet key

/-- The variable has a text that is not read; `report` is the error for it. -/
def Unread {E : Type} (env : Vars) (key : String) (unread : String → Prop) (report : String → E)
    (e : E) : Prop :=
  ∃ v, optionalEnv env key = some v ∧ unread v ∧ e = report v

def yesWords : List String := ["1", "true", "yes", "on"]

def noWords : List String := ["0", "false", "no", "off"]

def NoBool (env : Vars) (key : String) : EnvError → Prop :=
  Unread env key (fun v => toLowercase v ∉ yesWords ∧ toLowercase v ∉ noWords)
    fun v => .boolean key (toLowercase v)

def NoDuration [HumantimeCrate] (env : Vars) (key : String) : EnvError → Prop :=
  Unread env key (fun v => HumantimeCrate.parseDuration v = none) (.duration key)

def NoU64 (env : Vars) (key : String) : EnvError → Prop :=
  Unread env key (fun v => Str.parseU64 v.toList = none) (.u64 key)

def NoI32 (env : Vars) (key : String) : EnvError → Prop :=
  Unread env key (fun v => Str.parseI32 v.toList = none) (.i32 key)

def trimmedLowercase (v : String) : String := toLowercase (String.ofList (Str.trim v.toList))

def NoBackendKind (env : Vars) : EnvError → Prop :=
  Unread env "CONFIG_BACKEND_KIND"
    (fun v => trimmedLowercase v ∉ ["service", "service-endpointslice", "", "envoy-backend",
      "envoybackend", "backend"])
    fun v => .backendKind (trimmedLowercase v)

/-- The first entry that is not a pair is reported. -/
def NoPairs (env : Vars) (key : String) (e : EnvError) : Prop :=
  ∃ bad, First NoPair (kvEntries env key) bad ∧ Faulty key bad e

def Says (env : Vars) (key : String) : Prop :=
  ∃ v, optionalEnv env key = some v ∧ toLowercase v ∈ yesWords

/-- What is needed on a condition is not confirmed. -/
def Unconfirmed (env : Vars) (key : String) (report e : EnvError) : Prop :=
  ¬Says env key ∧ e = report

def When (needed : Prop) (fault : EnvError → Prop) (e : EnvError) : Prop := needed ∧ fault e

variable [UrlCrate] [HumantimeCrate]

def NoUrl (env : Vars) (e : EnvError) : Prop :=
  ∃ raw, env "CONFIG_ENDPOINT" = some raw ∧ UrlCrate.parse raw = none ∧ e = .endpoint

/-- The endpoint is one over plain HTTP. -/
def PlainHttp (env : Vars) : Prop :=
  ∃ raw url, env "CONFIG_ENDPOINT" = some raw ∧ UrlCrate.parse raw = some url ∧ url.scheme = "http"

/-- What can be wrong, in the order in which the variables are read. -/
def Settings.faults (env : Vars) : List (EnvError → Prop) := [
    NotSet env "CONFIG_ENDPOINT",
    NoUrl env,
    NoBool env "CONFIG_TLS_SKIP_VERIFY",
    When (Says env "CONFIG_TLS_SKIP_VERIFY")
      (NoBool env "I_UNDERSTAND_CONFIG_TLS_SKIP_VERIFY_IS_INSECURE"),
    When (Says env "CONFIG_TLS_SKIP_VERIFY")
      (Unconfirmed env "I_UNDERSTAND_CONFIG_TLS_SKIP_VERIFY_IS_INSECURE" .tlsSkipVerify),
    When (PlainHttp env) (NoBool env "CONFIG_ALLOW_INSECURE_HTTP"),
    When (PlainHttp env) (Unconfirmed env "CONFIG_ALLOW_INSECURE_HTTP" .insecureHttp),
    NoDuration env "CONFIG_FETCH_TIMEOUT",
    NoDuration env "CONFIG_POLL_INTERVAL",
    NoDuration env "CONFIG_MAX_BACKOFF",
    NoU64 env "CONFIG_MAX_RESPONSE_BODY_BYTES",
    NotSet env "CONFIG_PARENT_GATEWAY",
    NoI32 env "CONFIG_HTTP_PORT",
    NoI32 env "CONFIG_HTTPS_PORT",
    NoBool env "CONFIG_ENABLE_HTTPS_LISTENERS",
    NoBool env "CONFIG_ENABLE_TCP_ROUTES",
    NoBool env "CONFIG_ENABLE_UDP_ROUTES",
    NoBackendKind env,
    When (∃ service, optionalEnv env "CONFIG_EXT_AUTHZ_SERVICE" = some service)
      (NoI32 env "CONFIG_EXT_AUTHZ_PORT"),
    NoBool env "CONFIG_ALLOW_UNAUTHENTICATED_ROUTES",
    NoPairs env "CONFIG_HTTPROUTE_ANNOTATIONS",
    NoPairs env "CONFIG_LISTENERSET_ANNOTATIONS",
    NoBool env "CONFIG_READ_ONLY",
    NoBool env "CONFIG_LOG_TRAEFIK_CONFIG"]

/-! ## The readers report their faults -/

section
omit [UrlCrate] [HumantimeCrate]

theorem requiredEnv_ok_iff {env : Vars} {key v : String} :
    requiredEnv env key = .ok v ↔ env key = some v := by
  unfold requiredEnv
  cases env key <;> simp

/-- What is missing is reported. -/
theorem reports_option {E A : Type} {o : Option A} {e : E} {fault : E → Prop}
    (hfault : ∀ e', fault e' ↔ o = none ∧ e' = e) : Reports (orError e o) [fault] := by
  cases o with
  | none =>
    refine .one (fun _ h => by cases h) fun e' h => ?_
    obtain rfl : e = e' := Except.error.inj h
    simp [hfault]
  | some a => exact .one (fun _ _ => by simp [Reported, hfault]) fun e h => by cases h

theorem reports_required (env : Vars) (key : String) :
    Reports (requiredEnv env key) [NotSet env key] := by
  have hread : requiredEnv env key = orError (.notSet key) (env key) := by
    unfold requiredEnv
    cases env key <;> rfl
  rw [hread]
  exact reports_option fun e => Iff.rfl

theorem reports_read {E A : Type} {env : Vars} {key : String} {default : A}
    {parse : String → Except E A} {unread : String → Prop} {report : String → E}
    (hok : ∀ v a, parse v = .ok a → ¬unread v)
    (herror : ∀ v e, parse v = .error e → unread v ∧ e = report v) :
    Reports (readEnv env key default parse) [Unread env key unread report] := by
  unfold readEnv Unread
  cases optionalEnv env key with
  | none => exact .one (fun _ _ => by simp [Reported]) fun e h => by cases h
  | some v =>
    refine .one (fun a ha => ?_) fun e he => ?_
    · simpa [Reported] using hok v a ha
    · obtain ⟨hunread, rfl⟩ := herror v e he
      simp [hunread]

theorem parseBool_cases (key v : String) :
    (toLowercase v ∈ yesWords ∧ parseBool key v = .ok true) ∨
      (toLowercase v ∈ noWords ∧ parseBool key v = .ok false) ∨
      ((toLowercase v ∉ yesWords ∧ toLowercase v ∉ noWords) ∧
        parseBool key v = .error (.boolean key (toLowercase v))) := by
  simp only [parseBool, yesWords, noWords, List.mem_cons, List.not_mem_nil, or_false]
  split
  · next h => exact Or.inl ⟨h, rfl⟩
  · next h =>
    split
    · next h' => exact Or.inr (Or.inl ⟨h', rfl⟩)
    · next h' => exact Or.inr (Or.inr ⟨⟨h, h'⟩, rfl⟩)

theorem reports_bool (env : Vars) (key : String) (default : Bool) :
    Reports (boolEnv env key default) [NoBool env key] := by
  refine reports_read (fun v b hb => ?_) fun v e he => ?_ <;>
    rcases parseBool_cases key v with ⟨hv, h⟩ | ⟨hv, h⟩ | ⟨hv, h⟩
  · exact fun hno => hno.1 hv
  · exact fun hno => hno.2 hv
  · cases h.symm.trans hb
  · cases h.symm.trans he
  · cases h.symm.trans he
  · exact ⟨hv, (Except.error.inj (h.symm.trans he)).symm⟩

theorem reports_orError {E A : Type} {env : Vars} {key : String} {default : A}
    {parse : String → Option A} {report : String → E} :
    Reports (readEnv env key default fun v => orError (report v) (parse v))
      [Unread env key (fun v => parse v = none) report] := by
  refine reports_read (fun v a ha hv => ?_) fun v e he => ?_
  · rw [hv] at ha
    cases ha
  · cases hv : parse v with
    | none =>
      rw [hv] at he
      exact ⟨rfl, (Except.error.inj he).symm⟩
    | some a =>
      rw [hv] at he
      cases he

theorem says_iff {env : Vars} {key : String} : Says env key ↔ boolEnv env key false = .ok true := by
  unfold Says boolEnv readEnv
  cases optionalEnv env key with
  | none => simp
  | some v =>
    rcases parseBool_cases key v with ⟨hv, h⟩ | ⟨hv, h⟩ | ⟨hv, h⟩
    · simp [h, hv]
    · have hyes : toLowercase v ∉ yesWords := by
        intro hyes
        simp only [yesWords, noWords, List.mem_cons, List.not_mem_nil, or_false] at hyes hv
        rcases hyes with hyes | hyes | hyes | hyes <;> rw [hyes] at hv <;> revert hv <;> decide
      simp [h, hyes]
    · simp [h, hv.1]

theorem when_of {P : Prop} (h : P) (fault : EnvError → Prop) : When P fault = fault := by
  funext e
  simp [When, h]

/-- A confirmation that is needed has to be readable, and to say so. -/
theorem reports_confirmed (env : Vars) {needed : Bool} {P : Prop} (hneeded : needed = true ↔ P)
    (key : String) (report : EnvError) :
    Reports (confirmed env needed key report)
      [When P (NoBool env key), When P (Unconfirmed env key report)] := by
  by_cases hP : P
  · have hbind : confirmed env needed key report =
        boolEnv env key false >>= fun b => if b then .ok () else .error report := by
      rw [confirmed, if_pos (hneeded.mpr hP)]
      cases boolEnv env key false with
      | error e => rfl
      | ok b => cases b <;> rfl
    rw [hbind, when_of hP, when_of hP]
    refine (reports_bool env key false).bind fun b hb => ?_
    cases b with
    | true =>
      have hset : Says env key := says_iff.mpr hb
      exact .one (fun _ _ => by simp [Reported, Unconfirmed, hset]) fun e h => by cases h
    | false =>
      have hset : ¬Says env key := by simp [says_iff, hb]
      refine .one (fun _ h => by cases h) fun e h => ?_
      obtain rfl : report = e := Except.error.inj h
      exact ⟨⟨hset, rfl⟩, fun e' he' => he'.2⟩
  · have hnone : ∀ fault, ¬Reported (When P fault) := by
      rintro fault ⟨e, hneeded, _⟩
      exact hP hneeded
    rw [confirmed, if_neg fun h => hP (hneeded.mp h)]
    exact ⟨fun _ _ => by simp [hnone], fun e h => by cases h⟩

theorem reports_backendKind (env : Vars) : Reports (backendKindEnv env) [NoBackendKind env] := by
  have hread : backendKindEnv env =
      readEnv env "CONFIG_BACKEND_KIND" .envoyBackend BackendKind.parse := by
    unfold backendKindEnv readEnv
    cases optionalEnv env "CONFIG_BACKEND_KIND" <;> rfl
  rw [hread]
  refine reports_read (fun v a ha => ?_) fun v e he => ?_
  · simp only [BackendKind.parse] at ha
    simp only [trimmedLowercase, List.mem_cons, List.not_mem_nil, or_false]
    split at ha
    · next h => rcases h with h | h | h <;> simp [h]
    · split at ha
      · next h => rcases h with h | h | h <;> simp [h]
      · cases ha
  · simp only [BackendKind.parse] at he
    simp only [trimmedLowercase, List.mem_cons, List.not_mem_nil, or_false]
    split at he
    · cases he
    · next h =>
      split at he
      · cases he
      · next h' =>
        refine ⟨?_, (Except.error.inj he).symm⟩
        simp only [not_or] at h h' ⊢
        exact ⟨h.1, h.2.1, h.2.2, h'.1, h'.2.1, h'.2.2⟩

theorem reports_extAuthz (env : Vars) : Reports (extAuthzEnv env)
    [When (∃ service, optionalEnv env "CONFIG_EXT_AUTHZ_SERVICE" = some service)
      (NoI32 env "CONFIG_EXT_AUTHZ_PORT")] := by
  unfold extAuthzEnv
  cases hservice : optionalEnv env "CONFIG_EXT_AUTHZ_SERVICE" with
  | none =>
    refine .one (fun _ _ => ?_) fun e h => by cases h
    rintro ⟨e, ⟨service, hset⟩, _⟩
    cases hset
  | some service =>
    have hport : Reports (i32Env env "CONFIG_EXT_AUTHZ_PORT" 80)
        [NoI32 env "CONFIG_EXT_AUTHZ_PORT"] := reports_orError
    rw [when_of ⟨service, rfl⟩]
    have hbind := hport.bind fun port _ => Reports.ok (some ({
      service := service
      ns := optionalEnv env "CONFIG_EXT_AUTHZ_NAMESPACE"
      port := port
      path := optionalEnv env "CONFIG_EXT_AUTHZ_PATH"
      headersToExtAuth :=
        csvEnv env "CONFIG_EXT_AUTHZ_HEADERS_TO_EXT_AUTH" ["cookie", "authorization"]
      headersToBackend := csvEnv env "CONFIG_EXT_AUTHZ_HEADERS_TO_BACKEND" [] } : ExtAuthzConfig))
    revert hbind
    cases i32Env env "CONFIG_EXT_AUTHZ_PORT" 80 <;> exact id

theorem reports_kv (env : Vars) (key : String) :
    Reports (parseKvEnv env key) [NoPairs env key] := by
  rcases parseKvEnv_spec env key with ⟨hgood, hread⟩ | ⟨bad, e, hfirst, hfaulty, hread⟩
  · rw [hread]
    refine .one (fun _ _ => ?_) fun e h => by cases h
    rintro ⟨e, bad, hfirst, _⟩
    exact hgood bad hfirst.holds.1 hfirst.holds.2
  · rw [hread]
    refine .one (fun _ h => by cases h) fun e' h => ?_
    obtain rfl : e = e' := Except.error.inj h
    refine ⟨⟨bad, hfirst, hfaulty⟩, ?_⟩
    rintro e' ⟨bad', hfirst', hfaulty'⟩
    obtain rfl := hfirst.unique hfirst'
    have hsame := (parseKv_error_iff.mpr hfaulty').symm.trans (parseKv_error_iff.mpr hfaulty)
    exact Except.error.inj hsame

end

/-! ## The controller reports its faults -/

omit [HumantimeCrate] in
theorem reports_endpoint {env : Vars} {raw : String}
    (hraw : requiredEnv env "CONFIG_ENDPOINT" = .ok raw) :
    Reports (orError .endpoint (UrlCrate.parse raw)) [NoUrl env] := by
  refine reports_option fun e => ?_
  simp [NoUrl, requiredEnv_ok_iff.mp hraw]

omit [HumantimeCrate] in
theorem plainHttp_iff {env : Vars} {raw : String} {url : Url}
    (hraw : requiredEnv env "CONFIG_ENDPOINT" = .ok raw) (hurl : UrlCrate.parse raw = some url) :
    (url.scheme == "http") = true ↔ PlainHttp env := by
  rw [beq_iff_eq]
  constructor
  · intro h
    exact ⟨raw, url, requiredEnv_ok_iff.mp hraw, hurl, h⟩
  · rintro ⟨raw', url', hraw', hurl', h⟩
    obtain rfl := Option.some.inj ((requiredEnv_ok_iff.mp hraw).symm.trans hraw')
    obtain rfl := Option.some.inj (hurl.symm.trans hurl')
    exact h

theorem reports_fromEnv (env : Vars) : Reports (Settings.fromEnv env) (Settings.faults env) := by
  unfold Settings.fromEnv
  refine (reports_required env "CONFIG_ENDPOINT").bind fun raw hraw => ?_
  refine (reports_endpoint hraw).bind fun url hurl => ?_
  refine (reports_bool env "CONFIG_TLS_SKIP_VERIFY" false).bind fun skip hskip => ?_
  have hset : skip = true ↔ Says env "CONFIG_TLS_SKIP_VERIFY" := by
    rw [says_iff, hskip, Except.ok.injEq]
  refine (reports_confirmed env hset _ _).bind fun _ _ => ?_
  refine (reports_confirmed env (plainHttp_iff hraw (orError_ok.mp hurl)) _ _).bind fun _ _ => ?_
  refine reports_orError.bind fun _ _ => ?_
  refine reports_orError.bind fun _ _ => ?_
  refine reports_orError.bind fun _ _ => ?_
  refine reports_orError.bind fun _ _ => ?_
  refine (reports_required env _).bind fun _ _ => ?_
  refine reports_orError.bind fun _ _ => ?_
  refine reports_orError.bind fun _ _ => ?_
  refine (reports_bool env _ _).bind fun _ _ => ?_
  refine (reports_bool env _ _).bind fun _ _ => ?_
  refine (reports_bool env _ _).bind fun _ _ => ?_
  refine (reports_backendKind env).bind fun _ _ => ?_
  refine (reports_extAuthz env).bind fun _ _ => ?_
  refine (reports_bool env _ _).bind fun _ _ => ?_
  refine (reports_kv env _).bind fun _ _ => ?_
  refine (reports_kv env _).bind fun _ _ => ?_
  refine (reports_bool env _ _).bind fun _ _ => ?_
  refine (reports_bool env _ _).bind fun _ _ => ?_
  exact Reports.ok _

/-- The controller starts when nothing is wrong with a variable that is read, and otherwise it stops
with the first fault. -/
theorem fromEnv_stops_at_first_fault (env : Vars) :
    ((∃ s, Settings.fromEnv env = .ok s) ↔ ∀ fault ∈ Settings.faults env, ¬Reported fault) ∧
      ∀ e, Settings.fromEnv env = .error e ↔
        ∃ fault, First Reported (Settings.faults env) fault ∧ fault e :=
  ⟨(reports_fromEnv env).ok_iff, (reports_fromEnv env).error_iff⟩

end PangolinGateway
