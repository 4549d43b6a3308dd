import PangolinGateway.Config
import PangolinGateway.Crates
import PangolinGateway.Pangolin.Types

/-! # Conditional fetch of the dynamic config -/
namespace PangolinGateway
set_option autoImplicit false

/-- The crates that read a body: `sha2` with `hex`, and `serde_json` on the config types. -/
class BodyCrates where
  sha256Hex : Bytes → String
  decodeConfig : Bytes → Option TraefikDynamicConfig

/-- The one GET, as far as the server looks at it. -/
structure ConfigRequest where
  accept : String
  authorization : Option String
  ifNoneMatch : Option String

structure ConfigResponse where
  status : ℕ
  etag : Option Bytes
  contentLength : Option ℕ
  /-- `none` when the connection breaks before the body is complete. -/
  body : Option Bytes

/-- What the HTTP client's `send` returns, after any redirects that it has followed. -/
inductive ConfigReply where
  | unreachable
  | response (r : ConfigResponse)

inductive FetchError where
  /-- calling pangolin endpoint -/
  | unreachable
  /-- pangolin returned an unexpected status -/
  | status (code : ℕ)
  /-- exceeds CONFIG_MAX_RESPONSE_BODY_BYTES -/
  | tooLarge (length max : ℕ)
  /-- reading pangolin response body -/
  | body
  /-- decoding pangolin JSON -/
  | decoding

structure ChangedConfig where
  config : TraefikDynamicConfig
  etag : Option String
  digest : String
  rawBytes : ℕ

inductive FetchOutcome where
  | notModified
  | changed (c : ChangedConfig)

def fetchRequest (cfg : Config) (lastEtag : Option String) : ConfigRequest :=
  ⟨"application/json", cfg.authHeader, lastEtag⟩

variable [HttpCrate] [BodyCrates]

/-- The `ETag` the client can read; a value outside visible ASCII counts as none. -/
def ConfigResponse.readEtag (r : ConfigResponse) : Option String := r.etag.bind HttpCrate.toStr

def fetch (cfg : Config) : ConfigReply → Except FetchError FetchOutcome
  | .unreachable => .error .unreachable
  | .response r =>
    if r.status = 304 then .ok .notModified
    else if ¬(200 ≤ r.status ∧ r.status < 300) then .error (.status r.status)
    else match r.contentLength.filter (cfg.maxResponseBodyBytes < ·) with
    | some length => .error (.tooLarge length cfg.maxResponseBodyBytes)
    | none => match r.body with
      | none => .error .body
      | some raw =>
        if cfg.maxResponseBodyBytes < raw.length then
          .error (.tooLarge raw.length cfg.maxResponseBodyBytes)
        else match BodyCrates.decodeConfig raw with
          | none => .error .decoding
          | some config =>
            .ok (.changed ⟨config, r.readEtag, BodyCrates.sha256Hex raw, raw.length⟩)

/-! ## What a successful fetch saw -/

/-- The body of a reply that the client takes as a configuration. -/
def acceptedBody (cfg : Config) (reply : ConfigReply) : Option Bytes :=
  match fetch cfg reply, reply with
  | .ok (.changed _), .response r => r.body
  | _, _ => none

theorem fetch_notModified {cfg : Config} {reply : ConfigReply}
    (h : fetch cfg reply = .ok .notModified) :
    ∃ r, reply = .response r ∧ r.status = 304 := by
  cases reply with
  | unreachable => simp [fetch] at h
  | response r =>
    refine ⟨r, rfl, ?_⟩
    by_contra hstatus
    unfold fetch at h
    grind

/-- A changed config is the decoded body of a 2xx answer, with its readable ETag and its digest. -/
theorem fetch_changed {cfg : Config} {reply : ConfigReply} {c : ChangedConfig}
    (h : fetch cfg reply = .ok (.changed c)) :
    ∃ r raw, reply = .response r ∧ 200 ≤ r.status ∧ r.status < 300 ∧ r.body = some raw ∧
      acceptedBody cfg reply = some raw ∧ c.etag = r.readEtag ∧
      c.digest = BodyCrates.sha256Hex raw ∧ BodyCrates.decodeConfig raw = some c.config := by
  cases reply with
  | unreachable => simp [fetch] at h
  | response r =>
    have haccepted : acceptedBody cfg (.response r) = r.body := by simp [acceptedBody, h]
    unfold fetch at h
    grind

end PangolinGateway
