import PangolinGateway.Calls.Program
import PangolinGateway.Shim.Helpers
import PangolinGateway.Shim.Wire

/-! # The ext-authz check

A check request makes at most two calls to pangolin: the exchange of a one-time token from the query,
and the verification of the session. -/
namespace PangolinGateway
set_option autoImplicit false
open Calls

structure ShimConfig where
  pangolinApiBaseUrl : Url
  pathPrefix : String
  userSessionCookieName : String
  resourceSessionRequestParam : String

structure Response where
  status : ℕ
  headers : List (String × Bytes)
  body : String
deriving DecidableEq

def plain (status : ℕ) (msg : String) : Response := ⟨status, [], msg⟩

def Response.isSuccess (resp : Response) : Prop := 200 ≤ resp.status ∧ resp.status < 300

theorem plain_denies {status : ℕ} (msg : String) (h : ¬(200 ≤ status ∧ status < 300))
    (resp : Response) (hresp : some (plain status msg) = some resp) : ¬resp.isSuccess := by
  obtain rfl := Option.some.inj hresp
  exact h

inductive ShimCall where
  | exchangeSession (url : Url) (body : ExchangeBody)
  | verifySession (url : Url) (body : VerifyBody)

abbrev ShimCall.Reply : ShimCall → Type := fun _ => PangolinReply

abbrev ShimProgram (α : Type) := Program ShimCall ShimCall.Reply α

/-! ## What a check reads off its request -/

section Request
variable (cfg : ShimConfig) (req : Request)

/-- `PathAndQuery::as_str`, or `/` for a target without a path. -/
def fullPath : String :=
  match req.pathAndQuery with
  | none => "/"
  | some pathAndQuery => if pathAndQuery.isEmpty then "/" else pathAndQuery

/-- A missing prefix is tolerated: the whole path is then the original one. -/
def originalPathQ : String := (stripPathPrefix cfg.pathPrefix (fullPath req)).getD (fullPath req)

def pathOnly : String :=
  match Str.splitOnce ['?'] (originalPathQ cfg req).toList with
  | some (path, _) => String.ofList path
  | none => originalPathQ cfg req

def queryStr : String :=
  match Str.splitOnce ['?'] (originalPathQ cfg req).toList with
  | some (_, query) => String.ofList query
  | none => ""

variable [HttpCrate]

def host : String := (headerStr req "host").getD ""

def scheme : String := (headerStr req "x-forwarded-proto").getD "https"

def requestIp : Option String :=
  let first := (headerStr req "x-forwarded-for").map fun v =>
    String.ofList (Str.trim (v.toList.takeWhile (· != ',')))
  first.filter fun ip => !ip.isEmpty

variable [UrlCrate]

def checkQuery : Map String := parseQuery (queryStr cfg req)

def verifyBody : VerifyBody where
  sessions := collectSessions ((headerStr req "cookie").getD "") cfg.userSessionCookieName
  headers := collectHeaders req
  query := checkQuery cfg req
  originalRequestUrl := scheme req ++ "://" ++ host req ++ originalPathQ cfg req
  scheme := scheme req
  host := host req
  path := pathOnly cfg req
  method := req.method
  tls := scheme req == "https"
  requestIp := requestIp req

/-- Pangolin strips a port itself. -/
def exchangeBody (token : String) : ExchangeBody where
  requestToken := token
  host := String.ofList ((host req).toList.takeWhile (· != ':'))
  requestIp := requestIp req

end Request

/-! ## The two calls -/

section Handler
variable [HttpCrate] [UrlCrate] [JsonCrate]

def endpoint (base : Url) (suffix : String) : Option Url :=
  UrlCrate.parse (String.ofList (Str.trimEndMatches (· == '/') base.asStr.toList) ++ "/" ++ suffix)

def verifySession (cfg : ShimConfig) (body : VerifyBody) :
    ShimProgram (Except SessionError VerifyData) :=
  match endpoint cfg.pangolinApiBaseUrl "badger/verify-session" with
  | none => .done (.error .endpoint)
  | some url => .call (.verifySession url body) fun reply => .done (readVerify reply)

def exchangeSession (cfg : ShimConfig) (body : ExchangeBody) :
    ShimProgram (Except SessionError ExchangeData) :=
  match endpoint cfg.pangolinApiBaseUrl "badger/exchange-session" with
  | none => .done (.error .endpoint)
  | some url => .call (.exchangeSession url body) fun reply => .done (readExchange reply)

/-! ## The answers -/

def identityFields : List (String × (UserData → Option String)) :=
  [("remote-user-id", UserData.userId), ("remote-user", UserData.username),
    ("remote-email", UserData.email), ("remote-name", UserData.name),
    ("remote-role", UserData.role)]

def identityHeader (userData : Option UserData) (field : String × (UserData → Option String)) :
    Option (String × Bytes) :=
  ((userData.bind field.2).bind HttpCrate.fromStr).map fun value => (field.1, value)

def answerVerify : Except SessionError VerifyData → Response
  | .error _ => plain 503 "auth backend unavailable"
  | .ok data =>
    match data.redirectUrl.filter fun r => !r.isEmpty with
    | some redirect =>
      match HttpCrate.fromStr redirect with
      | some location => ⟨302, [("location", location)], ""⟩
      | none => plain 503 "bad redirect"
    | none =>
      if data.headerAuthChallenged.getD false then
        ⟨401, [("www-authenticate", "Basic realm=\"pangolin\"".toUTF8.toList)], ""⟩
      else if data.valid then
        ⟨200, identityFields.filterMap (identityHeader data.userData), ""⟩
      else plain 401 "unauthorized"

def ExchangeData.sessionCookie (data : ExchangeData) : Option String :=
  if data.valid then data.cookie.filter fun cookie => !cookie.isEmpty else none

/-- Back to the original URL without the token. A location that is no legal header value makes the
handler panic, so that the connection ends without an answer. -/
def answerHandoff (cfg : ShimConfig) (req : Request) (cookie : String) : Option Response :=
  match HttpCrate.fromStr cookie with
  | none => some (plain 503 "bad exchange cookie")
  | some setCookie =>
    let location := scheme req ++ "://" ++ host req ++
      stripQueryParam (originalPathQ cfg req) cfg.resourceSessionRequestParam
    (HttpCrate.fromStr location).map fun location =>
      ⟨302, [("location", location), ("set-cookie", setCookie)], ""⟩

/-! ## The handler -/

def verifyStep (cfg : ShimConfig) (req : Request) : ShimProgram (Option Response) :=
  (verifySession cfg (verifyBody cfg req)).bind fun result => .done (some (answerVerify result))

def check (cfg : ShimConfig) (req : Request) : ShimProgram (Option Response) :=
  if (host req).isEmpty then .done (some (plain 400 "missing Host header"))
  else match (checkQuery cfg req)[cfg.resourceSessionRequestParam]? with
  | none => verifyStep cfg req
  | some token =>
    (exchangeSession cfg (exchangeBody req token)).bind fun
      | .error _ => .done (some (plain 503 "auth backend unavailable"))
      | .ok data => match data.sessionCookie with
        | some cookie => .done (answerHandoff cfg req cookie)
        -- an invalid or expired token: a normal verify redirects back to the portal
        | none => verifyStep cfg req

/-- The probe route, and the check for every other path. -/
def router (cfg : ShimConfig) (req : Request) : ShimProgram (Option Response) :=
  if req.path = "/healthz" then
    if req.method = "GET" then .done (some (plain 200 "ok"))
    else if req.method = "HEAD" then .done (some (plain 200 ""))
    else .done (some (plain 405 ""))
  else check cfg req

/-! ## What a check can do -/

def ShimCall.verifies : ShimCall → Prop
  | .verifySession .. => True
  | .exchangeSession .. => False

/-- A check ends without a word from verify-session and then denies, or its last call is a
verify-session for the body of its request and it answers as the reply says. -/
inductive Checks (cfg : ShimConfig) (req : Request) :
    Option Response → List ((c : ShimCall) × c.Reply) → Prop where
  | refused (answer : Option Response) (log : List ((c : ShimCall) × c.Reply))
      (hdeny : ∀ resp, answer = some resp → ¬resp.isSuccess)
      (hlog : ∀ entry ∈ log, ¬entry.1.verifies) : Checks cfg req answer log
  | verified (url : Url) (reply : PangolinReply) (front : List ((c : ShimCall) × c.Reply))
      (hurl : endpoint cfg.pangolinApiBaseUrl "badger/verify-session" = some url)
      (hfront : ∀ entry ∈ front, ¬entry.1.verifies) :
      Checks cfg req (some (answerVerify (readVerify reply)))
        (front ++ [⟨.verifySession url (verifyBody cfg req), reply⟩])

variable {S : Type} (serve : Server ShimCall ShimCall.Reply S)

omit [JsonCrate] in
theorem answerHandoff_denies {cfg : ShimConfig} {req : Request} {cookie : String}
    (resp : Response) (hresp : answerHandoff cfg req cookie = some resp) : ¬resp.isSuccess := by
  unfold answerHandoff at hresp
  cases hcookie : HttpCrate.fromStr cookie with
  | none =>
    rw [hcookie] at hresp
    exact plain_denies _ (by omega) resp hresp
  | some setCookie =>
    simp only [hcookie, Option.map_eq_some_iff] at hresp
    obtain ⟨location, _, rfl⟩ := hresp
    simp [Response.isSuccess]

theorem verifyStep_checks (cfg : ShimConfig) (req : Request) (s : S)
    (front : List ((c : ShimCall) × c.Reply)) (hfront : ∀ entry ∈ front, ¬entry.1.verifies) :
    Checks cfg req ((verifyStep cfg req).run serve s).1
      (front ++ (verifyStep cfg req).log serve s) := by
  unfold verifyStep verifySession
  cases hurl : endpoint cfg.pangolinApiBaseUrl "badger/verify-session" with
  | none =>
    apply Checks.refused _ _ (plain_denies _ (by omega))
    simpa [Program.bind] using hfront
  | some url => exact .verified url _ front hurl hfront

theorem check_checks (cfg : ShimConfig) (req : Request) (s : S) :
    Checks cfg req ((check cfg req).run serve s).1 ((check cfg req).log serve s) := by
  unfold check
  split
  · exact .refused _ _ (plain_denies _ (by omega)) (by simp)
  · cases (checkQuery cfg req)[cfg.resourceSessionRequestParam]? with
    | none => exact verifyStep_checks serve cfg req s [] (by simp)
    | some token =>
      simp only [Program.run_bind, Program.log_bind]
      have hlog : ∀ entry ∈ (exchangeSession cfg (exchangeBody req token)).log serve s,
          ¬entry.1.verifies := by
        unfold exchangeSession
        cases endpoint cfg.pangolinApiBaseUrl "badger/exchange-session" with
        | none => simp
        | some url => simp [Program.log, ShimCall.verifies]
      cases ((exchangeSession cfg (exchangeBody req token)).run serve s).1 with
      | error e => exact .refused _ _ (plain_denies _ (by omega)) (by simpa using hlog)
      | ok data =>
        cases hcookie : data.sessionCookie with
        | some cookie =>
          simp only [hcookie]
          exact .refused _ _ answerHandoff_denies (by simpa using hlog)
        | none =>
          simp only [hcookie]
          exact verifyStep_checks serve cfg req _ _ hlog

/-- What a check asks pangolin to verify is the body of its request. -/
theorem check_verifies {cfg : ShimConfig} {req : Request} {s : S} {url : Url} {body : VerifyBody}
    {reply : PangolinReply}
    (h : ⟨.verifySession url body, reply⟩ ∈ (check cfg req).log serve s) :
    body = verifyBody cfg req := by
  have hspec := check_checks serve cfg req s
  generalize (check cfg req).log serve s = log at h hspec
  generalize ((check cfg req).run serve s).1 = answer at hspec
  cases hspec with
  | refused _ _ _ hlog => exact absurd trivial (hlog _ h)
  | verified url' reply' front _ hfront =>
    rcases List.mem_append.mp h with hmem | hmem
    · exact absurd trivial (hfront _ hmem)
    · have heq := List.mem_singleton.mp hmem
      exact (ShimCall.verifySession.inj (Sigma.mk.inj heq).1).2

end Handler

/-! ## A sample: a request with a session that pangolin accepts -/

/-- Pangolin with one reply for each of the two calls. -/
def pangolin (exchange verify : PangolinReply) : Server ShimCall ShimCall.Reply Unit
  | .exchangeSession .., s => (exchange, s)
  | .verifySession .., s => (verify, s)

def sampleShimConfig : ShimConfig where
  pangolinApiBaseUrl := ⟨"http://pangolin:3001/api/v1", "http", some "pangolin", some 3001⟩
  pathPrefix := "/verify"
  userSessionCookieName := "p_session_token"
  resourceSessionRequestParam := "p_session_request"

def sampleEndpoint : Url :=
  ⟨"http://pangolin:3001/api/v1/badger/verify-session", "http", some "pangolin", some 3001⟩

@[reducible] def sampleEndpointCrate : UrlCrate where
  parse s := if s = sampleEndpoint.asStr then some sampleEndpoint else none
  formUrlencodedParse _ := []
  formUrlencodedSerialize _ := ""

def grantingBody : Bytes :=
  jsonBytes "\x7b\"data\":\x7b\"valid\":true,\"userData\":\x7b\"userId\":\"7\"\x7d\x7d\x7d"

def fullBody : Bytes := jsonBytes
  "\x7b\"data\":\x7b\"valid\":true,\"userData\":[\"7\",\"ann\",\"ann@a.b\",\"Ann\",\"admin\"]\x7d\x7d"

def grantingJson (userData : Value) : Value :=
  .object [("data", .object [("valid", .bool true), ("userData", userData)])]

@[reducible] def sampleJsonCrate : JsonCrate where
  parse body :=
    if body = grantingBody then some (grantingJson (.object [("userId", .string "7")]))
    else if body = fullBody then some (grantingJson (.array
      [.string "7", .string "ann", .string "ann@a.b", .string "Ann", .string "admin"]))
    else none

def sampleRequest (path : String) (headers : List (String × Bytes)) : Request :=
  ⟨"GET", some path, ("host", jsonBytes "app.example.com") :: headers⟩

def grantingPangolin : Server ShimCall ShimCall.Reply Unit :=
  pangolin .unreachable (.response 200 (some grantingBody))

def grantedResponse : Response := ⟨200, [("remote-user-id", jsonBytes "7")], ""⟩

section Sample
attribute [local instance] sampleHttpCrate sampleEndpointCrate sampleJsonCrate

theorem sample_granted :
    ((check sampleShimConfig (sampleRequest "/verify/x" [])).run grantingPangolin ()).1 =
      some grantedResponse := by
  decide

end Sample

end PangolinGateway
