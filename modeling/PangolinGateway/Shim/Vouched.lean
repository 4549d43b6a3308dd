import PangolinGateway.Config.Env
import PangolinGateway.Shim.FailClosed
import PangolinGateway.Shim.Prefixed
import PangolinGateway.Transform.Guarded

/-! # Protected upstreams behind the shim

The objects of the controller, the gateway and the shim together: what reaches the upstream of a
protected router is what pangolin was asked about and granted. -/
namespace PangolinGateway
set_option autoImplicit false
open Calls

/-! ## The gateway and its auth service -/

/-- The request that asks an auth service about that of a client, with the path of the policy in
front. It has the host and the headers that the policy names; what else it carries is left open. -/
structure AsksFor (ext : ExtAuth) (http : HttpExtAuthService) (client check : Request) : Prop where
  method : check.method = client.method
  path : check.pathAndQuery = client.pathAndQuery.map fun pathAndQuery =>
    http.path.getD "" ++ pathAndQuery
  headers : ∀ name, name = "host" ∨ name ∈ (ext.headersToExtAuth.getD []).map toLowercase →
    check.values name = client.values name

/-- The service answers with success; without an answer the policy decides. -/
def AllowedBy (answers : Request → Option Response → Prop) (client : Request)
    (spec : SecurityPolicySpec) : Prop :=
  ∀ ext http, spec.extAuth = some ext → ext.http = some http →
    ∃ check answer, AsksFor ext http client check ∧ answers check answer ∧
      match answer with
      | some resp => resp.isSuccess
      | none => ext.failOpen = some true

theorem optionalList_getD (l : List String) : (optionalList l).getD [] = l := by
  cases l <;> rfl

theorem buildSecurityPolicy_allows [DefaultHasher] {cfg : Config} {ea : ExtAuthzConfig}
    {routeName : String} {answers : Request → Option Response → Prop} {client : Request}
    (h : AllowedBy answers client (buildSecurityPolicy cfg ea routeName).spec) :
    ∃ check resp, answers check (some resp) ∧ resp.isSuccess ∧ check.method = client.method ∧
      check.pathAndQuery = client.pathAndQuery.map (fun pathAndQuery =>
        ea.path.getD "" ++ pathAndQuery) ∧
      ∀ name, name = "host" ∨ name ∈ ea.headersToExtAuth.map toLowercase →
        check.values name = client.values name := by
  obtain ⟨check, answer, hasks, hanswers, hallows⟩ := h _ _ rfl rfl
  cases answer with
  | none => cases hallows
  | some resp =>
    refine ⟨check, resp, hanswers, hallows, hasks.method, hasks.path, fun name hname => ?_⟩
    apply hasks.headers
    rwa [optionalList_getD]

/-! ## The shim as the service -/

section Handler
variable [HttpCrate] [UrlCrate] [JsonCrate] {S : Type}

/-- The shim answers, or it is not reached. -/
def ShimAnswers (cfg : ShimConfig) (serve : Server ShimCall ShimCall.Reply S) (s : S)
    (check : Request) (answer : Option Response) : Prop :=
  answer = none ∨ answer = ((router cfg check).run serve s).1

/-- The body is about the request of the client. -/
structure VerifyBody.About (cfg : ShimConfig) (client : Request) (pathAndQuery : String)
    (body : VerifyBody) : Prop where
  asks : body.AsksAbout pathAndQuery
  method : body.method = client.method
  host : body.host = PangolinGateway.host client
  sessions : body.sessions =
    collectSessions ((headerStr client "cookie").getD "") cfg.userSessionCookieName

/-- Pangolin was asked about the request of the client, and granted it. -/
def Vouched (cfg : ShimConfig) (serve : Server ShimCall ShimCall.Reply S) (s : S) (client : Request)
    (pathAndQuery : String) : Prop :=
  ∃ check url body reply data,
    ⟨.verifySession url body, reply⟩ ∈ (router cfg check).log serve s ∧
      body.About cfg client pathAndQuery ∧ reply.Decodes data ∧ data.Grants

omit [HttpCrate] [UrlCrate] [JsonCrate] in
/-- Behind a prefix no path is that of the probe. -/
theorem path_ne_healthz {pre pathAndQuery : String} (hpre : pre.toList.head? = some '/')
    (hquery : '?' ∉ pre.toList) (hslash : pathAndQuery.toList.head? = some '/') {req : Request}
    (hreq : req.pathAndQuery = some (pre ++ pathAndQuery)) : req.path ≠ "/healthz" := by
  cases hp : pre.toList with
  | nil => simp [hp] at hpre
  | cons c p =>
    cases hq : pathAndQuery.toList with
    | nil => simp [hq] at hslash
    | cons d q =>
      rw [hp] at hpre hquery
      rw [hq] at hslash
      obtain rfl : c = '/' := by simpa using hpre
      obtain rfl : d = '/' := by simpa using hslash
      have htake : (pre ++ pathAndQuery).toList.takeWhile (· != '?') =
          '/' :: p ++ '/' :: q.takeWhile (· != '?') := by
        rw [String.toList_append, hp, hq, List.takeWhile_append_of_pos]
        · simp
        · intro c hc
          rw [bne_iff_ne]
          rintro rfl
          exact hquery hc
      intro hhealth
      rw [Request.path, hreq] at hhealth
      simp only [htake, List.cons_append, List.isEmpty_cons, Bool.false_eq_true, if_false] at hhealth
      have hlist := congrArg String.toList hhealth
      rw [String.toList_ofList, show "/healthz".toList = '/' :: "healthz".toList by decide] at hlist
      have hmem : '/' ∈ p ++ '/' :: q.takeWhile (· != '?') := by simp
      rw [(List.cons.inj hlist).2] at hmem
      revert hmem
      decide

/-- A success of the shim is a grant of pangolin, unless the probe was asked for. -/
theorem router_success {cfg : ShimConfig} {req : Request} {serve : Server ShimCall ShimCall.Reply S}
    {s : S} {resp : Response} (hpath : req.path ≠ "/healthz")
    (hanswer : ((router cfg req).run serve s).1 = some resp) (hsuccess : resp.isSuccess) :
    ∃ url reply data,
      ⟨.verifySession url (verifyBody cfg req), reply⟩ ∈ (router cfg req).log serve s ∧
        reply.Decodes data ∧ data.Grants := by
  have hcheck : router cfg req = check cfg req := if_neg hpath
  rw [hcheck] at hanswer ⊢
  have hspec := check_checks serve cfg req s
  generalize ((check cfg req).run serve s).1 = answer at hspec hanswer
  subst hanswer
  generalize (check cfg req).log serve s = log at hspec ⊢
  cases hspec with
  | refused _ _ hdeny _ => exact absurd hsuccess (hdeny resp rfl)
  | verified url reply front _ _ =>
    obtain ⟨data, hdata, hgrants⟩ := answerVerify_isSuccess.mp hsuccess
    exact ⟨url, reply, data, by simp, decodes_of_valid hdata hgrants.valid, hgrants⟩

variable [DefaultHasher]

/-- A request that is forwarded past the policies to the upstream of a protected router is one that
pangolin was asked about, with its method, host, path, query and sessions, and granted. -/
theorem protected_vouched (cfg : Config) (dynConfig : TraefikDynamicConfig)
    (hapart : NamesApart cfg dynConfig) (hpolicies : PolicyNamesDistinct dynConfig)
    (ea : ExtAuthzConfig) (hea : cfg.extAuthz = some ea)
    (hcookie : "cookie" ∈ ea.headersToExtAuth.map toLowercase) (shim : ShimConfig)
    (hpath : ea.path = some shim.pathPrefix) (hpre : shim.pathPrefix.toList.head? = some '/')
    (hend : ¬EndsInSlash shim.pathPrefix) (hquery : '?' ∉ shim.pathPrefix.toList)
    (serve : Server ShimCall ShimCall.Reply S) (s : S) (client : Request) (pathAndQuery : String)
    (hclient : client.pathAndQuery = some pathAndQuery)
    (hslash : pathAndQuery.toList.head? = some '/') (cmp : PathComparison) (protocol : String)
    (port : ℤ) (hostname path : String) (u : Upstream)
    (hforwards : ForwardsGuarded (buildDesired cfg dynConfig)
      (AllowedBy (ShimAnswers shim serve s) client) cmp protocol port hostname path u) :
    ∃ routerName router,
      ProxiedBy cfg dynConfig cmp protocol port hostname path u routerName router ∧
        (NeedsAuth dynConfig router → Vouched shim serve s client pathAndQuery) := by
  obtain ⟨routerName, router, hby, hlet⟩ := (hapart.forwardsGuarded_iff hpolicies).mp hforwards
  refine ⟨routerName, router, hby, fun hauth => ?_⟩
  obtain ⟨check, resp, hanswers, hsuccess, hmethod, hcheckPath, hheaders⟩ :=
    buildSecurityPolicy_allows (hlet hauth ea hea)
  have hanswer : ((PangolinGateway.router shim check).run serve s).1 = some resp := by
    rcases hanswers with hnone | hsome
    · cases hnone
    · exact hsome.symm
  have hcheck : check.pathAndQuery = some (shim.pathPrefix ++ pathAndQuery) := by
    rw [hcheckPath, hclient, hpath]
    rfl
  obtain ⟨url, reply, data, hlog, hdecodes, hgrants⟩ :=
    router_success (path_ne_healthz hpre hquery hslash hcheck) hanswer hsuccess
  refine ⟨check, url, _, reply, data, hlog, ⟨?_, hmethod, ?_, ?_⟩, hdecodes, hgrants⟩
  · exact (verifyBody_asksAbout_iff shim check pathAndQuery).mpr
      ((originalPathQ_append hpre hslash hcheck).mpr hend)
  · simp only [verifyBody, host, headerStr, hheaders "host" (Or.inl rfl)]
  · simp only [verifyBody, headerStr, hheaders "cookie" (Or.inr hcookie)]

end Handler

/-! ## A request for the web application -/

def webRequest (path : String) : Request := ⟨"GET", some path, [("host", jsonBytes "a.b")]⟩

section Sample
attribute [local instance] sampleHasher dispatchUrlCrate sampleHttpCrate sampleJsonCrate

theorem web_granted :
    ((router sampleShimConfig (webRequest "/verify/x")).run grantingPangolin ()).1 =
      some grantedResponse := by
  decide

/-- Pangolin grants the request, so that it is forwarded; and that it was is what shows the grant. -/
theorem protected_vouched_sample :
    Vouched sampleShimConfig grantingPangolin () (webRequest "/x") "/x" := by
  have hallowed : AllowedBy (ShimAnswers sampleShimConfig grantingPangolin ()) (webRequest "/x")
      (buildSecurityPolicy sampleConfig sampleExtAuthz "hr-app").spec := by
    rintro ext http hext hhttp
    obtain rfl := Option.some.inj hext
    obtain rfl := Option.some.inj hhttp
    refine ⟨webRequest "/verify/x", some grantedResponse, ⟨rfl, by decide, fun _ _ => rfl⟩,
      Or.inr web_granted.symm, by decide, by decide⟩
  have hlet : LetBy sampleConfig dispatchConfig
      (AllowedBy (ShimAnswers sampleShimConfig grantingPangolin ()) (webRequest "/x"))
      "app" webRouter := by
    intro _ ea hea
    obtain rfl := Option.some.inj hea
    exact hallowed
  obtain ⟨routerName, router, hby, hvouched⟩ := protected_vouched sampleConfig dispatchConfig
    dispatch_apart dispatch_policies sampleExtAuthz rfl (by decide) sampleShimConfig rfl (by decide)
    (by unfold EndsInSlash; decide) (by decide) grantingPangolin () (webRequest "/x") "/x" rfl
    (by decide) (byElements fun _ _ => False) "HTTPS" 443 "a.b" "/x" (.address "10.0.0.7" 8080)
    ((dispatch_apart.forwardsGuarded_iff dispatch_policies).mpr
      ⟨"app", webRouter, dispatch_proxiedBy "/x", hlet⟩)
  obtain ⟨rfl, rfl⟩ := dispatch_router hby.translated.1
  have hauth : requiresBadgerAuth webRouter.middlewares dispatchConfig.http.middlewares = true := by
    decide
  exact hvouched hauth

end Sample

end PangolinGateway
