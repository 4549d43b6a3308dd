import PangolinGateway.Shim.Check

/-! # The check fails closed -/
namespace PangolinGateway
set_option autoImplicit false
open Calls

/-- Pangolin lets the request through: no redirect to the portal, no challenge. -/
structure VerifyData.Grants (data : VerifyData) : Prop where
  valid : data.valid = true
  redirectUrl : data.redirectUrl = none ∨ data.redirectUrl = some ""
  challenged : data.headerAuthChallenged ≠ some true

def PangolinReply.Decodes [JsonCrate] (reply : PangolinReply) (data : VerifyData) : Prop :=
  ∃ status body json, reply = .response status (some body) ∧ JsonCrate.parse body = some json ∧
    decodeData VerifyData.decode .default json = some data

theorem VerifyData.redirect_none {data : VerifyData} :
    (data.redirectUrl.filter fun r => !r.isEmpty) = none ↔
      data.redirectUrl = none ∨ data.redirectUrl = some "" := by
  cases data.redirectUrl with
  | none => simp
  | some r => simp

section Handler
variable [HttpCrate] [JsonCrate]

omit [HttpCrate] in
theorem decodes_of_valid {reply : PangolinReply} {data : VerifyData}
    (h : readVerify reply = .ok data) (hvalid : data.valid = true) : reply.Decodes data := by
  unfold readVerify readReply at h
  cases reply with
  | unreachable => simp at h
  | response status body =>
    cases hdecode : (body.bind JsonCrate.parse).bind (decodeData VerifyData.decode .default) with
    | some data' =>
      simp only [hdecode] at h
      obtain rfl := Except.ok.inj h
      obtain ⟨json, hjson, hdata⟩ := Option.bind_eq_some_iff.mp hdecode
      obtain ⟨raw, rfl, hparse⟩ := Option.bind_eq_some_iff.mp hjson
      exact ⟨status, raw, json, rfl, hparse, hdata⟩
    | none =>
      simp only [hdecode] at h
      split at h
      · simp at h
      · obtain rfl := Except.ok.inj h
        simp [VerifyData.default] at hvalid

omit [JsonCrate] in
/-- The cascade of a verify-session answer ends in a 2xx status only for data that grants. -/
theorem answerVerify_isSuccess {result : Except SessionError VerifyData} :
    (answerVerify result).isSuccess ↔ ∃ data, result = .ok data ∧ data.Grants := by
  cases result with
  | error e =>
    have hdeny : ¬(plain 503 "auth backend unavailable").isSuccess :=
      plain_denies _ (by omega) _ rfl
    exact iff_of_false hdeny (by simp)
  | ok data =>
    simp only [answerVerify, Except.ok.injEq, exists_eq_left']
    cases hredirect : data.redirectUrl.filter fun r => !r.isEmpty with
    | some redirect =>
      have hno : ¬data.Grants := by
        intro h
        have hnone := VerifyData.redirect_none.mpr h.redirectUrl
        simp [hnone] at hredirect
      cases hlocation : HttpCrate.fromStr redirect with
      | some location => exact iff_of_false (by simp [hlocation, Response.isSuccess]) hno
      | none => exact iff_of_false (by simp [hlocation, Response.isSuccess, plain]) hno
    | none =>
      have hnone := VerifyData.redirect_none.mp hredirect
      by_cases hchallenged : data.headerAuthChallenged = some true
      · have hno : ¬data.Grants := fun h => h.challenged hchallenged
        exact iff_of_false (by simp [hchallenged, Response.isSuccess]) hno
      · have hfalse : data.headerAuthChallenged.getD false = false := by
          cases h : data.headerAuthChallenged with
          | none => rfl
          | some b => cases b <;> simp_all
        simp only [hfalse, Bool.false_eq_true, if_false]
        cases hvalid : data.valid with
        | true =>
          exact iff_of_true (by simp [Response.isSuccess]) ⟨hvalid, hnone, hchallenged⟩
        | false =>
          have hno : ¬data.Grants := by
            intro h
            simp [h.valid] at hvalid
          exact iff_of_false (by simp [Response.isSuccess, plain]) hno

variable [UrlCrate] {S : Type}

/-- A 2xx answer comes after a verify-session call for the body built from this request whose reply
decodes to data that grants, whatever pangolin does. -/
theorem success_verified (cfg : ShimConfig) (req : Request)
    (serve : Server ShimCall ShimCall.Reply S) (s : S) (resp : Response)
    (hanswer : ((check cfg req).run serve s).1 = some resp) (hsuccess : resp.isSuccess) :
    ∃ url reply data,
      ⟨.verifySession url (verifyBody cfg req), reply⟩ ∈ (check cfg req).log serve s ∧
        reply.Decodes data ∧ data.Grants := by
  have hspec := check_checks serve cfg req s
  rw [hanswer] at hspec
  generalize (check cfg req).log serve s = log at hspec ⊢
  cases hspec with
  | refused _ _ hdeny _ => exact absurd hsuccess (hdeny resp rfl)
  | verified url reply front _ _ =>
    obtain ⟨data, hdata, hgrants⟩ := answerVerify_isSuccess.mp hsuccess
    exact ⟨url, reply, data, by simp, decodes_of_valid hdata hgrants.valid, hgrants⟩

end Handler

section Sample
attribute [local instance] sampleHttpCrate sampleEndpointCrate sampleJsonCrate

theorem success_verified_sample : ∃ url reply data,
    ⟨.verifySession url (verifyBody sampleShimConfig (sampleRequest "/verify/x" [])), reply⟩ ∈
        (check sampleShimConfig (sampleRequest "/verify/x" [])).log grantingPangolin () ∧
      reply.Decodes data ∧ data.Grants :=
  success_verified sampleShimConfig (sampleRequest "/verify/x" []) grantingPangolin ()
    grantedResponse sample_granted ⟨by decide, by decide⟩

end Sample

end PangolinGateway
