import PangolinGateway.Shim.FailClosed

/-! # Check requests without the path prefix -/
namespace PangolinGateway
set_option autoImplicit false
open Calls

/-- The path and query begin with the prefix, less its trailing slashes, at a segment boundary. A
prefix of slashes alone counts only where the path is empty. -/
def StripsPrefix (pre pathAndQuery : String) : Prop :=
  let trimmed := Str.trimEndMatches (· == '/') pre.toList
  pre ≠ "" ∧ pre ≠ "/" ∧ ∃ rest, pathAndQuery.toList = trimmed ++ rest ∧
    (rest = [] ∨ rest.head? = some '?' ∨ (rest.head? = some '/' ∧ trimmed ≠ []))

theorem stripPathPrefix_unchanged {pre pathAndQuery : String} (h : ¬StripsPrefix pre pathAndQuery) :
    (stripPathPrefix pre pathAndQuery).getD pathAndQuery = pathAndQuery := by
  unfold stripPathPrefix
  by_cases htrivial : pre.isEmpty ∨ pre = "/"
  · rw [if_pos htrivial]
    rfl
  · have hpre : pre ≠ "" ∧ pre ≠ "/" := by simpa [not_or] using htrivial
    rw [if_neg htrivial]
    cases hrest : (Str.trimEndMatches (· == '/') pre.toList).isPrefixOf? pathAndQuery.toList with
    | none => rfl
    | some rest =>
      have happend := List.append_eq_of_isPrefixOf?_eq_some hrest
      have hboundary : ¬(rest = [] ∨ rest.head? = some '?' ∨
          (rest.head? = some '/' ∧ Str.trimEndMatches (· == '/') pre.toList ≠ [])) :=
        fun hb => h ⟨hpre.1, hpre.2, rest, happend.symm, hb⟩
      rw [not_or, not_or, not_and_or, not_not] at hboundary
      obtain ⟨hne, hquery, hslash⟩ := hboundary
      cases rest with
      | nil => exact absurd rfl hne
      | cons c rest =>
        by_cases hc : c = '/'
        · -- only a prefix of slashes is left to match here, and it strips nothing
          subst hc
          have htrimmed : Str.trimEndMatches (· == '/') pre.toList = [] :=
            hslash.resolve_left fun hno => hno rfl
          rw [htrimmed, List.nil_append] at happend
          simp only [Option.getD_some]
          rw [happend, String.ofList_toList]
        · have hc' : c ≠ '?' := fun heq => hquery (by rw [heq, List.head?_cons])
          split
          all_goals simp_all

def ownPath (req : Request) : String := String.ofList ((fullPath req).toList.takeWhile (· != '?'))

theorem pathOnly_eq (cfg : ShimConfig) (req : Request) :
    pathOnly cfg req = String.ofList ((originalPathQ cfg req).toList.takeWhile (· != '?')) := by
  unfold pathOnly
  rw [Str.splitOnce_singleton]
  by_cases hmem : '?' ∈ (originalPathQ cfg req).toList
  · simp [hmem]
  · have hall : ∀ c ∈ (originalPathQ cfg req).toList, (c != '?') = true := by
      intro c hc
      rw [bne_iff_ne]
      rintro rfl
      exact hmem hc
    simp [hmem, List.takeWhile_eq_self_iff.mpr hall]

section Handler
variable [HttpCrate] [UrlCrate] [JsonCrate]

/-- Outside the probe route a request without the prefix is checked, under its own path and query,
and is let through only after a verify-session call for them. -/
theorem unprefixed_checked (cfg : ShimConfig) (req : Request) (hprobe : req.path ≠ "/healthz")
    (hunprefixed : ¬StripsPrefix cfg.pathPrefix (fullPath req)) :
    router cfg req = check cfg req ∧
      ∀ {S : Type} (serve : Server ShimCall ShimCall.Reply S) (s : S),
        (∀ url body reply, ⟨.verifySession url body, reply⟩ ∈ (router cfg req).log serve s →
          body.path = ownPath req ∧
            body.originalRequestUrl = scheme req ++ "://" ++ host req ++ fullPath req) ∧
        ∀ resp, ((router cfg req).run serve s).1 = some resp → resp.isSuccess →
          ∃ url body reply, ⟨.verifySession url body, reply⟩ ∈ (router cfg req).log serve s := by
  have hrouter : router cfg req = check cfg req := if_neg hprobe
  have hpath : originalPathQ cfg req = fullPath req := stripPathPrefix_unchanged hunprefixed
  refine ⟨hrouter, fun serve s => ?_⟩
  rw [hrouter]
  constructor
  · intro url body reply hmem
    obtain rfl := check_verifies serve hmem
    constructor
    · change pathOnly cfg req = ownPath req
      rw [pathOnly_eq, hpath, ownPath]
    · change scheme req ++ "://" ++ host req ++ originalPathQ cfg req = _
      rw [hpath]
  · intro resp hresp hsuccess
    have hspec := check_checks serve cfg req s
    generalize (check cfg req).log serve s = log at hspec ⊢
    generalize ((check cfg req).run serve s).1 = answer at hresp hspec
    cases hspec with
    | refused _ _ hdeny _ => exact absurd hsuccess (hdeny resp hresp)
    | verified url reply front _ _ => exact ⟨url, verifyBody cfg req, reply, by simp⟩

end Handler

section Sample
attribute [local instance] sampleHttpCrate sampleEndpointCrate sampleJsonCrate

theorem unprefixed_checked_sample :
    router sampleShimConfig (sampleRequest "/x" []) =
      check sampleShimConfig (sampleRequest "/x" []) := by
  refine (unprefixed_checked sampleShimConfig (sampleRequest "/x" []) (by decide) ?_).1
  rintro ⟨_, _, rest, hrest, _⟩
  have hpre : Str.trimEndMatches (· == '/') sampleShimConfig.pathPrefix.toList =
      "/verify".toList := by decide
  rw [hpre] at hrest
  simp [fullPath, sampleRequest] at hrest

/-- The probe route answers for `/healthz` without pangolin, and a path that begins like the prefix
is authorised under what remains of it. -/
theorem unprefixed_elsewhere :
    (((router sampleShimConfig (sampleRequest "/healthz" [])).run grantingPangolin ()).1 =
        some (plain 200 "ok") ∧
      (router sampleShimConfig (sampleRequest "/healthz" [])).log grantingPangolin () = []) ∧
    ((router sampleShimConfig (sampleRequest "/verify/x" [])).run grantingPangolin ()).1 =
        some grantedResponse ∧
      ∃ url body reply, ⟨.verifySession url body, reply⟩ ∈
          (router sampleShimConfig (sampleRequest "/verify/x" [])).log grantingPangolin () ∧
        body.path = "/x" ∧ ownPath (sampleRequest "/verify/x" []) = "/verify/x" := by
  refine ⟨⟨rfl, rfl⟩, sample_granted, ?_⟩
  exact ⟨_, verifyBody sampleShimConfig (sampleRequest "/verify/x" []), _, List.mem_cons_self,
    by decide, by decide⟩

end Sample

end PangolinGateway
