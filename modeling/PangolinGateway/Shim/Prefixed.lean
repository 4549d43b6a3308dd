import PangolinGateway.Shim.QueryParams

/-! # Check requests behind the path prefix

Envoy puts the configured prefix in front of the path and query that the client asked for. -/
namespace PangolinGateway
set_option autoImplicit false
open Calls

/-- `SHIM_PATH_PREFIX`, with its default, as `ShimConfig::from_env` accepts it. -/
def pathPrefixFromEnv (env : Option String) : Option String :=
  let pathPrefix := (env.filter fun v => !v.isEmpty).getD "/verify"
  if pathPrefix.isEmpty ∨ pathPrefix.toList.head? = some '/' then some pathPrefix else none

theorem pathPrefixFromEnv_iff (pre : String) :
    (∃ env, pathPrefixFromEnv env = some pre) ↔ pre.toList.head? = some '/' := by
  constructor
  · rintro ⟨env, henv⟩
    unfold pathPrefixFromEnv at henv
    simp only at henv
    split at henv
    · next hcheck =>
      rw [← Option.some.inj henv]
      apply hcheck.resolve_left
      cases hset : env.filter fun v => !v.isEmpty with
      | none => decide
      | some v => simpa using (Option.filter_eq_some_iff.mp hset).2
    · cases henv
  · intro hslash
    have hne : pre.isEmpty = false := by
      rw [← Bool.not_eq_true, String.isEmpty_iff]
      rintro rfl
      simp at hslash
    refine ⟨some pre, ?_⟩
    rw [pathPrefixFromEnv, Option.filter_some, hne]
    exact if_pos (Or.inr hslash)

/-! ## Stripping what was put in front -/

def EndsInSlash (pre : String) : Prop := pre.toList.getLast? = some '/'

/-- What is left of a text behind a prefix that is neither empty nor the root. -/
theorem stripPathPrefix_rest {pre : String} (hne : pre ≠ "") (hroot : pre ≠ "/") {rest : List Char}
    (hrest : rest.head? = some '/') (text : String)
    (htext : text.toList = Str.trimEndMatches (· == '/') pre.toList ++ rest) :
    stripPathPrefix pre text = some (String.ofList rest) := by
  cases rest with
  | nil => simp at hrest
  | cons c rest =>
    obtain rfl : c = '/' := by simpa using hrest
    have hstrip : (Str.trimEndMatches (· == '/') pre.toList).isPrefixOf? text.toList =
        some ('/' :: rest) := by
      rw [htext, List.isPrefixOf?_eq_some_iff_append_eq]
    simp [stripPathPrefix, hne, hroot, hstrip]

theorem stripPathPrefix_append {pre pathAndQuery : String} (hpre : pre.toList.head? = some '/')
    (hpath : pathAndQuery.toList.head? = some '/') :
    stripPathPrefix pre (pre ++ pathAndQuery) = some pathAndQuery ↔ ¬EndsInSlash pre := by
  have hne : pre ≠ "" := by
    rintro rfl
    simp at hpre
  by_cases hroot : pre = "/"
  · subst hroot
    refine iff_of_false ?_ (by simp [EndsInSlash])
    intro heq
    have hlen := congrArg String.length (Option.some.inj heq)
    simp at hlen
  · have hsplit : Str.trimEndMatches (· == '/') pre.toList ++ pre.toList.rtakeWhile (· == '/') =
        pre.toList := List.rdropWhile_append_rtakeWhile
    have hslashes : ∀ c ∈ pre.toList.rtakeWhile (· == '/'), c = '/' := by
      intro c hc
      simpa using List.mem_rtakeWhile_imp hc
    have hnone : pre.toList.rtakeWhile (· == '/') = [] ↔ ¬EndsInSlash pre := by
      rw [List.rtakeWhile_eq_nil_iff, EndsInSlash]
      cases hlist : pre.toList with
      | nil => simp
      | cons c t => simp [List.getLast?_eq_some_getLast]
    generalize pre.toList.rtakeWhile (· == '/') = slashes at hsplit hslashes hnone
    have htext : (pre ++ pathAndQuery).toList =
        Str.trimEndMatches (· == '/') pre.toList ++ (slashes ++ pathAndQuery.toList) := by
      rw [String.toList_append, ← List.append_assoc, hsplit]
    have hrest : (slashes ++ pathAndQuery.toList).head? = some '/' := by
      cases slashes with
      | nil => exact hpath
      | cons c t => rw [List.cons_append, List.head?_cons, hslashes c List.mem_cons_self]
    rw [stripPathPrefix_rest hne hroot hrest _ htext, Option.some.injEq, ← hnone,
      ← String.toList_inj, String.toList_ofList, List.append_left_eq_self]

/-! ## What a check asks pangolin about -/

section Handler
variable [HttpCrate] [UrlCrate] [JsonCrate]

/-- The body asks about this path and query. -/
def VerifyBody.AsksAbout (body : VerifyBody) (pathAndQuery : String) : Prop :=
  body.path = pathPart pathAndQuery ∧ body.query = parseQuery (queryPart pathAndQuery) ∧
    body.originalRequestUrl = body.scheme ++ "://" ++ body.host ++ pathAndQuery

omit [JsonCrate] in
theorem verifyBody_asksAbout_iff (cfg : ShimConfig) (req : Request) (pathAndQuery : String) :
    (verifyBody cfg req).AsksAbout pathAndQuery ↔ originalPathQ cfg req = pathAndQuery := by
  constructor
  · rintro ⟨_, _, hurl⟩
    have hlists := congrArg String.toList hurl
    simp only [verifyBody, String.toList_append, List.append_cancel_left_eq] at hlists
    exact String.toList_inj.mp hlists
  · rintro rfl
    exact ⟨rfl, rfl, rfl⟩

omit [HttpCrate] [UrlCrate] [JsonCrate] in
theorem originalPathQ_append {cfg : ShimConfig} {pathAndQuery : String}
    (hpre : cfg.pathPrefix.toList.head? = some '/') (hpath : pathAndQuery.toList.head? = some '/')
    {req : Request} (hreq : req.pathAndQuery = some (cfg.pathPrefix ++ pathAndQuery)) :
    originalPathQ cfg req = pathAndQuery ↔ ¬EndsInSlash cfg.pathPrefix := by
  have hfull : fullPath req = cfg.pathPrefix ++ pathAndQuery := by
    have hne : (cfg.pathPrefix ++ pathAndQuery).isEmpty = false := by
      rw [← Bool.not_eq_true, String.isEmpty_iff]
      intro hempty
      obtain ⟨_, hquery⟩ := String.append_eq_empty_iff.mp hempty
      simp [hquery] at hpath
    simp only [fullPath, hreq, hne, Bool.false_eq_true, if_false]
  have hlonger : cfg.pathPrefix ++ pathAndQuery ≠ pathAndQuery := by
    intro heq
    rw [← String.toList_inj, String.toList_append, List.append_left_eq_self] at heq
    simp [heq] at hpre
  rw [← stripPathPrefix_append hpre hpath, originalPathQ, hfull]
  cases stripPathPrefix cfg.pathPrefix (cfg.pathPrefix ++ pathAndQuery) with
  | none => simp [hlonger]
  | some original => simp

/-- Stripping undoes Envoy's prefix, and pangolin is asked about the path and query of the client,
exactly when the configured prefix does not end in a slash. -/
theorem prefixed_path_restored (env : Option String) (cfg : ShimConfig)
    (hpre : pathPrefixFromEnv env = some cfg.pathPrefix) (pathAndQuery : String)
    (hpath : pathAndQuery.toList.head? = some '/') :
    (stripPathPrefix cfg.pathPrefix (cfg.pathPrefix ++ pathAndQuery) = some pathAndQuery ↔
      ¬EndsInSlash cfg.pathPrefix) ∧
    ∀ (req : Request), req.pathAndQuery = some (cfg.pathPrefix ++ pathAndQuery) →
      ∀ {S : Type} (serve : Server ShimCall ShimCall.Reply S) (s : S) (url : Url)
        (body : VerifyBody) (reply : PangolinReply),
        ⟨.verifySession url body, reply⟩ ∈ (check cfg req).log serve s →
          (body.AsksAbout pathAndQuery ↔ ¬EndsInSlash cfg.pathPrefix) := by
  have hslash := (pathPrefixFromEnv_iff cfg.pathPrefix).mp ⟨env, hpre⟩
  refine ⟨stripPathPrefix_append hslash hpath, ?_⟩
  intro req hreq S serve s url body reply hmem
  obtain rfl := check_verifies serve hmem
  rw [verifyBody_asksAbout_iff, originalPathQ_append hslash hpath hreq]

end Handler

section Sample
attribute [local instance] sampleHttpCrate sampleEndpointCrate sampleJsonCrate

theorem prefixed_path_restored_default : stripPathPrefix "/verify" ("/verify" ++ "/x?y=1") =
    some "/x?y=1" := by
  have hrestored := prefixed_path_restored none sampleShimConfig (by decide) "/x?y=1" (by decide)
  exact hrestored.1.mpr (by simp [EndsInSlash, sampleShimConfig])

/-- The slash that is trimmed off the prefix stays in front of the path. -/
theorem trailing_slash_stays :
    ¬ ∀ (env : Option String) (pre pathAndQuery : String), pathPrefixFromEnv env = some pre →
      pathAndQuery.toList.head? = some '/' →
        stripPathPrefix pre (pre ++ pathAndQuery) = some pathAndQuery := by
  intro h
  have hslash : stripPathPrefix "/verify/" ("/verify/" ++ "/x") = some "//x" := by decide
  have hclaim := h (some "/verify/") "/verify/" "/x" (by decide) (by decide)
  rw [hslash] at hclaim
  exact absurd hclaim (by decide)

end Sample

end PangolinGateway
