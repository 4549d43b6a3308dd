import PangolinGateway.Transform.Middleware

/-! # What merging filters amounts to

The pass over the filters keeps four accumulators, and each is a function of the filters seen so
far: the filters of other types, the two concatenated set lists, and a rewrite with the last
hostname and the first path. -/
namespace PangolinGateway
set_option autoImplicit false

namespace HttpRouteFilter

def isRedirect (f : HttpRouteFilter) : Bool := f.type == .requestRedirect

def isRewrite (f : HttpRouteFilter) : Bool :=
  f.type == .urlRewrite && f.urlRewrite.isSome

def requestSet (f : HttpRouteFilter) : List HeaderSet :=
  if f.type = .requestHeaderModifier then modifierSet f.requestHeaderModifier else []

def responseSet (f : HttpRouteFilter) : List HeaderSet :=
  if f.type = .responseHeaderModifier then modifierSet f.responseHeaderModifier else []

/-- What a `URLRewrite` filter does to the hostname. -/
def rewriteHostname (f : HttpRouteFilter) : Option String :=
  if f.type = .urlRewrite then f.urlRewrite.bind UrlRewrite.hostname else none

/-- What a `URLRewrite` filter does to the path. -/
def rewritePath (f : HttpRouteFilter) : Option UrlRewritePath :=
  if f.type = .urlRewrite then f.urlRewrite.bind UrlRewrite.path else none

/-- None of the three types that are merged. -/
def isOther (f : HttpRouteFilter) : Bool :=
  f.type != .urlRewrite && f.type != .requestHeaderModifier && f.type != .responseHeaderModifier

theorem isOther_eq (f : HttpRouteFilter) : f.isOther = f.isRedirect := by
  unfold isOther isRedirect
  cases f.type <;> rfl

end HttpRouteFilter

/-- The last hostname and the first path. -/
def mergedRewrite (fs : List HttpRouteFilter) : UrlRewrite where
  hostname := (fs.filterMap HttpRouteFilter.rewriteHostname).getLast?
  path := (fs.filterMap HttpRouteFilter.rewritePath).head?

/-- What the pass holds after `fs`. -/
def mergeState (fs : List HttpRouteFilter) : Merged where
  out := fs.filter HttpRouteFilter.isOther
  rewrite := if fs.any HttpRouteFilter.isRewrite then some (mergedRewrite fs) else none
  reqSet := fs.flatMap HttpRouteFilter.requestSet
  respSet := fs.flatMap HttpRouteFilter.responseSet

theorem mergedRewrite_none {fs : List HttpRouteFilter} (h : fs.any HttpRouteFilter.isRewrite = false) :
    mergedRewrite fs = ⟨none, none⟩ := by
  have hnone : ∀ f ∈ fs, f.rewriteHostname = none ∧ f.rewritePath = none := by
    intro f hf
    have hrewrite : ¬ f.isRewrite = true := List.any_eq_false.mp h f hf
    unfold HttpRouteFilter.rewriteHostname HttpRouteFilter.rewritePath
    by_cases htype : f.type = .urlRewrite
    · cases hincoming : f.urlRewrite with
      | none => simp
      | some incoming => exact absurd (by simp [HttpRouteFilter.isRewrite, htype, hincoming]) hrewrite
    · simp [htype]
  unfold mergedRewrite
  rw [List.filterMap_eq_nil_iff.mpr fun f hf => (hnone f hf).1,
    List.filterMap_eq_nil_iff.mpr fun f hf => (hnone f hf).2]
  rfl

theorem mergeState_rewrite (fs : List HttpRouteFilter) :
    (mergeState fs).rewrite.getD ⟨none, none⟩ = mergedRewrite fs := by
  unfold mergeState
  cases h : fs.any HttpRouteFilter.isRewrite with
  | false => simp [mergedRewrite_none h]
  | true => simp

theorem mergedRewrite_concat {fs : List HttpRouteFilter} {f : HttpRouteFilter}
    {incoming : UrlRewrite} (htype : f.type = .urlRewrite) (hincoming : f.urlRewrite = some incoming) :
    mergedRewrite (fs ++ [f]) = mergeRewrite (mergedRewrite fs) incoming := by
  have hhostname : f.rewriteHostname = incoming.hostname := by
    simp [HttpRouteFilter.rewriteHostname, htype, hincoming]
  have hpath : f.rewritePath = incoming.path := by
    simp [HttpRouteFilter.rewritePath, htype, hincoming]
  unfold mergedRewrite mergeRewrite
  rw [List.filterMap_append, List.filterMap_append, List.getLast?_append, List.head?_append]
  cases hh : incoming.hostname <;> cases hp : incoming.path <;> simp [hhostname, hpath, hh, hp]

theorem mergedRewrite_concat_other {fs : List HttpRouteFilter} {f : HttpRouteFilter}
    (h : f.isRewrite = false) : mergedRewrite (fs ++ [f]) = mergedRewrite fs := by
  have hnone : mergedRewrite [f] = ⟨none, none⟩ := mergedRewrite_none (by simp [h])
  simp only [mergedRewrite, UrlRewrite.mk.injEq, List.getLast?_eq_none_iff,
    List.head?_eq_none_iff] at hnone
  unfold mergedRewrite
  rw [List.filterMap_append, List.filterMap_append, hnone.1, hnone.2, List.append_nil,
    List.append_nil]

theorem mergeStep_state (fs : List HttpRouteFilter) (f : HttpRouteFilter) :
    mergeStep (mergeState fs) f = mergeState (fs ++ [f]) := by
  cases htype : f.type with
  | requestRedirect | requestHeaderModifier | responseHeaderModifier =>
    have hrewrite : f.isRewrite = false := by simp [HttpRouteFilter.isRewrite, htype]
    simp [mergeStep, mergeState, mergedRewrite_concat_other hrewrite, hrewrite, htype,
      HttpRouteFilter.isOther, HttpRouteFilter.requestSet, HttpRouteFilter.responseSet]
  | urlRewrite =>
    cases hincoming : f.urlRewrite with
    | none =>
      have hrewrite : f.isRewrite = false := by simp [HttpRouteFilter.isRewrite, htype, hincoming]
      simp [mergeStep, mergeState, mergedRewrite_concat_other hrewrite, hrewrite, htype, hincoming,
        HttpRouteFilter.isOther, HttpRouteFilter.requestSet, HttpRouteFilter.responseSet]
    | some incoming =>
      have hrewrite : f.isRewrite = true := by simp [HttpRouteFilter.isRewrite, htype, hincoming]
      have hmerged := mergeState_rewrite fs
      simp only [mergeStep, htype, hincoming, hmerged]
      simp [mergeState, mergedRewrite_concat htype hincoming, hrewrite, htype,
        HttpRouteFilter.isOther, HttpRouteFilter.requestSet, HttpRouteFilter.responseSet]

theorem foldl_mergeStep (fs : List HttpRouteFilter) :
    fs.foldl mergeStep ⟨[], none, [], []⟩ = mergeState fs := by
  induction fs using List.reverseRecOn with
  | nil => rfl
  | append_singleton fs f ih => rw [List.foldl_concat, ih, mergeStep_state]

/-! ## The merged filters -/

/-- A header filter with this set list, unless the list is empty. -/
def headerFilters (modify : List HeaderSet → HttpRouteFilter) (set : List HeaderSet) :
    List HttpRouteFilter := if set.isEmpty then [] else [modify set]

def rewriteFilters (fs : List HttpRouteFilter) : List HttpRouteFilter :=
  if fs.any HttpRouteFilter.isRewrite then [rewriteFilter (mergedRewrite fs)] else []

theorem mergeFilters_eq (fs : List HttpRouteFilter) :
    mergeFilters fs = fs.filter HttpRouteFilter.isOther ++
      headerFilters requestHeaderFilter (fs.flatMap HttpRouteFilter.requestSet) ++
      headerFilters responseHeaderFilter (fs.flatMap HttpRouteFilter.responseSet) ++
      rewriteFilters fs := by
  unfold mergeFilters rewriteFilters
  rw [foldl_mergeStep]
  cases h : fs.any HttpRouteFilter.isRewrite <;> simp [mergeState, headerFilters, h]

/-! ### Merging again -/

/-- What is read off the header filters of a type. -/
structure ReadsSets (read : HttpRouteFilter → List HeaderSet) : Prop where
  redirect : ∀ f : HttpRouteFilter, f.type = .requestRedirect → read f = []
  rewrite : ∀ rewrite, read (rewriteFilter rewrite) = []

theorem requestSet_reads : ReadsSets HttpRouteFilter.requestSet :=
  ⟨fun f hf => by simp [HttpRouteFilter.requestSet, hf], fun _ => rfl⟩

theorem responseSet_reads : ReadsSets HttpRouteFilter.responseSet :=
  ⟨fun f hf => by simp [HttpRouteFilter.responseSet, hf], fun _ => rfl⟩

section Parts
variable (set : List HeaderSet) (fs : List HttpRouteFilter)

theorem headerFilters_others (modify : List HeaderSet → HttpRouteFilter)
    (h : ∀ set, (modify set).isOther = false) :
    (headerFilters modify set).filter HttpRouteFilter.isOther = [] := by
  unfold headerFilters
  split <;> simp [h]

theorem headerFilters_sets (modify : List HeaderSet → HttpRouteFilter)
    (read : HttpRouteFilter → List HeaderSet) (h : ∀ set, read (modify set) = set) :
    (headerFilters modify set).flatMap read = set := by
  cases set <;> simp [headerFilters, h]

theorem headerFilters_no_sets (modify : List HeaderSet → HttpRouteFilter)
    (read : HttpRouteFilter → List HeaderSet) (h : ∀ set, read (modify set) = []) :
    (headerFilters modify set).flatMap read = [] := by
  unfold headerFilters
  split <;> simp [h]

theorem rewriteFilters_others : (rewriteFilters fs).filter HttpRouteFilter.isOther = [] := by
  unfold rewriteFilters
  split <;> rfl

variable {read : HttpRouteFilter → List HeaderSet} (hread : ReadsSets read)
include hread

theorem rewriteFilters_no_sets : (rewriteFilters fs).flatMap read = [] := by
  unfold rewriteFilters
  split <;> simp [hread.rewrite]

theorem others_no_sets : (fs.filter HttpRouteFilter.isOther).flatMap read = [] := by
  rw [List.flatMap_eq_nil_iff]
  intro f hf
  have hother := (List.mem_filter.mp hf).2
  rw [HttpRouteFilter.isOther_eq] at hother
  exact hread.redirect f (by simpa [HttpRouteFilter.isRedirect] using hother)

end Parts

variable (fs : List HttpRouteFilter)

/-- The filters of other types are kept in order. -/
theorem mergeFilters_others :
    (mergeFilters fs).filter HttpRouteFilter.isOther = fs.filter HttpRouteFilter.isOther := by
  rw [mergeFilters_eq, List.filter_append, List.filter_append, List.filter_append,
    headerFilters_others _ _ fun _ => rfl, headerFilters_others _ _ fun _ => rfl,
    rewriteFilters_others, List.filter_filter]
  simp

theorem mergeFilters_requestSet : (mergeFilters fs).flatMap HttpRouteFilter.requestSet =
    fs.flatMap HttpRouteFilter.requestSet := by
  rw [mergeFilters_eq, List.flatMap_append, List.flatMap_append, List.flatMap_append,
    others_no_sets fs requestSet_reads, headerFilters_sets _ _ _ fun _ => rfl,
    headerFilters_no_sets _ _ _ fun _ => rfl, rewriteFilters_no_sets fs requestSet_reads]
  simp

theorem mergeFilters_responseSet : (mergeFilters fs).flatMap HttpRouteFilter.responseSet =
    fs.flatMap HttpRouteFilter.responseSet := by
  rw [mergeFilters_eq, List.flatMap_append, List.flatMap_append, List.flatMap_append,
    others_no_sets fs responseSet_reads, headerFilters_no_sets _ _ _ fun _ => rfl,
    headerFilters_sets _ _ _ fun _ => rfl, rewriteFilters_no_sets fs responseSet_reads]
  simp

/-- The rewrites of a merge are those of its last part. -/
theorem filterMap_merged {B : Type} (read : HttpRouteFilter → Option B)
    (h : ∀ f : HttpRouteFilter, f.type ≠ .urlRewrite → read f = none) :
    (mergeFilters fs).filterMap read = (rewriteFilters fs).filterMap read := by
  rw [mergeFilters_eq, List.filterMap_append]
  have hnil : (fs.filter HttpRouteFilter.isOther ++
      headerFilters requestHeaderFilter (fs.flatMap HttpRouteFilter.requestSet) ++
      headerFilters responseHeaderFilter (fs.flatMap HttpRouteFilter.responseSet)).filterMap read = [] := by
    rw [List.filterMap_eq_nil_iff]
    intro f hf
    apply h
    rw [List.append_assoc, List.mem_append, List.mem_append] at hf
    obtain hf | hf | hf := hf
    · have hother := (List.mem_filter.mp hf).2
      intro htype
      simp [HttpRouteFilter.isOther, htype] at hother
    · unfold headerFilters at hf
      split at hf
      · cases hf
      · rw [List.mem_singleton.mp hf]
        simp [requestHeaderFilter, HttpRouteFilter.ofType]
    · unfold headerFilters at hf
      split at hf
      · cases hf
      · rw [List.mem_singleton.mp hf]
        simp [responseHeaderFilter, HttpRouteFilter.ofType]
  rw [hnil, List.nil_append]

theorem any_isRewrite_iff : fs.any HttpRouteFilter.isRewrite =
    !(fs.filterMap fun f => if f.type = .urlRewrite then f.urlRewrite else none).isEmpty := by
  induction fs with
  | nil => rfl
  | cons f fs ih =>
    rw [List.any_cons, ih, HttpRouteFilter.isRewrite]
    by_cases htype : f.type = .urlRewrite
    · cases hincoming : f.urlRewrite <;> simp [htype, hincoming]
    · simp [htype]

theorem mergeFilters_rewrites : rewriteFilters (mergeFilters fs) = rewriteFilters fs := by
  have hany : (mergeFilters fs).any HttpRouteFilter.isRewrite = fs.any HttpRouteFilter.isRewrite := by
    rw [any_isRewrite_iff, filterMap_merged fs _ fun f hf => if_neg hf, rewriteFilters]
    cases fs.any HttpRouteFilter.isRewrite <;> rfl
  have hhostnames := filterMap_merged fs HttpRouteFilter.rewriteHostname fun f hf => if_neg hf
  have hpaths := filterMap_merged fs HttpRouteFilter.rewritePath fun f hf => if_neg hf
  unfold rewriteFilters at hhostnames hpaths ⊢
  rw [hany]
  cases h : fs.any HttpRouteFilter.isRewrite with
  | false => rfl
  | true =>
    rw [h, if_pos rfl] at hhostnames hpaths
    have hmerged : mergedRewrite (mergeFilters fs) = mergedRewrite fs := by
      rw [mergedRewrite, hhostnames, hpaths]
      cases hrewrite : mergedRewrite fs with
      | mk hostname path => cases hostname <;> cases path <;> rfl
    rw [hmerged]

theorem mergeFilters_idem : mergeFilters (mergeFilters fs) = mergeFilters fs := by
  rw [mergeFilters_eq (mergeFilters fs), mergeFilters_others, mergeFilters_requestSet,
    mergeFilters_responseSet, mergeFilters_rewrites, ← mergeFilters_eq]

/-! ### What is in a merge -/

theorem mergeFilters_redirects :
    (mergeFilters fs).countP HttpRouteFilter.isRedirect = fs.countP HttpRouteFilter.isRedirect := by
  rw [← funext HttpRouteFilter.isOther_eq, List.countP_eq_length_filter, mergeFilters_others,
    ← List.countP_eq_length_filter]

theorem headerFilters_count (modify : List HeaderSet → HttpRouteFilter) {made : FilterType}
    (hmade : ∀ set, (modify set).type = made) (set : List HeaderSet) (type : FilterType) :
    (headerFilters modify set).countP (fun f => f.type == type) ≤ if made = type then 1 else 0 := by
  unfold headerFilters
  split
  · simp
  · by_cases h : made = type <;> simp [hmade, h]

theorem rewriteFilters_count (type : FilterType) :
    (rewriteFilters fs).countP (fun f => f.type == type) ≤
      if FilterType.urlRewrite = type then 1 else 0 := by
  unfold rewriteFilters
  split
  · by_cases h : FilterType.urlRewrite = type <;> simp [rewriteFilter, HttpRouteFilter.ofType, h]
  · simp

theorem mergeFilters_once {type : FilterType} (htype : type ≠ .requestRedirect) :
    (mergeFilters fs).countP (fun f => f.type == type) ≤ 1 := by
  have hout : (fs.filter HttpRouteFilter.isOther).countP (fun f => f.type == type) = 0 := by
    rw [List.countP_eq_zero]
    intro f hf heq
    have hother := (List.mem_filter.mp hf).2
    simp only [HttpRouteFilter.isOther_eq, HttpRouteFilter.isRedirect, beq_iff_eq] at hother heq
    exact htype (heq.symm.trans hother)
  have hreq := headerFilters_count requestHeaderFilter (fun _ => rfl)
    (fs.flatMap HttpRouteFilter.requestSet) type
  have hresp := headerFilters_count responseHeaderFilter (fun _ => rfl)
    (fs.flatMap HttpRouteFilter.responseSet) type
  have hrewrite := rewriteFilters_count fs type
  rw [mergeFilters_eq, List.countP_append, List.countP_append, List.countP_append, hout]
  cases type <;> simp only [reduceCtorEq, if_true, if_false] at hreq hresp hrewrite <;> omega

theorem mem_headerFilters {modify : List HeaderSet → HttpRouteFilter} {set : List HeaderSet}
    {f : HttpRouteFilter} : f ∈ headerFilters modify set ↔ set ≠ [] ∧ f = modify set := by
  cases set <;> simp [headerFilters]

theorem mem_rewriteFilters {fs : List HttpRouteFilter} {f : HttpRouteFilter} :
    f ∈ rewriteFilters fs ↔
      fs.any HttpRouteFilter.isRewrite = true ∧ f = rewriteFilter (mergedRewrite fs) := by
  unfold rewriteFilters
  cases fs.any HttpRouteFilter.isRewrite <;> simp

theorem mem_mergeFilters {fs : List HttpRouteFilter} {f : HttpRouteFilter} :
    f ∈ mergeFilters fs ↔ (f ∈ fs ∧ f.type = .requestRedirect) ∨
      (fs.flatMap HttpRouteFilter.requestSet ≠ [] ∧
        f = requestHeaderFilter (fs.flatMap HttpRouteFilter.requestSet)) ∨
      (fs.flatMap HttpRouteFilter.responseSet ≠ [] ∧
        f = responseHeaderFilter (fs.flatMap HttpRouteFilter.responseSet)) ∨
      (fs.any HttpRouteFilter.isRewrite = true ∧ f = rewriteFilter (mergedRewrite fs)) := by
  have hother : f.isOther = true ↔ f.type = .requestRedirect := by
    rw [HttpRouteFilter.isOther_eq]
    simp [HttpRouteFilter.isRedirect]
  rw [mergeFilters_eq, List.mem_append, List.mem_append, List.mem_append, List.mem_filter, hother,
    mem_headerFilters, mem_headerFilters, mem_rewriteFilters, or_assoc, or_assoc]

theorem exists_mergeFilters_rewrite {fs : List HttpRouteFilter} :
    (∃ g ∈ mergeFilters fs, g.type = .urlRewrite) ↔ fs.any HttpRouteFilter.isRewrite = true := by
  constructor
  · rintro ⟨g, hg, htype⟩
    rcases mem_mergeFilters.mp hg with ⟨_, hredirect⟩ | ⟨_, rfl⟩ | ⟨_, rfl⟩ | ⟨hany, _⟩
    · rw [hredirect] at htype
      cases htype
    · cases htype
    · cases htype
    · exact hany
  · intro hany
    exact ⟨_, mem_mergeFilters.mpr (Or.inr (Or.inr (Or.inr ⟨hany, rfl⟩))), rfl⟩

theorem mem_mergeFilters_request {fs : List HttpRouteFilter} {f : HttpRouteFilter} :
    f ∈ mergeFilters fs ∧ f.type = .requestHeaderModifier ↔
      fs.flatMap HttpRouteFilter.requestSet ≠ [] ∧
        f = requestHeaderFilter (fs.flatMap HttpRouteFilter.requestSet) := by
  rw [mem_mergeFilters]
  constructor
  · rintro ⟨⟨_, hredirect⟩ | hreq | ⟨_, rfl⟩ | ⟨_, rfl⟩, htype⟩
    · rw [hredirect] at htype
      cases htype
    · exact hreq
    · cases htype
    · cases htype
  · intro hreq
    exact ⟨Or.inr (Or.inl hreq), by rw [hreq.2]; rfl⟩

theorem mem_mergeFilters_response {fs : List HttpRouteFilter} {f : HttpRouteFilter} :
    f ∈ mergeFilters fs ∧ f.type = .responseHeaderModifier ↔
      fs.flatMap HttpRouteFilter.responseSet ≠ [] ∧
        f = responseHeaderFilter (fs.flatMap HttpRouteFilter.responseSet) := by
  rw [mem_mergeFilters]
  constructor
  · rintro ⟨⟨_, hredirect⟩ | ⟨_, rfl⟩ | hresp | ⟨_, rfl⟩, htype⟩
    · rw [hredirect] at htype
      cases htype
    · cases htype
    · exact hresp
    · cases htype
  · intro hresp
    exact ⟨Or.inr (Or.inr (Or.inl hresp)), by rw [hresp.2]; rfl⟩

/-- A merge rewrites the path as the first of its rewrites with a path does. -/
theorem exists_mergeFilters_path {path : UrlRewritePath} :
    (∃ g ∈ mergeFilters fs, g.rewritePath = some path) ↔
      fs.findSome? HttpRouteFilter.rewritePath = some path := by
  have hfirst : fs.findSome? HttpRouteFilter.rewritePath = (mergedRewrite fs).path :=
    List.head?_filterMap.symm
  rw [← List.mem_filterMap, filterMap_merged fs HttpRouteFilter.rewritePath fun f hf => if_neg hf,
    hfirst, rewriteFilters]
  cases h : fs.any HttpRouteFilter.isRewrite with
  | false => simp [mergedRewrite_none h]
  | true =>
    have hread : (rewriteFilter (mergedRewrite fs)).rewritePath = (mergedRewrite fs).path := rfl
    simp [hread]

/-! ## The headers that middlewares set -/

/-- The configuration of a middleware of this kind, which its first member names. -/
def bodyOf (kind : String) (mw : Middleware) : Option Value :=
  (mw.asObject.bind fun obj => obj.toList.head?).bind fun member =>
    if member.1 = kind then some member.2 else none

theorem bodyOf_eq {kind kind' : String} {mw : Middleware} {body : Value}
    (h : (mw.asObject.bind fun obj => obj.toList.head?) = some (kind', body)) :
    bodyOf kind mw = if kind' = kind then some body else none := by
  unfold bodyOf
  rw [h]
  rfl

/-- The request headers that a `headers` middleware sets, Host apart. -/
def requestSettings (mw : Middleware) : List HeaderSet :=
  (bodyOf "headers" mw).elim [] fun body =>
    ((stringMembers body "customRequestHeaders").filter fun h => !isHostHeader h.1).map fun h =>
      HeaderSet.mk h.1 h.2

def responseSettings (mw : Middleware) : List HeaderSet :=
  (bodyOf "headers" mw).elim [] fun body =>
    (stringMembers body "customResponseHeaders").map fun h => HeaderSet.mk h.1 h.2

theorem hostRewrites_no_sets {read : HttpRouteFilter → List HeaderSet} (hread : ReadsSets read)
    (hosts : List (String × String)) :
    (hosts.map fun h => rewriteFilter ⟨some h.2, none⟩).flatMap read = [] := by
  rw [List.flatMap_map]
  exact List.flatMap_eq_nil_iff.mpr fun h _ => hread.rewrite _

theorem translateHeaders_eq (body : Value) : translateHeaders body =
    (((stringMembers body "customRequestHeaders").filter fun h => isHostHeader h.1).map fun h =>
        rewriteFilter ⟨some h.2, none⟩) ++
      headerFilters requestHeaderFilter (((stringMembers body "customRequestHeaders").filter
        fun h => !isHostHeader h.1).map fun h => HeaderSet.mk h.1 h.2) ++
      headerFilters responseHeaderFilter
        ((stringMembers body "customResponseHeaders").map fun h => HeaderSet.mk h.1 h.2) := rfl

theorem translateHeaders_sets (body : Value) :
    (translateHeaders body).flatMap HttpRouteFilter.requestSet =
      ((stringMembers body "customRequestHeaders").filter fun h => !isHostHeader h.1).map
        (fun h => HeaderSet.mk h.1 h.2) ∧
    (translateHeaders body).flatMap HttpRouteFilter.responseSet =
      (stringMembers body "customResponseHeaders").map fun h => HeaderSet.mk h.1 h.2 := by
  rw [translateHeaders_eq]
  constructor
  · rw [List.flatMap_append, List.flatMap_append, hostRewrites_no_sets requestSet_reads,
      headerFilters_sets _ _ _ fun _ => rfl, headerFilters_no_sets _ _ _ fun _ => rfl]
    simp
  · rw [List.flatMap_append, List.flatMap_append, hostRewrites_no_sets responseSet_reads,
      headerFilters_no_sets _ _ _ fun _ => rfl, headerFilters_sets _ _ _ fun _ => rfl]
    simp

theorem translateRedirectScheme_type {body : Value} {f : HttpRouteFilter}
    (h : translateRedirectScheme body = some f) : f.type = .requestRedirect := by
  unfold translateRedirectScheme at h
  cases hmember : body.get "scheme" with
  | none => simp [hmember] at h
  | some member =>
    cases hscheme : member.asStr with
    | none => simp [hmember, hscheme] at h
    | some scheme =>
      simp only [hmember, hscheme, Option.bind_eq_bind, Option.bind_some] at h
      by_cases hhttp : scheme = "http"
      · simp only [hhttp, if_true] at h
        rw [← Option.some.inj h]
        rfl
      · by_cases hhttps : scheme = "https"
        · simp only [hhttps, if_true] at h
          rw [← Option.some.inj h]
          rfl
        · simp [hhttp, hhttps] at h

theorem translateAddPrefix_rewrite {body : Value} {f : HttpRouteFilter}
    (h : translateAddPrefix body = some f) : ∃ rewrite, f = rewriteFilter rewrite := by
  simp only [translateAddPrefix, Option.bind_eq_bind, Option.bind_eq_some_iff] at h
  obtain ⟨_, _, h⟩ := h
  exact ⟨_, (Option.some.inj h).symm⟩

theorem translateReplacePath_rewrite {body : Value} {f : HttpRouteFilter}
    (h : translateReplacePath body = some f) : ∃ rewrite, f = rewriteFilter rewrite := by
  simp only [translateReplacePath, Option.bind_eq_bind, Option.bind_eq_some_iff] at h
  obtain ⟨_, _, h⟩ := h
  exact ⟨_, (Option.some.inj h).symm⟩

theorem translateStripPrefix_rewrite {body : Value} {f : HttpRouteFilter}
    (h : translateStripPrefix body = some f) : ∃ rewrite, f = rewriteFilter rewrite := by
  simp only [translateStripPrefix, Option.bind_eq_bind, Option.bind_eq_some_iff] at h
  obtain ⟨_, _, _, _, h⟩ := h
  exact ⟨_, (Option.some.inj h).symm⟩

theorem translate_redirect_or_rewrite {mw : Middleware} (h : bodyOf "headers" mw = none)
    {f : HttpRouteFilter} (hf : f ∈ translate mw) :
    f.type = .requestRedirect ∨ ∃ rewrite, f = rewriteFilter rewrite := by
  unfold translate at hf
  cases hmember : mw.asObject.bind fun obj => obj.toList.head? with
  | none => simp [hmember] at hf
  | some member =>
    obtain ⟨kind, body⟩ := member
    rw [bodyOf_eq hmember] at h
    have hkind : kind ≠ "headers" := fun heq => by simp [heq] at h
    simp only [hmember, hkind, if_false] at hf
    split at hf
    · exact Or.inl (translateRedirectScheme_type (Option.mem_toList.mp hf))
    · split at hf
      · exact Or.inr (translateAddPrefix_rewrite (Option.mem_toList.mp hf))
      · split at hf
        · exact Or.inr (translateReplacePath_rewrite (Option.mem_toList.mp hf))
        · split at hf
          · exact Or.inr (translateStripPrefix_rewrite (Option.mem_toList.mp hf))
          · cases hf

/-- Only `headers` middlewares set headers. -/
theorem translate_no_sets {read : HttpRouteFilter → List HeaderSet} (hread : ReadsSets read)
    {mw : Middleware} (h : bodyOf "headers" mw = none) : (translate mw).flatMap read = [] := by
  rw [List.flatMap_eq_nil_iff]
  intro f hf
  obtain hredirect | ⟨rewrite, rfl⟩ := translate_redirect_or_rewrite h hf
  · exact hread.redirect f hredirect
  · exact hread.rewrite rewrite

theorem translate_headers_eq {mw : Middleware} {body : Value} (h : bodyOf "headers" mw = some body) :
    translate mw = translateHeaders body := by
  unfold translate
  cases hmember : mw.asObject.bind fun obj => obj.toList.head? with
  | none => simp [bodyOf, hmember] at h
  | some member =>
    obtain ⟨kind, body'⟩ := member
    rw [bodyOf_eq hmember] at h
    split at h
    · next hkind => simp [hkind, Option.some.inj h]
    · cases h

theorem translate_sets (mw : Middleware) :
    (translate mw).flatMap HttpRouteFilter.requestSet = requestSettings mw ∧
      (translate mw).flatMap HttpRouteFilter.responseSet = responseSettings mw := by
  unfold requestSettings responseSettings
  cases h : bodyOf "headers" mw with
  | none => exact ⟨translate_no_sets requestSet_reads h, translate_no_sets responseSet_reads h⟩
  | some body =>
    rw [translate_headers_eq h]
    exact translateHeaders_sets body

theorem translateAll_sets (mws : List Middleware) :
    (mws.flatMap translate).flatMap HttpRouteFilter.requestSet = mws.flatMap requestSettings ∧
      (mws.flatMap translate).flatMap HttpRouteFilter.responseSet = mws.flatMap responseSettings := by
  rw [List.flatMap_assoc, List.flatMap_assoc]
  constructor
  · exact congrArg (List.flatMap · mws) (funext fun mw => (translate_sets mw).1)
  · exact congrArg (List.flatMap · mws) (funext fun mw => (translate_sets mw).2)

theorem requestSettings_no_host {mw : Middleware} {h : HeaderSet} (hmem : h ∈ requestSettings mw) :
    isHostHeader h.name = false := by
  unfold requestSettings at hmem
  cases hbody : bodyOf "headers" mw with
  | none => simp [hbody] at hmem
  | some body =>
    rw [hbody, Option.elim_some] at hmem
    obtain ⟨member, hmember, rfl⟩ := List.mem_map.mp hmem
    simpa using (List.mem_filter.mp hmember).2

/-- The existing middlewares among the named ones, in order. -/
def namedMiddlewares (names : List String) (middlewares : Map Middleware) : List Middleware :=
  names.filterMap fun name => middlewares[name]?

theorem buildFilters_named (names : List String) (middlewares : Map Middleware) :
    buildFilters names middlewares =
      mergeFilters ((namedMiddlewares names middlewares).flatMap translate) := by
  unfold buildFilters namedMiddlewares
  congr 1
  induction names with
  | nil => rfl
  | cons name names ih => cases hmw : middlewares[name]? <;> simp [hmw, ih]

/-- The merge keeps the filters of other types in order, before one request and one response header
filter with the concatenated set lists and one rewrite with the last hostname and the first path. A
second merge changes nothing, and no filter built for a router sets Host. -/
theorem merged_filters (fs : List HttpRouteFilter) (names : List String)
    (middlewares : Map Middleware) :
    mergeFilters fs = fs.filter HttpRouteFilter.isOther ++
      headerFilters requestHeaderFilter (fs.flatMap HttpRouteFilter.requestSet) ++
      headerFilters responseHeaderFilter (fs.flatMap HttpRouteFilter.responseSet) ++
      rewriteFilters fs ∧
    (∀ type : FilterType, type ≠ .requestRedirect →
      (mergeFilters fs).countP (fun f => f.type == type) ≤ 1) ∧
    mergeFilters (mergeFilters fs) = mergeFilters fs ∧
    (∀ f ∈ buildFilters names middlewares, f.type = .requestHeaderModifier →
      ∀ h ∈ modifierSet f.requestHeaderModifier, isHostHeader h.name = false) := by
  refine ⟨mergeFilters_eq fs, ?_, mergeFilters_idem fs, ?_⟩
  · exact fun type htype => mergeFilters_once fs htype
  · intro f hf htype h hh
    rw [buildFilters_named] at hf
    rw [(mem_mergeFilters_request.mp ⟨hf, htype⟩).2] at hh
    change h ∈ (_ : List HttpRouteFilter).flatMap HttpRouteFilter.requestSet at hh
    rw [(translateAll_sets _).1] at hh
    obtain ⟨mw, _, hset⟩ := List.mem_flatMap.mp hh
    exact requestSettings_no_host hset

end PangolinGateway
