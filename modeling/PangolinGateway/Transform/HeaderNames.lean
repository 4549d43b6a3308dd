import PangolinGateway.Transform.MergeFilters
import Mathlib.Data.List.Nodup

/-! # The names in a header filter

The set list of a header filter is a list map keyed by the name, and the API server refuses a list
with two entries of one key. -/
namespace PangolinGateway
set_option autoImplicit false

/-- The name with letter case dropped. -/
def headerKey (h : HeaderSet) : List Char := h.name.toList.map Str.toAsciiLowercase

/-- Each name is set once, to what the last of the settings of that name says. -/
structure KeepsLast (settings set : List HeaderSet) : Prop where
  distinct : (set.map headerKey).Nodup
  last : ∀ h ∈ set, ∀ s ∈ (settings.filter fun s => headerKey s = headerKey h).getLast?,
    h.value = s.value

theorem keepsLast_self {settings : List HeaderSet} :
    KeepsLast settings settings ↔ (settings.map headerKey).Nodup := by
  constructor
  · exact KeepsLast.distinct
  · intro hnodup
    refine ⟨hnodup, ?_⟩
    intro h hh s hs
    have hmem := List.mem_filter.mp (List.mem_of_getLast? hs)
    have hkey : headerKey s = headerKey h := by simpa using hmem.2
    rw [List.inj_on_of_nodup_map hnodup hmem.1 hh hkey]

section Filters
variable (names : List String) (middlewares : Map Middleware)

/-- The request headers that the named middlewares set, in order. -/
def requestHeaders : List HeaderSet := (namedMiddlewares names middlewares).flatMap requestSettings

def responseHeaders : List HeaderSet := (namedMiddlewares names middlewares).flatMap responseSettings

theorem mem_buildFilters_request {f : HttpRouteFilter} :
    f ∈ buildFilters names middlewares ∧ f.type = .requestHeaderModifier ↔
      requestHeaders names middlewares ≠ [] ∧
        f = requestHeaderFilter (requestHeaders names middlewares) := by
  rw [buildFilters_named, mem_mergeFilters_request, (translateAll_sets _).1, requestHeaders]

theorem mem_buildFilters_response {f : HttpRouteFilter} :
    f ∈ buildFilters names middlewares ∧ f.type = .responseHeaderModifier ↔
      responseHeaders names middlewares ≠ [] ∧
        f = responseHeaderFilter (responseHeaders names middlewares) := by
  rw [buildFilters_named, mem_mergeFilters_response, (translateAll_sets _).2, responseHeaders]

end Filters

/-- A filter that is dropped when it sets nothing keeps the last settings exactly when the names
differ. -/
theorem keepsLast_filters_iff {filters : List HttpRouteFilter} {type : FilterType}
    (read : HttpRouteFilter → List HeaderSet) {modify : List HeaderSet → HttpRouteFilter}
    {settings : List HeaderSet} (hread : read (modify settings) = settings)
    (hmem : ∀ f, f ∈ filters ∧ f.type = type ↔ settings ≠ [] ∧ f = modify settings) :
    (∀ f ∈ filters, f.type = type → KeepsLast settings (read f)) ↔
      (settings.map headerKey).Nodup := by
  rw [← keepsLast_self]
  constructor
  · intro h
    by_cases hempty : settings = []
    · rw [hempty, keepsLast_self]
      exact List.nodup_nil
    · obtain ⟨hf, htype⟩ := (hmem _).mpr ⟨hempty, rfl⟩
      simpa only [hread] using h _ hf htype
  · intro h f hf htype
    rw [((hmem f).mp ⟨hf, htype⟩).2, hread]
    exact h

/-- Each header filter of a router keeps the last setting of every name exactly when no name is set
twice. -/
theorem header_filters_keep_last (router : Router) (middlewares : Map Middleware) :
    (∀ f ∈ buildFilters router.middlewares middlewares,
      (f.type = .requestHeaderModifier → KeepsLast (requestHeaders router.middlewares middlewares)
        (modifierSet f.requestHeaderModifier)) ∧
      (f.type = .responseHeaderModifier → KeepsLast (responseHeaders router.middlewares middlewares)
        (modifierSet f.responseHeaderModifier))) ↔
      ((requestHeaders router.middlewares middlewares).map headerKey).Nodup ∧
        ((responseHeaders router.middlewares middlewares).map headerKey).Nodup := by
  rw [← keepsLast_filters_iff (fun f => modifierSet f.requestHeaderModifier) rfl
      fun f => mem_buildFilters_request router.middlewares middlewares,
    ← keepsLast_filters_iff (fun f => modifierSet f.responseHeaderModifier) rfl
      fun f => mem_buildFilters_response router.middlewares middlewares]
  constructor
  · intro h
    exact ⟨fun f hf => (h f hf).1, fun f hf => (h f hf).2⟩
  · intro h f hf
    exact ⟨h.1 f hf, h.2 f hf⟩

def tenantHeader (value : String) : Middleware :=
  .object [("headers", .object [("customRequestHeaders", .object [("X-Tenant", .string value)])])]

/-- Two middlewares that set one name leave two entries. -/
theorem header_set_twice :
    ¬ ∀ (router : Router) (middlewares : Map Middleware),
      ∀ f ∈ buildFilters router.middlewares middlewares,
        (f.type = .requestHeaderModifier → KeepsLast (requestHeaders router.middlewares middlewares)
          (modifierSet f.requestHeaderModifier)) ∧
        (f.type = .responseHeaderModifier → KeepsLast (responseHeaders router.middlewares middlewares)
          (modifierSet f.responseHeaderModifier)) := by
  intro h
  let router : Router := ⟨"Host(`a.b`)", "app", ["first", "second"], ["http"], none, none⟩
  let middlewares : Map Middleware :=
    Std.ExtTreeMap.ofList [("first", tenantHeader "blue"), ("second", tenantHeader "green")]
  have htwice : requestHeaders router.middlewares middlewares =
      [⟨"X-Tenant", "blue"⟩, ⟨"X-Tenant", "green"⟩] := by decide
  obtain ⟨hf, htype⟩ := (mem_buildFilters_request router.middlewares middlewares).mpr
    ⟨by rw [htwice]; exact List.cons_ne_nil _ _, rfl⟩
  have hdistinct := ((h router middlewares _ hf).1 htype).distinct
  change ((requestHeaders router.middlewares middlewares).map headerKey).Nodup at hdistinct
  rw [htwice] at hdistinct
  revert hdistinct
  decide

end PangolinGateway
