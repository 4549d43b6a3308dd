import PangolinGateway.Transform.ListenerAttach
import PangolinGateway.Transform.Written

/-! # The parent of every route

The three route builders write the configured ListenerSet name as it is; the ListenerSet itself is
emitted under its sanitised form. -/
namespace PangolinGateway
set_option autoImplicit false

/-- Every parentRef of a route refers to the ListenerSet of the same desired set. -/
def ParentsEmitted (desired : Desired) : Prop :=
  ∀ (k : Kind) (name : String) (route : k.Obj), desired.find k name = some route →
    ∀ ref ∈ k.parentRefs route, ∃ (lsName : String) (ls : ListenerSet),
      desired.listenerSets[lsName]? = some ls ∧ ref.RefersTo ls

variable [DefaultHasher] [UrlCrate]

/-- Some router of some block is translated to a route. -/
def AnyRouted (cfg : Config) (dynConfig : TraefikDynamicConfig) : Prop :=
  ∃ b routerName service entry, RoutesTo cfg dynConfig b routerName service entry

theorem isLabel_of_parentsEmitted {cfg : Config} {dynConfig : TraefikDynamicConfig}
    (h : ParentsEmitted (buildDesired cfg dynConfig)) (hany : AnyRouted cfg dynConfig) :
    IsLabel cfg.listenerSetName := by
  obtain ⟨b, routerName, service, entry, hroute⟩ := hany
  have hroute' := hroute.routeOf
  obtain ⟨route, hfind⟩ := find_buildDesired_written (.route hroute) hroute'.name
  -- the object under this name may be that of a later router, whose references are the same
  obtain ⟨hwritten, _⟩ := find_buildDesired_origin hfind
  obtain ⟨_, _, _, hlast⟩ := hwritten.of_isRoute hroute.isRoute
  obtain ⟨ref, href⟩ := List.exists_mem_of_ne_nil _ hlast.routeOf.attached
  obtain ⟨lsName, ls, hlookup, _, _, hname, _⟩ := h entry.1 _ route hfind ref href
  obtain ⟨_, rfl⟩ := listenerSets_iff.mp hlookup
  rw [(hlast.routeOf.parents ref href).2.2.1] at hname
  exact (dnsLabel_eq_self_iff _).mp (Option.some.inj hname)

/-- The parents resolve exactly when there is no route, or the configured name is a DNS label. -/
theorem parentsEmitted_iff (cfg : Config) (dynConfig : TraefikDynamicConfig) :
    ParentsEmitted (buildDesired cfg dynConfig) ↔
      (AnyRouted cfg dynConfig → IsLabel cfg.listenerSetName) := by
  constructor
  · exact isLabel_of_parentsEmitted
  · intro h k name route hfind ref href
    obtain ⟨hwritten, _⟩ := find_buildDesired_origin hfind
    have hkind := Kind.isRoute_of_parentRefs (List.ne_nil_of_mem href)
    obtain ⟨b, routerName, service, hroute⟩ := hwritten.of_isRoute hkind
    have hlabel := (dnsLabel_eq_self_iff _).mpr (h ⟨b, routerName, service, _, hroute⟩)
    obtain ⟨hgroup, hrefKind, hname, hns⟩ := hroute.routeOf.parents ref href
    refine ⟨dnsLabel cfg.listenerSetName, emittedListenerSet cfg dynConfig,
      listenerSets_iff.mpr ⟨rfl, rfl⟩, hgroup, hrefKind, ?_, ?_⟩
    · rw [hname]
      exact congrArg some hlabel
    · rw [hns]
      rfl

omit [DefaultHasher] [UrlCrate] in
/-- The sample with an upper-case letter in the name of the ListenerSet. -/
theorem upper_case_listenerSet : ¬ParentsEmitted (@buildDesired sampleHasher sampleUrlCrate
    { sampleConfig with listenerSetName := "Pangolin" } (sampleDynConfig sampleRouters)) := by
  let _ := sampleHasher
  let _ := sampleUrlCrate
  intro h
  have hroute : (buildRoute { sampleConfig with listenerSetName := "Pangolin" }
      (sampleDynConfig sampleRouters) (backendIndex { sampleConfig with listenerSetName := "Pangolin" }
        (sampleDynConfig sampleRouters)) "app"
      ⟨"Host(`a.b`)", "app", ["badger"], ["https"], none, none⟩).isSome = true := by decide
  obtain ⟨route, hroute⟩ := Option.isSome_iff_exists.mp hroute
  have hlabel := isLabel_of_parentsEmitted h ⟨.http, "app", _, _, .http rfl hroute⟩
  exact absurd ((dnsLabel_eq_self_iff _).mpr hlabel) (by decide)

end PangolinGateway
