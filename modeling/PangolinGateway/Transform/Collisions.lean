import PangolinGateway.Transform.Closed

/-! # Names that collide after sanitising

Distinct routers and services become distinct map keys exactly when their prefixed names do not
clash as DNS labels; a later insert under the same key overwrites an earlier one. -/
namespace PangolinGateway
set_option autoImplicit false

/-- The kind and the name that an object is stored under. -/
def Entry.key (entry : Entry) : Kind × Option String :=
  (entry.1, (entry.1.metadata entry.2).name)

variable [DefaultHasher]

def RouterClash (b : Block) (routerName routerName' : String) : Prop :=
  NamesClash (b.routePrefix ++ "-" ++ routerName) (b.routePrefix ++ "-" ++ routerName')

/-- The objects of kind `k` of two services have the same name. -/
def ServiceClash (k : Kind) (b : Block) (name : String) (b' : Block) (name' : String) : Prop :=
  ∃ base, k.backendPrefix = some base ∧
    NamesClash (namePrefix base b.infixTag ++ "-" ++ name)
      (namePrefix base b'.infixTag ++ "-" ++ name')

variable [UrlCrate]

/-- The router of the block is translated. -/
def Routed (cfg : Config) (dynConfig : TraefikDynamicConfig) (b : Block) (routerName : String) :
    Prop :=
  ∃ service entry, RoutesTo cfg dynConfig b routerName service entry

/-- The object is synthesised for the service of the block. -/
def Synthesises (cfg : Config) (dynConfig : TraefikDynamicConfig) (b : Block) (name : String)
    (entry : Entry) : Prop :=
  ∃ backend d, serviceBackend cfg dynConfig b name = some (backend, d) ∧ entry ∈ d.entries

def SynthesisesKind (cfg : Config) (dynConfig : TraefikDynamicConfig) (b : Block) (name : String)
    (k : Kind) : Prop :=
  ∃ obj : k.Obj, Synthesises cfg dynConfig b name ⟨k, obj⟩

/-! ## Keys of routes -/

theorem RoutesTo.unique {cfg : Config} {dynConfig : TraefikDynamicConfig} {b : Block}
    {routerName service service' : String} {entry entry' : Entry}
    (h : RoutesTo cfg dynConfig b routerName service entry)
    (h' : RoutesTo cfg dynConfig b routerName service' entry') :
    service = service' ∧ entry = entry' := by
  cases h with
  | http hrouter hroute =>
    cases h' with
    | http hrouter' hroute' =>
      obtain rfl := Option.some.inj (hrouter.symm.trans hrouter')
      obtain rfl := Option.some.inj (hroute.symm.trans hroute')
      exact ⟨rfl, rfl⟩
  | @l4 proto _ _ _ _ hvisit hroute =>
    cases h' with
    | l4 hvisit' hroute' =>
      have hnodup := Map.toList_keys_nodup (l4Block cfg dynConfig proto).routers
      obtain ⟨rfl, heq⟩ := Prod.mk.inj (WriteLog.visits_unique hnodup hvisit hvisit' rfl)
      obtain ⟨_, rfl⟩ := Prod.mk.inj heq
      obtain rfl := Option.some.inj (hroute.symm.trans hroute')
      exact ⟨rfl, rfl⟩

theorem routes_key_iff {cfg : Config} {dynConfig : TraefikDynamicConfig} {b b' : Block}
    {routerName routerName' service service' : String} {entry entry' : Entry}
    (h : RoutesTo cfg dynConfig b routerName service entry)
    (h' : RoutesTo cfg dynConfig b' routerName' service' entry') :
    entry.key = entry'.key ↔ b = b' ∧ RouterClash b routerName routerName' := by
  rw [Entry.key, Entry.key, Prod.mk.injEq, h.routeOf.name, h'.routeOf.name, h.routeOf.kind,
    h'.routeOf.kind, Option.some.injEq, RouterClash, ← dnsLabel_eq_iff]
  constructor
  · rintro ⟨hkind, hname⟩
    obtain rfl := Block.routeKind_injective hkind
    exact ⟨rfl, hname⟩
  · rintro ⟨rfl, hname⟩
    exact ⟨rfl, hname⟩

theorem routed_of_translated {cfg : Config} {dynConfig : TraefikDynamicConfig}
    {routerName : String} {router : Router} (h : Translated cfg dynConfig routerName router) :
    Routed cfg dynConfig .http routerName := by
  obtain ⟨route, hroute⟩ := Option.isSome_iff_exists.mp h.2
  exact ⟨router.service, _, .http h.1 hroute⟩

/-! ## Keys of synthesised objects -/

theorem synthesises_key_iff {cfg : Config} {dynConfig : TraefikDynamicConfig} {b b' : Block}
    {name name' : String} {entry entry' : Entry} (h : Synthesises cfg dynConfig b name entry)
    (h' : Synthesises cfg dynConfig b' name' entry') :
    entry.key = entry'.key ↔ entry.1 = entry'.1 ∧ ServiceClash entry.1 b name b' name' := by
  obtain ⟨backend, d, hservice, hmem⟩ := h
  obtain ⟨backend', d', hservice', hmem'⟩ := h'
  obtain ⟨base, hbase, hname⟩ := ((serviceBackend_emits hservice).object hmem).name
  obtain ⟨base', hbase', hname'⟩ := ((serviceBackend_emits hservice').object hmem').name
  rw [Entry.key, Entry.key, Prod.mk.injEq, hname, hname', Option.some.injEq]
  apply and_congr_right
  intro hkind
  have hsame : base = base' := Option.some.inj (by rw [← hbase, ← hbase', hkind])
  subst hsame
  rw [ServiceClash, backendName, backendName, prefixedLabel, prefixedLabel, dnsLabel_eq_iff]
  constructor
  · intro hclash
    exact ⟨base, hbase, hclash⟩
  · rintro ⟨base', hbase', hclash⟩
    obtain rfl : base = base' := Option.some.inj (hbase.symm.trans hbase')
    exact hclash

omit [UrlCrate] in
/-- A service has at most one object of each kind. -/
theorem Emits.kinds_nodup {cfg : Config} {pangName infx : String} {backend : ResolvedBackend}
    {entries : List Entry} (h : Emits cfg pangName infx backend entries) :
    (entries.map Sigma.fst).Nodup := by
  cases h with
  | synthesized svc slice policies port _ _ hpolicies =>
    rcases hpolicies with rfl | ⟨policy, _, rfl⟩ <;> simp
  | envoy => simp
  | direct service ns policies port hpolicies =>
    rcases hpolicies with rfl | ⟨policy, _, rfl⟩ <;> simp

theorem Synthesises.unique {cfg : Config} {dynConfig : TraefikDynamicConfig} {b : Block}
    {name : String} {k : Kind} {obj obj' : k.Obj} (h : Synthesises cfg dynConfig b name ⟨k, obj⟩)
    (h' : Synthesises cfg dynConfig b name ⟨k, obj'⟩) : obj = obj' := by
  obtain ⟨backend, d, hservice, hmem⟩ := h
  obtain ⟨backend', d', hservice', hmem'⟩ := h'
  obtain ⟨rfl, rfl⟩ := Prod.mk.inj (Option.some.inj (hservice.symm.trans hservice'))
  have heq := List.inj_on_of_nodup_map (serviceBackend_emits hservice).kinds_nodup hmem hmem' rfl
  exact eq_of_heq (Sigma.mk.inj heq).2

theorem written_synthesises {cfg : Config} {dynConfig : TraefikDynamicConfig} {b : Block}
    {name : String} {entry : Entry} (h : Synthesises cfg dynConfig b name entry) :
    Written cfg dynConfig entry := by
  obtain ⟨backend, d, hservice, hmem⟩ := h
  exact .service hservice hmem

theorem Synthesises.named {cfg : Config} {dynConfig : TraefikDynamicConfig} {b : Block}
    {pangName : String} {entry : Entry} (h : Synthesises cfg dynConfig b pangName entry) :
    ∃ base name, entry.1.backendPrefix = some base ∧
      (entry.1.metadata entry.2).name = some name := by
  obtain ⟨backend, d, hservice, hmem⟩ := h
  obtain ⟨base, hbase, hname⟩ := ((serviceBackend_emits hservice).object hmem).name
  exact ⟨base, _, hbase, hname⟩

theorem synthesisesKind_service {cfg : Config} {dynConfig : TraefikDynamicConfig} {b : Block}
    {name : String} (h : (serviceBackend cfg dynConfig b name).any (fun made =>
      made.1.kind == "Service" && made.1.ns.isNone) = true) :
    SynthesisesKind cfg dynConfig b name .service := by
  obtain ⟨⟨backend, d⟩, hservice, hmade⟩ := (Option.any_eq_true _ _).mp h
  simp only [Bool.and_eq_true, beq_iff_eq, Option.isNone_iff_eq_none] at hmade
  obtain ⟨svc, hmem, _⟩ := (serviceBackend_emits hservice).service hmade.1 hmade.2
  exact ⟨svc, backend, d, hservice, hmem⟩

/-! ## Nothing is overwritten -/

/-- No two routers of a block, and no two services with an object of one kind, clash. -/
structure NamesApart (cfg : Config) (dynConfig : TraefikDynamicConfig) : Prop where
  routers : ∀ b routerName routerName', Routed cfg dynConfig b routerName →
    Routed cfg dynConfig b routerName' → routerName ≠ routerName' →
      ¬RouterClash b routerName routerName'
  services : ∀ k b name b' name', SynthesisesKind cfg dynConfig b name k →
    SynthesisesKind cfg dynConfig b' name' k → (b, name) ≠ (b', name') →
      ¬ServiceClash k b name b' name'

/-- The reference finds an object among those made, and a Service finds no other endpoints. -/
structure LeadsTo (desired : Desired) (ref : RouteBackendRef) (made : List Entry) : Prop where
  backend : ref.kind = some "Backend" → ∃ be : Backend,
    desired.envoyBackends[ref.name]? = some be ∧ (⟨.envoyBackend, be⟩ : Entry) ∈ made
  service : ref.kind = some "Service" → ref.ns = none → ∃ svc : Service,
    desired.services[ref.name]? = some svc ∧ (⟨.service, svc⟩ : Entry) ∈ made
  endpoints : ref.kind = some "Service" → ref.ns = none → ∃ (name : String) (slice : EndpointSlice),
    desired.endpointSlices[name]? = some slice ∧
      slice.metadata.label serviceNameLabel = some ref.name
  ownEndpoints : ref.kind = some "Service" → ref.ns = none →
    ∀ (name : String) (slice : EndpointSlice), desired.endpointSlices[name]? = some slice →
      slice.metadata.label serviceNameLabel = some ref.name → (⟨.endpointSlice, slice⟩ : Entry) ∈ made

structure NothingOverwritten (cfg : Config) (dynConfig : TraefikDynamicConfig) : Prop where
  routes : ∀ b routerName service entry routerName' service' entry',
    RoutesTo cfg dynConfig b routerName service entry →
    RoutesTo cfg dynConfig b routerName' service' entry' → routerName ≠ routerName' →
      Entry.key entry ≠ Entry.key entry'
  objects : ∀ b name entry b' name' entry', Synthesises cfg dynConfig b name entry →
    Synthesises cfg dynConfig b' name' entry' → (b, name) ≠ (b', name') →
      Entry.key entry ≠ Entry.key entry'
  kept : ∀ entry : Entry, (∃ b routerName service, RoutesTo cfg dynConfig b routerName service entry) ∨
      (∃ b name, Synthesises cfg dynConfig b name entry) →
    ∃ name, (entry.1.metadata entry.2).name = some name ∧
      (buildDesired cfg dynConfig).find entry.1 name = some entry.2
  backendRefs : ∀ b routerName service (entry : Entry),
    RoutesTo cfg dynConfig b routerName service entry → ∀ ref ∈ entry.1.backendRefs entry.2,
      ∃ backend d, serviceBackend cfg dynConfig b service = some (backend, d) ∧
        ref = backend.ref ∧ LeadsTo (buildDesired cfg dynConfig) ref d.entries

theorem namesApart_of_nothingOverwritten {cfg : Config} {dynConfig : TraefikDynamicConfig}
    (h : NothingOverwritten cfg dynConfig) : NamesApart cfg dynConfig := by
  constructor
  · rintro b routerName routerName' ⟨service, entry, hroute⟩ ⟨service', entry', hroute'⟩ hne hclash
    exact h.routes b routerName service entry routerName' service' entry' hroute hroute' hne
      ((routes_key_iff hroute hroute').mpr ⟨rfl, hclash⟩)
  · rintro k b name b' name' ⟨obj, hmade⟩ ⟨obj', hmade'⟩ hne hclash
    exact h.objects b name ⟨k, obj⟩ b' name' ⟨k, obj'⟩ hmade hmade' hne
      ((synthesises_key_iff hmade hmade').mpr ⟨rfl, hclash⟩)

namespace NamesApart
variable {cfg : Config} {dynConfig : TraefikDynamicConfig}

theorem routes (h : NamesApart cfg dynConfig) {b : Block}
    {routerName routerName' service service' : String} {entry entry' : Entry}
    (hroute : RoutesTo cfg dynConfig b routerName service entry)
    (hroute' : RoutesTo cfg dynConfig b routerName' service' entry')
    (hne : routerName ≠ routerName') : Entry.key entry ≠ Entry.key entry' := by
  intro hkey
  exact h.routers b routerName routerName' ⟨service, entry, hroute⟩ ⟨service', entry', hroute'⟩ hne
    ((routes_key_iff hroute hroute').mp hkey).2

theorem objects (h : NamesApart cfg dynConfig) {b b' : Block} {name name' : String}
    {entry entry' : Entry} (hmade : Synthesises cfg dynConfig b name entry)
    (hmade' : Synthesises cfg dynConfig b' name' entry') (hne : (b, name) ≠ (b', name')) :
    Entry.key entry ≠ Entry.key entry' := by
  intro hkey
  obtain ⟨hkind, hclash⟩ := (synthesises_key_iff hmade hmade').mp hkey
  obtain ⟨k, obj⟩ := entry
  obtain ⟨k', obj'⟩ := entry'
  obtain rfl : k = k' := hkind
  exact h.services k b name b' name' ⟨obj, hmade⟩ ⟨obj', hmade'⟩ hne hclash

theorem find_route (h : NamesApart cfg dynConfig) {b : Block} {routerName service : String}
    {k : Kind} {route : k.Obj} (hroute : RoutesTo cfg dynConfig b routerName service ⟨k, route⟩) :
    (buildDesired cfg dynConfig).find k (prefixedLabel b.routePrefix routerName) = some route := by
  apply find_buildDesired_sole (.route hroute) hroute.routeOf.name
  intro route' hwritten hname
  obtain ⟨b', routerName', service', hroute'⟩ := hwritten.of_isRoute hroute.isRoute
  have hkey : Entry.key ⟨k, route⟩ = Entry.key ⟨k, route'⟩ := by
    rw [Entry.key, Entry.key, hroute.routeOf.name, hname]
  obtain rfl : b = b' := ((routes_key_iff hroute hroute').mp hkey).1
  by_cases hsame : routerName = routerName'
  · subst hsame
    exact eq_of_heq (Sigma.mk.inj (hroute'.unique hroute).2).2
  · exact absurd hkey (h.routes hroute hroute' hsame)

theorem find_object (h : NamesApart cfg dynConfig) {b : Block} {pangName name : String}
    {k : Kind} {obj : k.Obj} (hmade : Synthesises cfg dynConfig b pangName ⟨k, obj⟩)
    (hname : (k.metadata obj).name = some name) :
    (buildDesired cfg dynConfig).find k name = some obj := by
  obtain ⟨base, _, hbase, _⟩ := hmade.named
  apply find_buildDesired_sole (written_synthesises hmade) hname
  intro obj' hwritten hname'
  obtain ⟨b', pangName', backend', d', hservice', hmem'⟩ := hwritten.of_backendPrefix hbase
  have hmade' : Synthesises cfg dynConfig b' pangName' ⟨k, obj'⟩ := ⟨backend', d', hservice', hmem'⟩
  have hkey : Entry.key ⟨k, obj⟩ = Entry.key ⟨k, obj'⟩ := by
    rw [Entry.key, Entry.key, hname, hname']
  by_cases hsame : (b, pangName) = (b', pangName')
  · obtain ⟨rfl, rfl⟩ := Prod.mk.inj hsame
    exact hmade'.unique hmade
  · exact absurd hkey (h.objects hmade hmade' hsame)

/-- A slice of the desired set that is labelled with the Service of a service was made for it. -/
theorem slice_of_label (h : NamesApart cfg dynConfig) {b : Block} {service : String}
    {backend : ResolvedBackend} {d : Desired}
    (hservice : serviceBackend cfg dynConfig b service = some (backend, d))
    (hkind : backend.kind = "Service") (hns : backend.ns = none) {name : String}
    {slice : EndpointSlice} (hfind : (buildDesired cfg dynConfig).endpointSlices[name]? = some slice)
    (hlabel : slice.metadata.label serviceNameLabel = some backend.name) :
    (⟨.endpointSlice, slice⟩ : Entry) ∈ d.entries := by
  have hfind' : (buildDesired cfg dynConfig).find .endpointSlice name = some slice := hfind
  obtain ⟨b', service', backend', d', hservice', hmem'⟩ :=
    (find_buildDesired_origin hfind').1.of_backendPrefix
      (show Kind.endpointSlice.backendPrefix = some "eps" from rfl)
  obtain ⟨hlabel', hkind', hns'⟩ := (serviceBackend_emits hservice').slice hmem'
  obtain ⟨svc, hsvc, hname⟩ := (serviceBackend_emits hservice).service hkind hns
  obtain ⟨svc', hsvc', hname'⟩ := (serviceBackend_emits hservice').service hkind' hns'
  have hmade : Synthesises cfg dynConfig b service ⟨.service, svc⟩ := ⟨backend, d, hservice, hsvc⟩
  have hmade' : Synthesises cfg dynConfig b' service' ⟨.service, svc'⟩ :=
    ⟨backend', d', hservice', hsvc'⟩
  have hkey : Entry.key ⟨.service, svc⟩ = Entry.key ⟨.service, svc'⟩ := by
    rw [hlabel] at hlabel'
    simp only [Entry.key, Kind.metadata, hname, hname', ← Option.some.inj hlabel']
  by_cases hsame : (b, service) = (b', service')
  · obtain ⟨rfl, rfl⟩ := Prod.mk.inj hsame
    obtain ⟨_, rfl⟩ := Prod.mk.inj (Option.some.inj (hservice.symm.trans hservice'))
    exact hmem'
  · exact absurd hkey (h.objects hmade hmade' hsame)

theorem leadsTo (h : NamesApart cfg dynConfig) {b : Block} {service : String}
    {backend : ResolvedBackend} {d : Desired}
    (hservice : serviceBackend cfg dynConfig b service = some (backend, d)) :
    LeadsTo (buildDesired cfg dynConfig) backend.ref d.entries where
  backend := by
    intro hkind
    obtain ⟨be, hmem, hname⟩ := (serviceBackend_emits hservice).backend (Option.some.inj hkind)
    exact ⟨be, h.find_object ⟨backend, d, hservice, hmem⟩ hname, hmem⟩
  service := by
    intro hkind hns
    obtain ⟨svc, hmem, hname⟩ := (serviceBackend_emits hservice).service (Option.some.inj hkind) hns
    exact ⟨svc, h.find_object ⟨backend, d, hservice, hmem⟩ hname, hmem⟩
  endpoints := by
    intro hkind hns
    obtain ⟨slice, hmem⟩ := (serviceBackend_emits hservice).endpoints (Option.some.inj hkind) hns
    have hmade : Synthesises cfg dynConfig b service ⟨.endpointSlice, slice⟩ :=
      ⟨backend, d, hservice, hmem⟩
    obtain ⟨_, name, _, hname⟩ := hmade.named
    exact ⟨name, slice, h.find_object hmade hname, ((serviceBackend_emits hservice).slice hmem).1⟩
  ownEndpoints := by
    intro hkind hns name slice hfind hlabel
    exact h.slice_of_label hservice (Option.some.inj hkind) hns hfind hlabel

end NamesApart

/-- Nothing is overwritten exactly when no names clash. -/
theorem nothingOverwritten_iff (cfg : Config) (dynConfig : TraefikDynamicConfig) :
    NothingOverwritten cfg dynConfig ↔ NamesApart cfg dynConfig := by
  constructor
  · exact namesApart_of_nothingOverwritten
  · intro h
    constructor
    · intro b routerName service entry routerName' service' entry' hroute hroute' hne
      exact h.routes hroute hroute' hne
    · intro b name entry b' name' entry' hmade hmade' hne
      exact h.objects hmade hmade' hne
    · rintro entry (⟨b, routerName, service, hroute⟩ | ⟨b, pangName, hmade⟩)
      · exact ⟨_, hroute.routeOf.name, h.find_route hroute⟩
      · obtain ⟨_, name, _, hname⟩ := hmade.named
        exact ⟨name, hname, h.find_object hmade hname⟩
    · intro b routerName service entry hroute ref href
      obtain ⟨backend, hbackend, hrefs⟩ := hroute.routeOf.backend
      obtain ⟨d, hservice⟩ := blockIndex_iff.mp hbackend
      obtain rfl := hrefs ref href
      exact ⟨backend, d, hservice, rfl, h.leadsTo hservice⟩

/-! ## Two routers that fold together -/

def foldedNames : List (String × Router) :=
  [("a.b", ⟨"Host(`x.y`)", "app", [], ["http"], none, none⟩),
    ("a-b", ⟨"Host(`y.z`)", "app", [], ["http"], none, none⟩)]

omit [DefaultHasher] [UrlCrate] in
/-- The routers `a.b` and `a-b` get one route between them. -/
theorem folded_routers : ¬@NothingOverwritten sampleHasher sampleUrlCrate sampleConfig
    (sampleDynConfig foldedNames) := by
  let _ := sampleHasher
  let _ := sampleUrlCrate
  intro h
  have hdots : Routed sampleConfig (sampleDynConfig foldedNames) .http "a.b" :=
    @routed_of_translated _ _ _ _ _ ⟨"Host(`x.y`)", "app", [], ["http"], none, none⟩
      ⟨rfl, by decide⟩
  have hdash : Routed sampleConfig (sampleDynConfig foldedNames) .http "a-b" :=
    @routed_of_translated _ _ _ _ _ ⟨"Host(`y.z`)", "app", [], ["http"], none, none⟩
      ⟨rfl, by decide⟩
  have hapart := (namesApart_of_nothingOverwritten h).routers .http "a.b" "a-b" hdots hdash
    (by decide)
  exact hapart (by unfold RouterClash; decide)

end PangolinGateway
