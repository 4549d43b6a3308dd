import PangolinGateway.Transform.Collisions

/-! # Whose object is left

Services are written block by block, in the order http, tcp, udp, and by name within a block. An
object of the desired set belongs to the last service that made one of its kind and name, a route to
the last router of its block with that route name. -/
namespace PangolinGateway
set_option autoImplicit false

theorem Desired.find_writeAll_iff {log : List Entry} {k : Kind} {name : String} {obj : k.Obj} :
    (Desired.empty.writeAll log).find k name = some obj ↔
      (k.metadata obj).name = some name ∧ WriteLog.Last Entry.key log ⟨k, obj⟩ := by
  induction log using List.reverseRecOn with
  | nil => simp
  | append_singleton log entry ih =>
    obtain ⟨k', obj'⟩ := entry
    rw [Desired.writeAll_append, WriteLog.last_append, WriteLog.last_singleton]
    by_cases hkey : k = k' ∧ (k'.metadata obj').name = some name
    · obtain ⟨rfl, hname⟩ := hkey
      have hself : ((Desired.empty.writeAll log).write ⟨k, obj'⟩).find k name = some obj' :=
        Desired.find_write_self _ hname
      constructor
      · intro hfind
        obtain rfl : obj' = obj := Option.some.inj (hself.symm.trans hfind)
        exact ⟨hname, Or.inl rfl⟩
      · rintro ⟨hname', heq | ⟨_, hlater⟩⟩
        · obtain rfl := eq_of_heq (Sigma.mk.inj heq).2
          exact hself
        · exact absurd (by rw [Entry.key, Entry.key, hname, hname'])
            (hlater _ (List.mem_singleton_self _))
    · have hrest : ((Desired.empty.writeAll log).write ⟨k', obj'⟩).find k name =
          (Desired.empty.writeAll log).find k name := Desired.find_write_of_ne _ hkey
      change ((Desired.empty.writeAll log).write ⟨k', obj'⟩).find k name = some obj ↔ _
      rw [hrest, ih]
      have hne : (k.metadata obj).name = some name →
          Entry.key ⟨k', obj'⟩ ≠ Entry.key ⟨k, obj⟩ := by
        intro hname heq
        obtain ⟨rfl, hsame⟩ := Prod.mk.inj heq
        exact hkey ⟨rfl, hsame.trans hname⟩
      constructor
      · rintro ⟨hname, hlast⟩
        exact ⟨hname, Or.inr ⟨hlast, by simpa using hne hname⟩⟩
      · rintro ⟨hname, heq | ⟨hlast, _⟩⟩
        · exact absurd (congrArg Entry.key heq) (hne hname)
        · exact ⟨hname, hlast⟩

/-! ## Services in the order of their writes -/

def Block.rank : Block → ℕ
  | .http => 0
  | .l4 .tcp => 1
  | .l4 .udp => 2

/-- The first service is written before the second. -/
def WrittenBefore (owner owner' : Block × String) : Prop :=
  owner.1.rank < owner'.1.rank ∨ (owner.1 = owner'.1 ∧ compare owner.2 owner'.2 = .lt)

theorem writtenBefore_asymm (owner owner' : Block × String) (h : WrittenBefore owner owner') :
    ¬WrittenBefore owner' owner := by
  rintro (hrank | ⟨hblock, hname⟩)
  · rcases h with h | ⟨hblock, _⟩
    · omega
    · rw [hblock] at hrank
      omega
  · rcases h with h | ⟨_, hname'⟩
    · rw [hblock] at h
      omega
    · rw [Std.OrientedCmp.gt_of_lt hname'] at hname
      cases hname

variable [DefaultHasher] [UrlCrate]
variable (cfg : Config) (dynConfig : TraefikDynamicConfig)

def serviceNames : Block → List String
  | .http => dynConfig.http.services.toList.map Prod.fst
  | .l4 proto => (l4Block cfg dynConfig proto).services.toList.map Prod.fst

def serviceOwners : List (Block × String) :=
  [Block.http, .l4 .tcp, .l4 .udp].flatMap fun b => (serviceNames cfg dynConfig b).map fun name => (b, name)

def serviceEntries (owner : Block × String) : List Entry :=
  ((serviceBackend cfg dynConfig owner.1 owner.2).map fun made => made.2.entries).getD []

variable {cfg dynConfig}

theorem mem_serviceEntries {owner : Block × String} {entry : Entry} :
    entry ∈ serviceEntries cfg dynConfig owner ↔
      Synthesises cfg dynConfig owner.1 owner.2 entry := by
  unfold serviceEntries Synthesises
  cases serviceBackend cfg dynConfig owner.1 owner.2 with
  | none => simp
  | some made => simp [Prod.ext_iff]

theorem serviceEntries_keys_nodup (owner : Block × String) :
    ((serviceEntries cfg dynConfig owner).map Entry.key).Nodup := by
  unfold serviceEntries
  cases hmade : serviceBackend cfg dynConfig owner.1 owner.2 with
  | none => simp
  | some made =>
    obtain ⟨backend, d⟩ := made
    have hkinds := (serviceBackend_emits hmade).kinds_nodup
    apply List.Nodup.of_map Prod.fst
    rwa [List.map_map]

theorem serviceWrites_eq (b : Block) : serviceWrites cfg dynConfig b =
    (serviceNames cfg dynConfig b).flatMap fun name => serviceEntries cfg dynConfig (b, name) := by
  cases b
  -- every block writes the emissions of its services in the order of its map
  all_goals
    rw [serviceWrites, serviceNames, List.flatMap_map]
    apply List.flatMap_congr
    intro entry hentry
    rw [emissionEntries, serviceEntries, serviceBackend,
      Std.ExtTreeMap.mem_toList_iff_getElem?_eq_some.mp hentry, Option.bind_some]

omit [DefaultHasher] [UrlCrate] in
theorem serviceNames_sorted (b : Block) :
    (serviceNames cfg dynConfig b).Pairwise fun name name' => compare name name' = .lt := by
  cases b with
  | http => exact List.pairwise_map.mpr Std.ExtTreeMap.ordered_keys_toList
  | l4 proto => exact List.pairwise_map.mpr Std.ExtTreeMap.ordered_keys_toList

omit [DefaultHasher] [UrlCrate] in
theorem serviceOwners_sorted : (serviceOwners cfg dynConfig).Pairwise WrittenBefore := by
  rw [serviceOwners, List.pairwise_flatMap]
  constructor
  · intro b _
    rw [List.pairwise_map]
    exact (serviceNames_sorted b).imp fun h => Or.inr ⟨rfl, h⟩
  · have hranks : [Block.http, .l4 .tcp, .l4 .udp].Pairwise fun b b' => b.rank < b'.rank := by
      decide
    apply hranks.imp
    rintro b b' hrank owner howner owner' howner'
    obtain ⟨_, _, rfl⟩ := List.mem_map.mp howner
    obtain ⟨_, _, rfl⟩ := List.mem_map.mp howner'
    exact Or.inl hrank

theorem mem_serviceOwners {b : Block} {name : String} {entry : Entry}
    (h : Synthesises cfg dynConfig b name entry) : (b, name) ∈ serviceOwners cfg dynConfig := by
  obtain ⟨backend, d, hservice, _⟩ := h
  have hblock : b ∈ [Block.http, .l4 .tcp, .l4 .udp] := by
    rcases b with _ | _ | _ <;> decide
  have hname : name ∈ serviceNames cfg dynConfig b := by
    cases b with
    | http =>
      obtain ⟨svc, hsvc, _⟩ := Option.bind_eq_some_iff.mp hservice
      exact List.mem_map.mpr ⟨_, Std.ExtTreeMap.mem_toList_iff_getElem?_eq_some.mpr hsvc, rfl⟩
    | l4 proto =>
      obtain ⟨svc, hsvc, _⟩ := Option.bind_eq_some_iff.mp hservice
      exact List.mem_map.mpr ⟨_, Std.ExtTreeMap.mem_toList_iff_getElem?_eq_some.mpr hsvc, rfl⟩
  exact List.mem_flatMap.mpr ⟨b, hblock, List.mem_map.mpr ⟨name, hname, rfl⟩⟩

theorem mem_routeWrites {b : Block} {entry : Entry} (h : entry ∈ routeWrites cfg dynConfig b) :
    (∃ routerName service, RoutesTo cfg dynConfig b routerName service entry) ∨
      entry.1 = .securityPolicy := by
  cases b with
  | http =>
    rcases mem_routerEntries.mp (List.mem_flatMap.mp h) with hroutes | ⟨_, _, _, _, _, _, rfl⟩
    · exact Or.inl hroutes
    · exact Or.inr rfl
  | l4 proto => exact Or.inl (mem_routeWrites_l4.mp h)

theorem routeWrites_not_service {b : Block} {entry : Entry}
    (h : entry ∈ routeWrites cfg dynConfig b) : entry.1.backendPrefix = none := by
  have hroute : ∀ k : Kind, k.isRoute = true → k.backendPrefix = none := by
    intro k hk
    cases k <;> first | rfl | cases hk
  rcases mem_routeWrites h with ⟨_, _, hroutes⟩ | hpolicy
  · exact hroute _ hroutes.isRoute
  · rw [hpolicy]
    rfl

/-- Of everything that is written, the objects of services. -/
theorem writes_services :
    (writes cfg dynConfig).filter (fun entry => entry.1.backendPrefix.isSome) =
      (serviceOwners cfg dynConfig).flatMap (serviceEntries cfg dynConfig) := by
  have hblock : ∀ b : Block, (serviceWrites cfg dynConfig b ++ routeWrites cfg dynConfig b).filter
      (fun entry => entry.1.backendPrefix.isSome) = serviceWrites cfg dynConfig b := by
    intro b
    have hservices : (serviceWrites cfg dynConfig b).filter
        (fun entry => entry.1.backendPrefix.isSome) = serviceWrites cfg dynConfig b := by
      rw [List.filter_eq_self]
      intro entry hmem
      obtain ⟨name, hmade⟩ : ∃ name, Synthesises cfg dynConfig b name entry :=
        mem_serviceWrites.mp hmem
      obtain ⟨base, _, hbase, _⟩ := hmade.named
      rw [hbase]
      rfl
    have hroutes : (routeWrites cfg dynConfig b).filter
        (fun entry => entry.1.backendPrefix.isSome) = [] := by
      rw [List.filter_eq_nil_iff]
      intro entry hmem
      simp [routeWrites_not_service hmem]
    rw [List.filter_append, hservices, hroutes, List.append_nil]
  rw [writes, List.filter_append, List.filter_flatMap]
  simp only [hblock]
  simp only [serviceWrites_eq]
  rw [serviceOwners, List.flatMap_assoc]
  simp only [List.flatMap_map]
  exact List.append_nil _

/-! ## The objects that are left -/

/-- No service that is written later makes an object of this kind with the same name. -/
def KeepsObject (cfg : Config) (dynConfig : TraefikDynamicConfig) (b : Block) (name : String)
    (k : Kind) : Prop :=
  ∀ b' name', WrittenBefore (b, name) (b', name') → SynthesisesKind cfg dynConfig b' name' k →
    ¬ServiceClash k b name b' name'

theorem last_object_iff {k : Kind} {base : String} (hbase : k.backendPrefix = some base)
    {obj : k.Obj} : WriteLog.Last Entry.key (writes cfg dynConfig) ⟨k, obj⟩ ↔
      ∃ b name, Synthesises cfg dynConfig b name ⟨k, obj⟩ ∧ KeepsObject cfg dynConfig b name k := by
  have hfilter : ∀ v : Entry, v.key = Entry.key ⟨k, obj⟩ → v.1.backendPrefix.isSome = true := by
    intro v hkey
    rw [show v.1 = k from (Prod.mk.inj hkey).1, hbase]
    rfl
  rw [← WriteLog.last_filter (p := fun entry => entry.1.backendPrefix.isSome) hfilter,
    writes_services, WriteLog.last_flatMap writtenBefore_asymm serviceOwners_sorted
      fun owner _ => serviceEntries_keys_nodup owner]
  constructor
  · rintro ⟨⟨b, name⟩, _, hmem, hlater⟩
    have hmade := mem_serviceEntries.mp hmem
    refine ⟨b, name, hmade, ?_⟩
    rintro b' name' hbefore ⟨obj', hmade'⟩ hclash
    refine hlater (b', name') (mem_serviceOwners hmade') hbefore ⟨k, obj'⟩
      (mem_serviceEntries.mpr hmade') ?_
    exact ((synthesises_key_iff hmade hmade').mpr ⟨rfl, hclash⟩).symm
  · rintro ⟨b, name, hmade, hkeeps⟩
    refine ⟨(b, name), mem_serviceOwners hmade, mem_serviceEntries.mpr hmade, ?_⟩
    rintro ⟨b', name'⟩ _ hbefore ⟨k', obj'⟩ hmem' hkey
    have hmade' := mem_serviceEntries.mp hmem'
    obtain ⟨rfl, hclash⟩ := (synthesises_key_iff hmade hmade').mp hkey.symm
    exact hkeeps b' name' hbefore ⟨obj', hmade'⟩ hclash

theorem find_object_iff {k : Kind} {base : String} (hbase : k.backendPrefix = some base)
    {obj : k.Obj} : (∃ name, (buildDesired cfg dynConfig).find k name = some obj) ↔
      ∃ b name, Synthesises cfg dynConfig b name ⟨k, obj⟩ ∧ KeepsObject cfg dynConfig b name k := by
  rw [← last_object_iff hbase, buildDesired_writes]
  simp only [Desired.find_writeAll_iff]
  constructor
  · rintro ⟨_, _, hlast⟩
    exact hlast
  · intro hlast
    obtain ⟨b, pangName, hmade, _⟩ := (last_object_iff hbase).mp hlast
    obtain ⟨_, name, _, hname⟩ := hmade.named
    exact ⟨name, hname, hlast⟩

/-! ## The routes that are left -/

/-- No router of the block that comes later, in name order, is translated to the same route name. -/
def KeepsRoute (cfg : Config) (dynConfig : TraefikDynamicConfig) (b : Block) (routerName : String) :
    Prop :=
  ∀ later, compare routerName later = .lt → Routed cfg dynConfig b later →
    ¬RouterClash b routerName later

/-- Routes of a block are written by the routers of the block only. -/
theorem writes_routes (b : Block) :
    (writes cfg dynConfig).filter (fun entry => entry.1 = b.routeKind) =
      (routeWrites cfg dynConfig b).filter fun entry => entry.1 = b.routeKind := by
  have hservices : ∀ b' : Block, (serviceWrites cfg dynConfig b').filter
      (fun entry => entry.1 = b.routeKind) = [] := by
    intro b'
    rw [List.filter_eq_nil_iff]
    intro entry hmem hkind
    obtain ⟨name, hmade⟩ : ∃ name, Synthesises cfg dynConfig b' name entry :=
      mem_serviceWrites.mp hmem
    obtain ⟨base, _, hbase, _⟩ := hmade.named
    have hroute := Kind.not_isRoute_of_backendPrefix hbase
    rw [decide_eq_true_eq] at hkind
    rw [hkind, b.routeKind_isRoute] at hroute
    cases hroute
  have hroutes : ∀ b' : Block, b' ≠ b → (routeWrites cfg dynConfig b').filter
      (fun entry => entry.1 = b.routeKind) = [] := by
    intro b' hne
    rw [List.filter_eq_nil_iff]
    intro entry hmem hkind
    rw [decide_eq_true_eq] at hkind
    rcases mem_routeWrites hmem with ⟨_, _, hroute⟩ | hpolicy
    · exact hne (Block.routeKind_injective (hroute.routeOf.kind.symm.trans hkind))
    · have hroute := b.routeKind_isRoute
      rw [← hkind, hpolicy] at hroute
      cases hroute
  have hblock : ∀ b' : Block, (serviceWrites cfg dynConfig b' ++ routeWrites cfg dynConfig b').filter
      (fun entry => entry.1 = b.routeKind) =
        if b' = b then (routeWrites cfg dynConfig b).filter (fun entry => entry.1 = b.routeKind)
        else [] := by
    intro b'
    rw [List.filter_append, hservices, List.nil_append]
    by_cases hb : b' = b
    · rw [if_pos hb, hb]
    · rw [if_neg hb, hroutes b' hb]
  have hlistener : decide (Kind.listenerSet = b.routeKind) = false := by
    rcases b with _ | _ | _ <;> rfl
  rw [writes, List.filter_append, List.filter_flatMap, List.filter_singleton, hlistener]
  simp only [hblock, List.flatMap_cons, List.flatMap_nil, List.append_nil]
  rcases b with _ | _ | _ <;> simp

theorem routes_http_iff {routerName : String} {entry : Entry} (hkind : entry.1 = .httpRoute) :
    (∃ service, RoutesTo cfg dynConfig .http routerName service entry) ↔
      ∃ named ∈ dynConfig.http.routers.toList, named.1 = routerName ∧
        entry ∈ routerEntries cfg dynConfig named := by
  constructor
  · rintro ⟨service, hroute⟩
    cases hroute with
    | @http _ router route hrouter hroute =>
      have hwrite : routeEntry cfg dynConfig (backendIndex cfg dynConfig) (routerName, router) =
          some (prefixedLabel "hr" routerName, route) := by simp [routeEntry, hroute]
      refine ⟨(routerName, router), Std.ExtTreeMap.mem_toList_iff_getElem?_eq_some.mpr hrouter, rfl, ?_⟩
      rw [routerEntries, hwrite]
      exact List.mem_append_right _ (List.mem_singleton_self _)
  · rintro ⟨⟨_, router⟩, hmem, rfl, hentry⟩
    have hrouter := Std.ExtTreeMap.mem_toList_iff_getElem?_eq_some.mp hmem
    simp only [routerEntries, List.mem_append, Option.mem_toList, Option.map_eq_some_iff,
      Prod.exists] at hentry
    rcases hentry with ⟨_, _, _, rfl⟩ | ⟨_, route, hwrite, rfl⟩
    · cases hkind
    · exact ⟨router.service, .http hrouter (routeEntry_some hwrite).1⟩

theorem routes_l4_iff {proto : L4Protocol} {routerName : String} {entry : Entry} :
    (∃ service, RoutesTo cfg dynConfig (.l4 proto) routerName service entry) ↔
      ∃ visit ∈ l4Visits cfg dynConfig proto, visit.2.1 = routerName ∧
        entry ∈ (l4RouteEntry cfg proto (blockIndex cfg dynConfig (.l4 proto)) visit.1
          visit.2).toList := by
  constructor
  · rintro ⟨service, hroute⟩
    cases hroute with
    | l4 hvisit hroute => exact ⟨_, hvisit, rfl, Option.mem_toList.mpr hroute⟩
  · rintro ⟨⟨claims, _, router⟩, hvisit, rfl, hentry⟩
    exact ⟨router.service, .l4 hvisit (Option.mem_toList.mp hentry)⟩

theorem routerEntries_keys_nodup (entry : String × Router) :
    ((routerEntries cfg dynConfig entry).map Entry.key).Nodup := by
  unfold routerEntries
  cases policyEntry cfg dynConfig (backendIndex cfg dynConfig) entry <;>
    cases routeEntry cfg dynConfig (backendIndex cfg dynConfig) entry <;> simp [Entry.key]

theorem l4Visits_sorted (proto : L4Protocol) : (l4Visits cfg dynConfig proto).Pairwise
    fun visit visit' => compare visit.2.1 visit'.2.1 = .lt := by
  have hsorted : ((l4Visits cfg dynConfig proto).map Prod.snd).Pairwise
      fun entry entry' => compare entry.1 entry'.1 = .lt := by
    rw [l4Visits, WriteLog.visits_map_snd]
    exact Std.ExtTreeMap.ordered_keys_toList
  exact List.pairwise_map.mp hsorted

/-- The last route of a name in a log of routers, read in name order. -/
theorem last_route_of_routers {A : Type} {b : Block} {routers : List A} {nameOf : A → String}
    {entries : A → List Entry}
    (hsorted : routers.Pairwise fun a a' => compare (nameOf a) (nameOf a') = .lt)
    (hnodup : ∀ a ∈ routers, ((entries a).map Entry.key).Nodup)
    (hroutes : ∀ (routerName : String) (entry : Entry), entry.1 = b.routeKind →
      ((∃ service, RoutesTo cfg dynConfig b routerName service entry) ↔
        ∃ a ∈ routers, nameOf a = routerName ∧ entry ∈ entries a))
    {entry : Entry} (hkind : entry.1 = b.routeKind) :
    WriteLog.Last Entry.key (routers.flatMap entries) entry ↔
      ∃ routerName service, RoutesTo cfg dynConfig b routerName service entry ∧
        KeepsRoute cfg dynConfig b routerName := by
  have hasymm : ∀ m n : String, compare m n = .lt → ¬compare n m = .lt := by
    intro m n h
    rw [Std.OrientedCmp.gt_of_lt h]
    simp
  rw [WriteLog.last_flatMap (fun _ _ => hasymm _ _) hsorted hnodup]
  constructor
  · rintro ⟨a, ha, hentry, hlater⟩
    obtain ⟨service, hroute⟩ := (hroutes (nameOf a) entry hkind).mpr ⟨a, ha, rfl, hentry⟩
    refine ⟨nameOf a, service, hroute, ?_⟩
    rintro later hlt ⟨service', entry', hroute'⟩ hclash
    obtain ⟨a', ha', rfl, hentry'⟩ :=
      (hroutes later entry' hroute'.routeOf.kind).mp ⟨service', hroute'⟩
    exact hlater a' ha' hlt entry' hentry'
      ((routes_key_iff hroute hroute').mpr ⟨rfl, hclash⟩).symm
  · rintro ⟨routerName, service, hroute, hkeeps⟩
    obtain ⟨a, ha, rfl, hentry⟩ := (hroutes routerName entry hkind).mp ⟨service, hroute⟩
    refine ⟨a, ha, hentry, ?_⟩
    intro a' ha' hlt entry' hentry' hkey
    have hkind' : entry'.1 = b.routeKind := (Prod.mk.inj hkey).1.trans hkind
    obtain ⟨service', hroute'⟩ :=
      (hroutes (nameOf a') entry' hkind').mpr ⟨a', ha', rfl, hentry'⟩
    exact hkeeps (nameOf a') hlt ⟨service', entry', hroute'⟩
      ((routes_key_iff hroute hroute').mp hkey.symm).2

theorem last_route_iff {b : Block} {entry : Entry} (hkind : entry.1 = b.routeKind) :
    WriteLog.Last Entry.key (writes cfg dynConfig) entry ↔
      ∃ routerName service, RoutesTo cfg dynConfig b routerName service entry ∧
        KeepsRoute cfg dynConfig b routerName := by
  have hfilter : ∀ v : Entry, v.key = entry.key → decide (v.1 = b.routeKind) = true := by
    intro v hkey
    rw [show v.1 = entry.1 from (Prod.mk.inj hkey).1, hkind]
    exact decide_eq_true rfl
  rw [← WriteLog.last_filter hfilter, writes_routes, WriteLog.last_filter hfilter]
  cases b with
  | http =>
    exact last_route_of_routers Std.ExtTreeMap.ordered_keys_toList
      (fun named _ => routerEntries_keys_nodup named) (fun _ _ => routes_http_iff) hkind
  | l4 proto =>
    refine last_route_of_routers (l4Visits_sorted proto) ?_ (fun _ _ _ => routes_l4_iff) hkind
    intro visit _
    cases l4RouteEntry cfg proto (blockIndex cfg dynConfig (.l4 proto)) visit.1 visit.2 <;> simp

theorem find_route_iff {b : Block} {route : b.routeKind.Obj} :
    (∃ name, (buildDesired cfg dynConfig).find b.routeKind name = some route) ↔
      ∃ routerName service, RoutesTo cfg dynConfig b routerName service ⟨b.routeKind, route⟩ ∧
        KeepsRoute cfg dynConfig b routerName := by
  rw [← last_route_iff rfl, buildDesired_writes]
  simp only [Desired.find_writeAll_iff]
  constructor
  · rintro ⟨_, _, hlast⟩
    exact hlast
  · intro hlast
    obtain ⟨routerName, _, hroute, _⟩ := (last_route_iff rfl).mp hlast
    exact ⟨_, hroute.routeOf.name, hlast⟩

end PangolinGateway
