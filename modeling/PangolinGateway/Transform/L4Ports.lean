import PangolinGateway.Maps.FirstClaim
import PangolinGateway.Transform.Written

/-! # Which ports a TCP/UDP block opens, and for whom

A router offers the ports of its entrypoints when its rule is supported and its service resolves. Each
port that is offered has one listener, and the first router that offers it claims it. -/
namespace PangolinGateway
set_option autoImplicit false

/-- The port that an entrypoint name stands for. TCP leaves the two HTTP ports alone. -/
def OpensPort (cfg : Config) (proto : L4Protocol) (entrypoint : String) (port : ℤ) : Prop :=
  parseEntrypointPort entrypoint proto = some port ∧
    ¬(proto = .tcp ∧ (port = cfg.httpPort ∨ port = cfg.httpsPort))

def Resolvable (cfg : Config) (services : Map L4Service) (name : String) : Prop :=
  ∃ svc, services[name]? = some svc ∧ classifyL4Service cfg svc ≠ .empty

structure Offers (cfg : Config) (l4 : L4Config) (proto : L4Protocol) (entry : String × L4Router)
    (port : ℤ) : Prop where
  supported : ruleIsSupported entry.2 proto = true
  resolved : Resolvable cfg l4.services entry.2.service
  entrypoint : ∃ entrypoint ∈ entry.2.entryPoints, OpensPort cfg proto entrypoint port

theorem parseEntrypointPort_pos {entrypoint : String} {proto : L4Protocol} {port : ℤ}
    (h : parseEntrypointPort entrypoint proto = some port) : 1 ≤ port ∧ port ≤ 65535 := by
  obtain ⟨n, rfl, hlt⟩ := parseEntrypointPort_range h
  obtain ⟨rest, _, h⟩ := Option.bind_eq_some_iff.mp h
  obtain ⟨digits, _, h⟩ := Option.bind_eq_some_iff.mp h
  obtain ⟨m, _, h⟩ := Option.bind_eq_some_iff.mp h
  split at h
  · simp at h
  · next hzero =>
    have hmn : (m : ℤ) = n := Option.some.inj h
    omega

/-! ## Claims -/

def Claimed (claims : PortClaims) (port : ℤ) (routerName : String) : Prop :=
  (port, routerName) ∈ claims.claimedPorts

theorem claimablePort_iff {cfg : Config} {proto : L4Protocol} {claims : PortClaims}
    {entrypoint : String} {port : ℤ} : claimablePort cfg proto claims entrypoint = some port ↔
      OpensPort cfg proto entrypoint port ∧ ∀ owner, ¬Claimed claims port owner := by
  have hany : ∀ p : ℤ, claims.claimedPorts.any (·.1 == p) = true ↔ ∃ owner, Claimed claims p owner := by
    intro p
    simp [Claimed]
  unfold claimablePort OpensPort
  cases parseEntrypointPort entrypoint proto with
  | none => simp
  | some p =>
    by_cases hhttp : proto = .tcp ∧ (p = cfg.httpPort ∨ p = cfg.httpsPort)
    · simp only [Option.bind_eq_bind, Option.bind_some, if_pos hhttp]
      grind
    · simp only [Option.bind_eq_bind, Option.bind_some, if_neg hhttp]
      by_cases hclaimed : claims.claimedPorts.any (·.1 == p) = true
      · rw [if_pos hclaimed]
        have howner := (hany p).mp hclaimed
        grind
      · rw [if_neg hclaimed]
        have howner := mt (hany p).mpr hclaimed
        grind

variable [DefaultHasher]

theorem claimEntrypoint_claims (cfg : Config) (proto : L4Protocol) (routerName : String) :
    FirstClaim.Claims (fun acc : PortClaims × List String => Claimed acc.1) (OpensPort cfg proto)
      (fun _ => routerName) (claimEntrypoint cfg proto routerName) := by
  intro acc entrypoint port owner
  unfold claimEntrypoint
  cases hport : claimablePort cfg proto acc.1 entrypoint with
  | none =>
    have hno : ¬(OpensPort cfg proto entrypoint port ∧ ∀ o, ¬Claimed acc.1 port o) := by
      rw [← claimablePort_iff, hport]
      simp
    grind
  | some port' =>
    obtain ⟨hopens, hfree⟩ := claimablePort_iff.mp hport
    have honly : OpensPort cfg proto entrypoint port → port = port' :=
      fun h => Option.some.inj (h.1.symm.trans hopens.1)
    simp only [Claimed, List.mem_cons, Prod.mk.injEq]
    constructor
    · rintro (⟨rfl, rfl⟩ | hold)
      · exact Or.inr ⟨hfree, hopens, rfl⟩
      · exact Or.inl hold
    · rintro (hold | ⟨_, hport, rfl⟩)
      · exact Or.inr hold
      · exact Or.inl ⟨honly hport, rfl⟩

/-- The sections of a router are the listeners of the ports it claims. -/
theorem mem_sections (cfg : Config) (proto : L4Protocol) (routerName : String)
    (entrypoints : List String) (acc : PortClaims × List String) (section_ : String) :
    section_ ∈ (entrypoints.foldl (claimEntrypoint cfg proto routerName) acc).2 ↔
      section_ ∈ acc.2 ∨ ∃ port, (∀ owner, ¬Claimed acc.1 port owner) ∧
        Claimed (entrypoints.foldl (claimEntrypoint cfg proto routerName) acc).1 port routerName ∧
        section_ = (l4Listener proto port).name := by
  have hclaims := claimEntrypoint_claims cfg proto routerName
  induction entrypoints generalizing acc with
  | nil => grind
  | cons entrypoint entrypoints ih =>
    rw [List.foldl_cons]
    refine (ih _).trans ?_
    rcases claimEntrypoint_eq cfg proto routerName acc entrypoint with heq | ⟨port', hport', heq⟩
    · rw [heq]
    · obtain ⟨_, hfree⟩ := claimablePort_iff.mp hport'
      have hheld : Claimed (claimEntrypoint cfg proto routerName acc entrypoint).1 port' routerName := by
        rw [heq]
        exact List.mem_cons_self
      have hkept : Claimed (entrypoints.foldl (claimEntrypoint cfg proto routerName)
          (claimEntrypoint cfg proto routerName acc entrypoint)).1 port' routerName :=
        (hclaims.foldl entrypoints _ port' routerName).mpr (Or.inl hheld)
      have hfresh : ∀ port, (∀ owner, ¬Claimed acc.1 port owner) ↔ port = port' ∨
          ∀ owner, ¬Claimed (claimEntrypoint cfg proto routerName acc entrypoint).1 port owner := by
        intro port
        have hstep : ∀ owner, Claimed (claimEntrypoint cfg proto routerName acc entrypoint).1 port owner ↔
            (port = port' ∧ owner = routerName) ∨ Claimed acc.1 port owner := by
          intro owner
          rw [heq]
          simp [Claimed]
        by_cases hport : port = port'
        · subst hport
          simp [hfree]
        · simp [hstep, hport]
      have hsections : (claimEntrypoint cfg proto routerName acc entrypoint).2 =
          acc.2 ++ [(l4Listener proto port').name] := by rw [heq]
      rw [hsections, List.mem_append, List.mem_singleton]
      constructor
      · rintro ((hold | hname) | ⟨port, hport, hclaimed, hname⟩)
        · exact Or.inl hold
        · exact Or.inr ⟨port', hfree, hkept, hname⟩
        · exact Or.inr ⟨port, (hfresh port).mpr (Or.inr hport), hclaimed, hname⟩
      · rintro (hold | ⟨port, hport, hclaimed, hname⟩)
        · exact Or.inl (Or.inl hold)
        · rcases (hfresh port).mp hport with rfl | hport
          · exact Or.inl (Or.inr hname)
          · exact Or.inr ⟨port, hport, hclaimed, hname⟩

/-! ## The routers of a block -/

def l4Index (cfg : Config) (l4 : L4Config) (proto : L4Protocol) : BackendIndex :=
  (buildL4Backends cfg l4.services proto .empty).1

theorem l4Index_isSome {cfg : Config} {l4 : L4Config} {proto : L4Protocol} {name : String} :
    (l4Index cfg l4 proto)[name]?.isSome = true ↔ Resolvable cfg l4.services name := by
  have hindex : l4Index cfg l4 proto =
      InsertLoop.insertAll (indexEntry cfg (.l4 proto) (l4Request cfg)) l4.services.toList ∅ :=
    congrArg Prod.fst (foldl_emitRequest cfg (.l4 proto) (l4Request cfg) l4.services.toList .empty)
  rw [Option.isSome_iff_exists]
  simp only [hindex, index_iff, Resolvable]
  constructor
  · rintro ⟨backend, svc, hsvc, d, hd⟩
    exact ⟨svc, hsvc, (emission_isSome cfg (.l4 proto) (l4Request cfg) (name, svc)).mp (by simp [hd])⟩
  · rintro ⟨svc, hsvc, hne⟩
    obtain ⟨made, hmade⟩ := Option.isSome_iff_exists.mp
      ((emission_isSome cfg (.l4 proto) (l4Request cfg) (name, svc)).mpr hne)
    exact ⟨made.1, svc, hsvc, made.2, hmade⟩

/-- A router claims ports when its rule is supported and its service resolves. -/
theorem nextClaims_eq (cfg : Config) (proto : L4Protocol) (backends : BackendIndex)
    (claims : PortClaims) (entry : String × L4Router) :
    nextClaims cfg proto backends claims entry =
      if ruleIsSupported entry.2 proto = true ∧ backends[entry.2.service]?.isSome = true then
        (claimEntrypoints cfg proto entry claims).1
      else claims := by
  unfold nextClaims emitL4Route claimEntrypoints
  cases ruleIsSupported entry.2 proto with
  | false => simp
  | true =>
    cases backends[entry.2.service]? with
    | none => simp
    | some backend =>
      simp only [Bool.not_true, Bool.false_eq_true, if_false, Option.isSome_some, and_self, if_true]
      split
      · rfl
      · cases proto <;> rfl

theorem nextClaims_claims (cfg : Config) (l4 : L4Config) (proto : L4Protocol) :
    FirstClaim.Claims Claimed (Offers cfg l4 proto) Prod.fst
      (nextClaims cfg proto (l4Index cfg l4 proto)) := by
  intro claims entry port owner
  rw [nextClaims_eq]
  by_cases heligible : ruleIsSupported entry.2 proto = true ∧
    (l4Index cfg l4 proto)[entry.2.service]?.isSome = true
  · have hoffers : Offers cfg l4 proto entry port ↔
        ∃ entrypoint ∈ entry.2.entryPoints, OpensPort cfg proto entrypoint port :=
      ⟨fun h => h.entrypoint, fun h => ⟨heligible.1, l4Index_isSome.mp heligible.2, h⟩⟩
    have hfold := (claimEntrypoint_claims cfg proto entry.1).foldl entry.2.entryPoints (claims, [])
      port owner
    rw [if_pos heligible, claimEntrypoints, hfold, hoffers, ← FirstClaim.exists_first]
    grind
  · have hno : ¬Offers cfg l4 proto entry port :=
      fun h => heligible ⟨h.supported, l4Index_isSome.mpr h.resolved⟩
    rw [if_neg heligible]
    simp [hno]

/-- The claims when all routers are through. -/
def l4Claims (cfg : Config) (l4 : L4Config) (proto : L4Protocol) : PortClaims :=
  l4.routers.toList.foldl (nextClaims cfg proto (l4Index cfg l4 proto)) ⟨[], []⟩

/-- A port is claimed by the first router that offers it. -/
theorem l4Claims_iff {cfg : Config} {l4 : L4Config} {proto : L4Protocol} {port : ℤ}
    {routerName : String} : Claimed (l4Claims cfg l4 proto) port routerName ↔
      ∃ entry, FirstClaim.First (Offers cfg l4 proto · port) l4.routers.toList entry ∧
        routerName = entry.1 := by
  rw [l4Claims, (nextClaims_claims cfg l4 proto).foldl]
  simp [Claimed]

theorem l4Claims_listed (cfg : Config) (l4 : L4Config) (proto : L4Protocol) :
    ClaimsListed proto (l4Claims cfg l4 proto) := by
  refine List.foldlRecOn (motive := ClaimsListed proto) _ _ ⟨rfl, List.nodup_nil, by simp⟩ ?_
  intro claims hclaims entry _
  rw [nextClaims_eq]
  split
  · exact claimEntrypoints_listed cfg entry hclaims
  · exact hclaims

/-! ## The routes of a block -/

/-- The router `entry` emits the route `e`. -/
def EmitsRoute (cfg : Config) (l4 : L4Config) (proto : L4Protocol) (entry : String × L4Router)
    (e : Entry) : Prop :=
  ∃ claims, (claims, entry) ∈ WriteLog.visits (nextClaims cfg proto (l4Index cfg l4 proto)) ⟨[], []⟩
      l4.routers.toList ∧
    l4RouteEntry cfg proto (l4Index cfg l4 proto) claims entry = some e

def Entry.sections (e : Entry) : List String :=
  (e.1.parentRefs e.2).filterMap RouteParentRef.sectionName

/-- What `buildL4` returns and writes: the listeners of the claims, the objects of the services and
the routes of the routers. -/
theorem buildL4_eq (cfg : Config) (l4 : L4Config) (proto : L4Protocol) (d : Desired) :
    buildL4 cfg l4 proto d = ((l4Claims cfg l4 proto).listeners, d.writeAll
      (l4.services.toList.flatMap (emissionEntries cfg (.l4 proto) (l4Request cfg)) ++
        (WriteLog.visits (nextClaims cfg proto (l4Index cfg l4 proto)) ⟨[], []⟩
          l4.routers.toList).flatMap fun visit =>
            (l4RouteEntry cfg proto (l4Index cfg l4 proto) visit.1 visit.2).toList)) := by
  have hbackends : ∀ d, buildL4Backends cfg l4.services proto d =
      (l4Index cfg l4 proto, d.writeAll
        (l4.services.toList.flatMap (emissionEntries cfg (.l4 proto) (l4Request cfg)))) := by
    intro d
    have hloop := foldl_emitRequest cfg (.l4 proto) (l4Request cfg) l4.services.toList
    have hindex : l4Index cfg l4 proto = _ := congrArg Prod.fst (hloop .empty)
    rw [hindex]
    exact hloop d
  unfold buildL4
  rw [hbackends, Desired.writeAll_append]
  simp only
  rw [(emitL4Route_framed cfg proto _).foldl]
  rfl

theorem find_buildL4 {cfg : Config} {l4 : L4Config} {proto : L4Protocol} {d : Desired} {name : String}
    {route : (Block.l4 proto).routeKind.Obj}
    (h : (buildL4 cfg l4 proto d).2.find (Block.l4 proto).routeKind name = some route) :
    d.find (Block.l4 proto).routeKind name = some route ∨
      ∃ entry, EmitsRoute cfg l4 proto entry ⟨(Block.l4 proto).routeKind, route⟩ := by
  rw [buildL4_eq] at h
  rcases Desired.find_writeAll_origin h with hold | ⟨hmem, _⟩
  · exact Or.inl hold
  · rcases List.mem_append.mp hmem with hservice | hroute
    · -- the objects of services are of other kinds
      obtain ⟨svc, _, hentry⟩ := List.mem_flatMap.mp hservice
      obtain ⟨backend, made, hmade, hobject⟩ := mem_emissionEntries.mp hentry
      obtain ⟨base, hbase, _⟩ := (emitBackend_emits hmade).object hobject |>.name
      have hkind := Kind.not_isRoute_of_backendPrefix hbase
      simp [Block.routeKind_isRoute] at hkind
    · obtain ⟨⟨claims, entry⟩, hvisit, hentry⟩ := List.mem_flatMap.mp hroute
      exact Or.inr ⟨entry, claims, hvisit, Option.mem_toList.mp hentry⟩

omit [DefaultHasher] in
theorem l4Route_sections (cfg : Config) (routeName : String) (sectionNames : List String)
    (backend : ResolvedBackend) (proto : L4Protocol) :
    (l4Route cfg routeName sectionNames backend proto).sections = sectionNames := by
  cases proto <;>
    simp [Entry.sections, l4Route, Kind.parentRefs, buildTcpRoute, buildUdpRoute, l4RouteSpec,
      List.filterMap_map]

/-- The sections of a route are the ports its router was the first to offer. -/
theorem EmitsRoute.sections {cfg : Config} {l4 : L4Config} {proto : L4Protocol}
    {entry : String × L4Router} {e : Entry} (h : EmitsRoute cfg l4 proto entry e) {section_ : String}
    (hsection : section_ ∈ e.sections) :
    ∃ port, FirstClaim.First (Offers cfg l4 proto · port) l4.routers.toList entry ∧
      section_ = (l4Listener proto port).name := by
  obtain ⟨claims, hvisit, hroute⟩ := h
  obtain ⟨front, back, hsplit, rfl⟩ := WriteLog.mem_visits.mp hvisit
  obtain ⟨hrule, _, backend, hbackend, rfl⟩ := l4RouteEntry_some hroute
  rw [l4Route_sections, claimEntrypoints, mem_sections] at hsection
  obtain ⟨port, hfree, hclaimed, hname⟩ := hsection.resolve_left (by simp)
  refine ⟨port, ⟨front, back, hsplit, ?_, ?_⟩, hname⟩
  · rcases ((claimEntrypoint_claims cfg proto entry.1).foldl _ _ _ _).mp hclaimed with
      hold | ⟨_, entrypoint, hfirst, _⟩
    · exact absurd hold (hfree _)
    · exact ⟨hrule, l4Index_isSome.mp (by rw [hbackend]; rfl), entrypoint, hfirst.holds⟩
  · intro other hother hoffers
    obtain ⟨first, hfirst⟩ := (FirstClaim.exists_first (P := (Offers cfg l4 proto · port))).mpr
      ⟨other, hother, hoffers⟩
    exact hfree first.1 (((nextClaims_claims cfg l4 proto).foldl front _ port first.1).mpr
      (Or.inr ⟨by simp [Claimed], first, hfirst, rfl⟩))

/-- The first router that offers a port emits a route, and the route refers to the port's listener. -/
theorem emitsRoute_of_first {cfg : Config} {l4 : L4Config} {proto : L4Protocol}
    {entry : String × L4Router} {port : ℤ}
    (h : FirstClaim.First (Offers cfg l4 proto · port) l4.routers.toList entry) :
    ∃ e, EmitsRoute cfg l4 proto entry e ∧ (l4Listener proto port).name ∈ e.sections := by
  obtain ⟨front, back, hsplit, hoffers, hfront⟩ := h
  have hresolved : (l4Index cfg l4 proto)[entry.2.service]?.isSome = true :=
    l4Index_isSome.mpr hoffers.resolved
  obtain ⟨backend, hbackend⟩ := Option.isSome_iff_exists.mp hresolved
  have hfree : ∀ owner, ¬Claimed (front.foldl (nextClaims cfg proto (l4Index cfg l4 proto)) ⟨[], []⟩)
      port owner := by
    intro owner hclaimed
    rcases ((nextClaims_claims cfg l4 proto).foldl front _ port owner).mp hclaimed with
      hold | ⟨_, first, hfirst, _⟩
    · simp [Claimed] at hold
    · exact hfront first hfirst.holds.1 hfirst.holds.2
  obtain ⟨entrypoint, hfirst⟩ := FirstClaim.exists_first.mpr hoffers.entrypoint
  have hsection : (l4Listener proto port).name ∈ (claimEntrypoints cfg proto entry
      (front.foldl (nextClaims cfg proto (l4Index cfg l4 proto)) ⟨[], []⟩)).2 := by
    refine (mem_sections cfg proto entry.1 _ _ _).mpr (Or.inr ⟨port, hfree, ?_, rfl⟩)
    exact ((claimEntrypoint_claims cfg proto entry.1).foldl _ _ _ _).mpr
      (Or.inr ⟨hfree, entrypoint, hfirst, rfl⟩)
  have hroute := l4RouteEntry_of hoffers.supported hbackend (List.ne_nil_of_mem hsection)
  refine ⟨_, ⟨_, WriteLog.mem_visits.mpr ⟨front, back, hsplit, rfl⟩, hroute⟩, ?_⟩
  rw [l4Route_sections]
  exact hsection

theorem EmitsRoute.unique {cfg : Config} {l4 : L4Config} {proto : L4Protocol}
    {entry : String × L4Router} {e e' : Entry} (h : EmitsRoute cfg l4 proto entry e)
    (h' : EmitsRoute cfg l4 proto entry e') : e = e' := by
  obtain ⟨claims, hvisit, hroute⟩ := h
  obtain ⟨claims', hvisit', hroute'⟩ := h'
  have hsame := WriteLog.visits_unique (Map.toList_keys_nodup l4.routers) hvisit hvisit' rfl
  obtain ⟨rfl, _⟩ := Prod.mk.inj hsame
  exact Option.some.inj (hroute.symm.trans hroute')

/-! ## The listeners of a block -/

theorem l4Claims_port {cfg : Config} {l4 : L4Config} {proto : L4Protocol} {port : ℤ} :
    (∃ listener ∈ (l4Claims cfg l4 proto).listeners, listener.port = port) ↔
      ∃ entry ∈ l4.routers.toList, Offers cfg l4 proto entry port := by
  rw [(l4Claims_listed cfg l4 proto).listeners]
  refine Iff.trans ?_ FirstClaim.exists_first
  constructor
  · rintro ⟨listener, hlistener, hport⟩
    obtain ⟨claim, hclaim, rfl⟩ := List.mem_map.mp hlistener
    obtain rfl : claim.1 = port := hport
    obtain ⟨entry, hfirst, _⟩ := l4Claims_iff.mp (show Claimed _ claim.1 claim.2 from
      List.mem_reverse.mp hclaim)
    exact ⟨entry, hfirst⟩
  · rintro ⟨entry, hfirst⟩
    have hclaimed := l4Claims_iff.mpr ⟨entry, hfirst, rfl⟩
    exact ⟨l4Listener proto port, List.mem_map.mpr ⟨(port, entry.1), List.mem_reverse.mpr hclaimed, rfl⟩,
      rfl⟩

theorem mem_l4Claims {cfg : Config} {l4 : L4Config} {proto : L4Protocol}
    {listener : ListenerSetListener} (h : listener ∈ (l4Claims cfg l4 proto).listeners) :
    listener = l4Listener proto listener.port ∧
      ∃ entry, FirstClaim.First (Offers cfg l4 proto · listener.port) l4.routers.toList entry := by
  have hport := FirstClaim.exists_first.mpr (l4Claims_port.mp ⟨listener, h, rfl⟩)
  rw [(l4Claims_listed cfg l4 proto).listeners] at h
  obtain ⟨claim, _, rfl⟩ := List.mem_map.mp h
  exact ⟨rfl, hport⟩

/-- The ports of a block, listener by listener: apart from each other and from the HTTP ports, one
for every port that some router offers, each claimed by the first such router, whose route is the
only one to refer to it. -/
theorem buildL4_ports (cfg : Config) (l4 : L4Config) (proto : L4Protocol) (d : Desired) :
    ((buildL4 cfg l4 proto d).1.map ListenerSetListener.port).Nodup ∧
    (∀ listener ∈ (buildL4 cfg l4 proto d).1, 1 ≤ listener.port ∧ listener.port ≤ 65535 ∧
      (proto = .tcp → listener.port ≠ cfg.httpPort ∧ listener.port ≠ cfg.httpsPort)) ∧
    (∀ port, (∃ listener ∈ (buildL4 cfg l4 proto d).1, listener.port = port) ↔
      ∃ entry ∈ l4.routers.toList, Offers cfg l4 proto entry port) ∧
    (∀ listener ∈ (buildL4 cfg l4 proto d).1, ∃ entry e,
      FirstClaim.First (Offers cfg l4 proto · listener.port) l4.routers.toList entry ∧
        EmitsRoute cfg l4 proto entry e ∧ listener.name ∈ e.sections) ∧
    (∀ entry e entry' e' section_, EmitsRoute cfg l4 proto entry e → EmitsRoute cfg l4 proto entry' e' →
      section_ ∈ e.sections → section_ ∈ e'.sections → entry = entry' ∧ e = e') ∧
    (∀ name route, (buildL4 cfg l4 proto d).2.find (Block.l4 proto).routeKind name = some route →
      d.find (Block.l4 proto).routeKind name = some route ∨
        ∃ entry, EmitsRoute cfg l4 proto entry ⟨(Block.l4 proto).routeKind, route⟩) := by
  have hlisteners : (buildL4 cfg l4 proto d).1 = (l4Claims cfg l4 proto).listeners := by
    rw [buildL4_eq]
  rw [hlisteners]
  refine ⟨?_, ?_, fun port => l4Claims_port, ?_, ?_, fun name route h => find_buildL4 h⟩
  · have hports : (l4Claims cfg l4 proto).listeners.map ListenerSetListener.port =
        ((l4Claims cfg l4 proto).claimedPorts.map Prod.fst).reverse := by
      rw [(l4Claims_listed cfg l4 proto).listeners, List.map_map, ← List.map_reverse]
      rfl
    rw [hports]
    exact List.nodup_reverse.mpr (l4Claims_listed cfg l4 proto).distinct
  · intro listener hlistener
    obtain ⟨_, entry, hfirst⟩ := mem_l4Claims hlistener
    obtain ⟨_, _, hopens, hhttp⟩ := hfirst.holds.2.entrypoint
    obtain ⟨hlow, hhigh⟩ := parseEntrypointPort_pos hopens
    exact ⟨hlow, hhigh, fun htcp => ⟨fun heq => hhttp ⟨htcp, Or.inl heq⟩,
      fun heq => hhttp ⟨htcp, Or.inr heq⟩⟩⟩
  · intro listener hlistener
    obtain ⟨heq, entry, hfirst⟩ := mem_l4Claims hlistener
    obtain ⟨e, hroute, hsection⟩ := emitsRoute_of_first hfirst
    exact ⟨entry, e, hfirst, hroute, by rwa [heq]⟩
  · intro entry e entry' e' section_ hroute hroute' hsection hsection'
    obtain rfl : entry = entry' := by
      obtain ⟨port, hfirst, hname⟩ := hroute.sections hsection
      obtain ⟨port', hfirst', hname'⟩ := hroute'.sections hsection'
      obtain ⟨_, _, hopens, _⟩ := hfirst.holds.2.entrypoint
      obtain ⟨_, _, hopens', _⟩ := hfirst'.holds.2.entrypoint
      obtain ⟨m, rfl, hm⟩ := parseEntrypointPort_range hopens
      obtain ⟨n, rfl, hn⟩ := parseEntrypointPort_range hopens'
      obtain rfl := l4Listener_name_injective hm hn (hname.symm.trans hname')
      exact hfirst.unique hfirst'
    exact ⟨rfl, hroute.unique hroute'⟩

end PangolinGateway
