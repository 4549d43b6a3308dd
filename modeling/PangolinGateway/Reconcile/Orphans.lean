import PangolinGateway.Reconcile.Lockstep
import PangolinGateway.Reconcile.PendingFailure

/-! # Orphans that a run leaves behind

A body counts as done when its applies succeed. Sweeps that fail do not matter for that, and a
reconcile that fails leaves objects of a body that is not done. -/
namespace PangolinGateway
set_option autoImplicit false
open Runs

/-- Every owned object of a swept kind is in the desired set. -/
def NoOrphans (cfg : Config) (desired : Desired) (c : Cluster) : Prop :=
  ∀ k ∈ sweepOrder cfg, ∀ name obj, c.find k name = some obj →
    (k.metadata obj).owned cfg = true → (desired.find k name).isSome = true

/-- Every owned orphan in front of a reconcile that succeeds is listed and its delete carried out. -/
def SweepsOrphans (cfg : Config) (env : Environment) (desired : Desired) (c : Cluster) : Prop :=
  ∀ k ∈ sweepOrder cfg, ∀ name obj, c.find k name = some obj →
    (k.metadata obj).owned cfg = true → desired.find k name = none → LetsSweep cfg env k name

/-- Every owned object of a swept kind that a failing reconcile writes is in the `done` set. -/
def WritesWithin (cfg : Config) (env : Environment) (desired done : Desired) : Prop :=
  ∀ entry ∈ attemptedEntries cfg env desired, Applies cfg env entry → entry.1 ∈ sweepOrder cfg →
    (entry.1.metadata entry.2).owned cfg = true →
      ∀ name, (entry.1.metadata entry.2).name = some name → (done.find entry.1 name).isSome = true

theorem noOrphans_reconciled {cfg : Config} {env : Environment} {desired : Desired}
    (hnamed : desired.Named) (hro : cfg.readOnly = false) (hok : AppliesOk cfg env desired)
    (c : Cluster) :
    NoOrphans cfg desired ((reconcileOnce cfg desired).run (serve env) c).2 ↔
      SweepsOrphans cfg env desired c := by
  have hstart : ∀ k name, desired.find k name = none →
      (applied cfg env desired.entries c).find k name = c.find k name := by
    intro k name hnone
    exact find_applied_of_not hnamed.entries c fun obj hobj => by simp [hnone] at hobj
  constructor
  · intro h k hk name obj hfind howned hnone
    rcases find_reconcileOnce hok c k name with ⟨_, hswept, _⟩ | ⟨_, hkeep⟩
    · exact ⟨hswept.1, hswept.2.2.2.2⟩
    · have hdesired := h k hk name obj (hkeep.trans ((hstart k name hnone).trans hfind)) howned
      simp [hnone] at hdesired
  · intro h k hk name obj hfind howned
    rcases find_reconcileOnce hok c k name with ⟨_, _, hgone⟩ | ⟨hnot, hkeep⟩
    · rw [hgone] at hfind
      simp at hfind
    · by_contra hno
      have hnone : desired.find k name = none := by simpa using hno
      have hthere := hkeep.symm.trans hfind
      obtain ⟨hlist, heff⟩ :=
        h k hk name obj ((hstart k name hnone).symm.trans hthere) howned hnone
      refine hnot ⟨hk, hlist, ⟨obj, hthere, howned⟩, hro, ?_, heff⟩
      intro hmem
      obtain ⟨obj', hobj'⟩ := Desired.mem_names.mp hmem
      simp [hnone] at hobj'

theorem noOrphans_failed {cfg : Config} {env : Environment} {desired done : Desired}
    (hnamed : desired.Named) (hfail : ¬AppliesOk cfg env desired) {c : Cluster}
    (hclean : NoOrphans cfg done c) :
    NoOrphans cfg done ((reconcileOnce cfg desired).run (serve env) c).2 ↔
      WritesWithin cfg env desired done := by
  have hentries := hnamed.entries.mono (attemptedEntries_isPrefix cfg env desired)
  rw [run_reconcileOnce_failed hfail]
  constructor
  · rintro h ⟨k, obj⟩ hmem happ hk howned name hname
    obtain ⟨name', hname', hlookup⟩ := hentries _ hmem
    obtain rfl : name = name' := Option.some.inj (hname.symm.trans hname')
    exact h k hk name obj (find_applied hentries hlookup hname hmem happ c) howned
  · intro h k hk name obj hfind howned
    by_cases hover : ∃ obj', desired.find k name = some obj' ∧
        ⟨k, obj'⟩ ∈ attemptedEntries cfg env desired ∧ Applies cfg env ⟨k, obj'⟩
    · obtain ⟨obj', hobj', hmem, happ⟩ := hover
      have hname := hnamed k name obj' hobj'
      have hthere := find_applied hentries hobj' hname hmem happ c
      obtain rfl : obj = obj' := Option.some.inj (hfind.symm.trans hthere)
      exact h ⟨k, obj⟩ hmem happ hk howned name hname
    · have hkeep := find_applied_of_not hentries c
        fun obj' hobj' hmem happ => hover ⟨obj', hobj', hmem, happ⟩
      exact hclean k hk name obj (hkeep.symm.trans hfind) howned

section Runs
variable [DefaultHasher] [UrlCrate] [HttpCrate] [BodyCrates]

/-- The client took this body as a configuration in some poll of the run. -/
def Accepted (cfg : Config) (ticks : List Tick) (body : Bytes) : Prop :=
  ∃ tick ∈ ticks, acceptedBody cfg tick.reply = some body

/-- The remembered digest is that of a body whose desired set covers what the controller owns. -/
def Clean (cfg : Config) (ticks : List Tick) (w : World) : Prop :=
  ∀ body dynConfig, Accepted cfg ticks body → BodyCrates.decodeConfig body = some dynConfig →
    w.loop.lastDigest = some (BodyCrates.sha256Hex body) →
      NoOrphans cfg (buildDesired cfg dynConfig) w.cluster

/-- The calls of the iteration that decide whether it leaves orphans: all orphans are swept when its
applies succeed, and nothing foreign to the remembered body is written when they do not. -/
def SweepsOrWithin (cfg : Config) (ticks : List Tick) (w : World) (tick : Tick) : Prop :=
  ∀ c, tick.shutdown = false → fetch cfg tick.reply = .ok (.changed c) →
    w.loop.lastDigest ≠ some c.digest →
      (AppliesOk cfg tick.env (buildDesired cfg c.config) →
        SweepsOrphans cfg tick.env (buildDesired cfg c.config) w.cluster) ∧
      (¬AppliesOk cfg tick.env (buildDesired cfg c.config) →
        ∀ body dynConfig, Accepted cfg ticks body → BodyCrates.decodeConfig body = some dynConfig →
          w.loop.lastDigest = some (BodyCrates.sha256Hex body) →
            WritesWithin cfg tick.env (buildDesired cfg c.config) (buildDesired cfg dynConfig))

theorem clean_iff {cfg : Config} {ticks : List Tick} (hro : cfg.readOnly = false)
    (hsha : ∀ body body', Accepted cfg ticks body → Accepted cfg ticks body' →
      BodyCrates.sha256Hex body = BodyCrates.sha256Hex body' → body = body')
    {w w' : World} {tick : Tick} {event : Event} (hspec : Iterates cfg w tick event w')
    (hmem : tick ∈ ticks) (hclean : Clean cfg ticks w) :
    Clean cfg ticks w' ↔ SweepsOrWithin cfg ticks w tick := by
  cases hspec with
  | stopped hstop =>
    exact iff_of_true hclean fun c hrun => by simp [hstop] at hrun
  | fetchFailed e _ hfetch =>
    exact iff_of_true hclean fun c _ h => by simp [hfetch] at h
  | notModified _ hfetch =>
    exact iff_of_true hclean fun c _ h => by simp [hfetch] at h
  | unchanged c hrun hfetch hdigest =>
    refine iff_of_true hclean fun c' _ h hne => ?_
    rw [hfetch] at h
    obtain rfl : c = c' := by simpa using h
    exact absurd hdigest hne
  | reconciled c hrun hfetch hdigest hok =>
    obtain ⟨_, raw, _, _, _, _, hbody, _, hraw, hdecode⟩ := fetch_changed hfetch
    have hnamed := buildDesired_named cfg c.config
    have haccepted : Accepted cfg ticks raw := ⟨tick, hmem, hbody⟩
    constructor
    · intro h c' _ hfetch' _
      rw [hfetch] at hfetch'
      obtain rfl : c = c' := by simpa using hfetch'
      have hdone := h raw c.config haccepted hdecode (congrArg some hraw)
      exact ⟨fun _ => (noOrphans_reconciled hnamed hro hok w.cluster).mp hdone,
        fun hfail => absurd hok hfail⟩
    · intro h body dynConfig haccepted' hdecode' hsame
      have hsame' : c.digest = BodyCrates.sha256Hex body := Option.some.inj hsame
      obtain rfl := hsha raw body haccepted haccepted' (hraw.symm.trans hsame')
      obtain rfl : c.config = dynConfig := Option.some.inj (hdecode.symm.trans hdecode')
      exact (noOrphans_reconciled hnamed hro hok w.cluster).mpr ((h c hrun hfetch hdigest).1 hok)
  | reconcileFailed c e hrun hfetch hdigest hfail =>
    have hnamed := buildDesired_named cfg c.config
    constructor
    · intro h c' _ hfetch' _
      rw [hfetch] at hfetch'
      obtain rfl : c = c' := by simpa using hfetch'
      refine ⟨fun hok => absurd hok hfail, fun _ body dynConfig haccepted hdecode hsame => ?_⟩
      exact (noOrphans_failed hnamed hfail (hclean body dynConfig haccepted hdecode hsame)).mp
        (h body dynConfig haccepted hdecode hsame)
    · intro h body dynConfig haccepted hdecode hsame
      have hclean' := hclean body dynConfig haccepted hdecode hsame
      exact (noOrphans_failed hnamed hfail hclean').mpr
        ((h c hrun hfetch hdigest).2 hfail body dynConfig haccepted hdecode hsame)

/-- In every state of a run the remembered digest is that of a body whose desired set covers what
the controller owns, exactly when every iteration sweeps all orphans or, failing, writes nothing
foreign to that body. -/
theorem never_orphans_iff (cfg : Config) (ticks : List Tick) (c : Cluster)
    (hro : cfg.readOnly = false)
    (hsha : ∀ body body', Accepted cfg ticks body → Accepted cfg ticks body' →
      BodyCrates.sha256Hex body = BodyCrates.sha256Hex body' → body = body') :
    (∀ past t, (runLoop cfg).Occurs ticks (.start c) past t →
        Clean cfg ticks t.before ∧ Clean cfg ticks t.after) ↔
      ∀ past t, (runLoop cfg).Occurs ticks (.start c) past t →
        SweepsOrWithin cfg ticks t.before t.input := by
  have hinit : Clean cfg ticks (.start c) := by
    intro body dynConfig _ _ hdigest
    simp [World.start] at hdigest
  have hspec : ∀ past t, (runLoop cfg).Occurs ticks (.start c) past t →
      Iterates cfg t.before t.input t.event t.after := by
    intro past t ht
    rw [ht.eq_turn]
    exact iteration_iterates cfg t.before t.input
  constructor
  · intro h past t ht
    obtain ⟨hbefore, hafter⟩ := h past t ht
    exact (clean_iff hro hsha (hspec past t ht) ht.input_mem hbefore).mp hafter
  · intro h past t ht
    have hbefore : Clean cfg ticks t.before :=
      ((runLoop cfg).invariant
        (fun _ t => t.input ∈ ticks ∧ SweepsOrWithin cfg ticks t.before t.input)
        (fun past w tick hw hgood =>
          (clean_iff hro hsha (iteration_iterates cfg w tick) hgood.1 hw).mpr hgood.2)
        hinit (fun past t ht => ⟨ht.input_mem, h past t ht⟩) ht).2
    exact ⟨hbefore, (clean_iff hro hsha (hspec past t ht) ht.input_mem hbefore).mpr (h past t ht)⟩

end Runs

/-! ## A list of routes that the API server refuses -/

section Sample
attribute [local instance] sampleHasher sampleUrlCrate sampleHttpCrate sampleBodyCrates

def orphanTick (env : Environment) : Tick :=
  poll emptyBody (answer (some "\"a\"") emptyBody) env

def orphanTurn (env : Environment) : LoopTurn :=
  sampleTurn (.start sampleGuardedCluster) (orphanTick env)

theorem orphan_turns (env : Environment) :
    (runLoop sampleConfig).turns [orphanTick env] (.start sampleGuardedCluster) =
      [orphanTurn env] := rfl

theorem orphan_accepted {env : Environment} {body : Bytes}
    (h : Accepted sampleConfig [orphanTick env] body) : body = emptyBody := by
  obtain ⟨tick, hmem, hbody⟩ := h
  obtain rfl := List.mem_singleton.mp hmem
  exact (Option.some.inj hbody).symm

theorem orphanTurn_spec {env : Environment}
    (hok : AppliesOk sampleConfig env sampleNoRouters) : (orphanTurn env).event = .reconciled ∧
      (orphanTurn env).after.loop.lastDigest = some (BodyCrates.sha256Hex emptyBody) ∧
      (orphanTurn env).after.cluster = ((reconcileOnce sampleConfig sampleNoRouters).run (serve env)
        sampleGuardedCluster).2 := by
  have h : iteration sampleConfig (.start sampleGuardedCluster) (orphanTick env) = _ :=
    iteration_reconciled rfl (fetch_empty _) (by simp [World.start]) hok
  exact ⟨congrArg Prod.fst h, congrArg (fun r => r.2.loop.lastDigest) h,
    congrArg (fun r => r.2.cluster) h⟩

/-- The reconcile counts as done, and the orphaned route is still there. -/
theorem orphan_left :
    (∀ body body', Accepted sampleConfig [orphanTick routesUnlisted] body →
      Accepted sampleConfig [orphanTick routesUnlisted] body' →
      BodyCrates.sha256Hex body = BodyCrates.sha256Hex body' → body = body') ∧
    ∃ past t, (runLoop sampleConfig).Occurs [orphanTick routesUnlisted]
        (.start sampleGuardedCluster) past t ∧
      ¬Clean sampleConfig [orphanTick routesUnlisted] t.after := by
  refine ⟨fun body body' h h' _ => (orphan_accepted h).trans (orphan_accepted h').symm, ?_⟩
  refine ⟨[], orphanTurn routesUnlisted, ⟨[], orphan_turns _⟩, fun hclean => ?_⟩
  have hok : AppliesOk sampleConfig routesUnlisted sampleNoRouters :=
    appliesOk_of_answered _ sampleNoRouters_named fun _ _ _ _ => rfl
  obtain ⟨_, hdigest, hcluster⟩ := orphanTurn_spec hok
  have hclean' : NoOrphans sampleConfig sampleNoRouters (orphanTurn routesUnlisted).after.cluster :=
    hclean emptyBody emptyDynConfig ⟨_, List.mem_cons_self, rfl⟩ rfl hdigest
  rw [hcluster, noOrphans_reconciled sampleNoRouters_named rfl hok] at hclean'
  have hthere : sampleGuardedCluster.find .httpRoute "hr-app" = some sampleOrphanRoute := by
    rw [sampleGuardedCluster, Cluster.find_put_of_ne _ _ _ _ _ (by simp), Cluster.find_put_self]
  obtain ⟨hrefused, _⟩ := hclean' .httpRoute (by decide) "hr-app" sampleOrphanRoute hthere
    sampleOrphanRoute_owned sampleNoRouters_noRoute
  simp [routesUnlisted] at hrefused

/-- With every call answered the same poll leaves no orphan. -/
theorem never_orphans_sample : Clean sampleConfig [orphanTick answering] (orphanTurn answering).after := by
  refine ((never_orphans_iff sampleConfig [orphanTick answering] sampleGuardedCluster rfl
    fun body body' h h' _ => (orphan_accepted h).trans (orphan_accepted h').symm).mpr ?_ []
    (orphanTurn answering) ⟨[], orphan_turns _⟩).2
  intro past t ht
  obtain ⟨rfl, rfl⟩ := ht.of_one (orphan_turns _)
  intro c _ hfetch _
  refine ⟨fun _ _ _ _ _ _ _ _ => ⟨rfl, rfl⟩, fun hfail => ?_⟩
  exact absurd (answering_appliesOk _ (buildDesired_named _ _)) hfail

end Sample

end PangolinGateway
