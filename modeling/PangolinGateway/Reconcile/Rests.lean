import PangolinGateway.Reconcile.PendingFailure
import PangolinGateway.Reconcile.Replicas

/-! # The cluster over a run of the loop

Between two successful reconciles the cluster stays where the first left it, unless a reconcile
fails in between; and whatever fails, what nobody desires and the controller does not own is left
alone from the first poll on. -/
namespace PangolinGateway
set_option autoImplicit false
open Calls Runs

/-! ## One reconcile in a run -/

/-- However the calls of a reconcile fare, it moves the cluster toward the goal. -/
theorem reconcileOnce_run_toward (cfg : Config) {desired : Desired} (hnamed : desired.Named)
    (env : Environment) (c : Cluster) :
    TowardGoal (settled cfg desired c) c ((reconcileOnce cfg desired).run (serve env) c).2 :=
  (reconcileOnce_toward hnamed (settled_aims cfg hnamed c) (.refl c)).run env

section Loop
variable [DefaultHasher] [UrlCrate] [HttpCrate] [BodyCrates]
variable {cfg : Config} {etagOf : Bytes → String} {ticks : List Tick}

/-- An iteration leaves the cluster alone or reconciles a body that it accepted. -/
theorem Iterates.cluster {w w' : World} {tick : Tick} {event : Event}
    (h : Iterates cfg w tick event w') : w'.cluster = w.cluster ∨
      ∃ c : ChangedConfig, fetch cfg tick.reply = .ok (.changed c) ∧ w'.cluster =
        ((reconcileOnce cfg (buildDesired cfg c.config)).run (serve tick.env) w.cluster).2 := by
  cases h with
  | stopped => exact Or.inl rfl
  | fetchFailed => exact Or.inl rfl
  | notModified => exact Or.inl rfl
  | unchanged => exact Or.inl rfl
  | reconciled c _ hfetch => exact Or.inr ⟨c, hfetch, rfl⟩
  | reconcileFailed c _ _ hfetch => exact Or.inr ⟨c, hfetch, rfl⟩

/-! ## What is left alone -/

/-- No body that the run accepts makes the controller want an object at this place. -/
def NeverDesired (cfg : Config) (ticks : List Tick) (k : Kind) (name : String) : Prop :=
  ∀ tick ∈ ticks, ∀ c, fetch cfg tick.reply = .ok (.changed c) →
    (buildDesired cfg c.config).find k name = none

/-- An object that no body of the run makes the controller want, and that the controller does not
sweep, is as it was at the start after every iteration, whichever calls fail. -/
theorem run_leaves_alone (cfg : Config) (ticks : List Tick) (c : Cluster) (k : Kind) (name : String)
    (hno : NeverDesired cfg ticks k name)
    (hforeign : ∀ obj, c.find k name = some obj → notSwept cfg k obj = true)
    (past : List LoopTurn) (t : LoopTurn) (ht : (runLoop cfg).Occurs ticks (.start c) past t) :
    t.after.cluster.find k name = c.find k name := by
  have hstep : ∀ w tick, tick ∈ ticks → w.cluster.find k name = c.find k name →
      (iteration cfg w tick).2.cluster.find k name = c.find k name := by
    intro w tick hmem hw
    rcases (iteration_iterates cfg w tick).cluster with hsame | ⟨changed, hfetch, hrun⟩
    · rw [hsame, hw]
    · have hnamed := buildDesired_named cfg changed.config
      have hgoal : (settled cfg (buildDesired cfg changed.config) w.cluster).find k name =
          c.find k name := by
        cases hro : cfg.readOnly with
        | true => rw [settled_readOnly hnamed hro, hw]
        | false =>
          rw [find_settled hnamed hro, hno tick hmem changed hfetch, Option.none_or, hw,
            filter_eq_self.mpr hforeign]
      rw [hrun]
      rcases reconcileOnce_run_toward cfg hnamed tick.env w.cluster (k, name) with
        hkept | hreached
      · exact hkept.trans hw
      · exact hreached.trans hgoal
  have hkeeps : ∀ (past : List LoopTurn) w tick, w.cluster.find k name = c.find k name →
      ((runLoop cfg).turn w tick).input ∈ ticks →
        ((runLoop cfg).next w tick).2.cluster.find k name = c.find k name :=
    fun _ w tick hw hmem => hstep w tick hmem hw
  obtain ⟨hturn, hbefore⟩ := (runLoop cfg).invariant (fun _ t => t.input ∈ ticks) hkeeps rfl
    (fun _ _ hocc => hocc.input_mem) ht
  rw [hturn]
  exact hstep t.before t.input ht.input_mem hbefore

/-! ## What is kept at rest -/

/-- Unless a failure is pending, the cluster is at rest for the body reconciled last. -/
def Rests (cfg : Config) (past : List LoopTurn) (w : World) : Prop :=
  ¬FailurePending past → ∀ body, latest (reconciledBody cfg) past = some body →
    ∃ dynConfig, BodyCrates.decodeConfig body = some dynConfig ∧
      AtRest cfg (buildDesired cfg dynConfig) w.cluster

theorem Rests.idle {past : List LoopTurn} {w w' : World} (h : Rests cfg past w) {t : LoopTurn}
    (hevent : t.event = .stopped ∨ (∃ e wait, t.event = .fetchFailed e wait) ∨ Skips t.event)
    (hcluster : w'.cluster = w.cluster) : Rests cfg (past ++ [t]) w' := by
  intro hpending body hbody
  rw [hcluster]
  have hpast : ¬FailurePending past ∧ latest (reconciledBody cfg) past = some body := by
    unfold FailurePending at hpending ⊢
    rw [latest_concat] at hpending hbody
    unfold reconciledBody at hbody ⊢
    rcases hevent with hevent | ⟨e, wait, hevent⟩ | hskips
    · simp only [hevent, Option.none_or] at hpending hbody
      exact ⟨hpending, hbody⟩
    · simp only [hevent, Option.none_or] at hpending hbody
      exact ⟨hpending, hbody⟩
    · cases hevent : t.event <;> simp only [hevent, Skips, Option.none_or] at hskips hpending hbody <;>
        exact ⟨hpending, hbody⟩
  exact h hpast.1 body hpast.2

theorem Rests.turn (hro : cfg.readOnly = false) {past : List LoopTurn} {w w' : World} {tick : Tick}
    {event : Event} (hspec : Iterates cfg w tick event w') (h : Rests cfg past w)
    (hhonest : tick.shutdown = false → Honest etagOf tick w.loop.lastEtag)
    (hanswered : event = .reconciled → ∀ call, tick.env call = .answered) :
    Rests cfg (past ++ [⟨w, tick, event, w'⟩]) w' := by
  cases hspec with
  | stopped => exact h.idle (Or.inl rfl) rfl
  | fetchFailed e => exact h.idle (Or.inr (Or.inl ⟨e, _, rfl⟩)) rfl
  | notModified => exact h.idle (Or.inr (Or.inr trivial)) rfl
  | unchanged => exact h.idle (Or.inr (Or.inr trivial)) rfl
  | reconciled c hrun hfetch hdigest hok =>
    intro _ body hbody
    obtain ⟨haccepted, _, hdecode⟩ := (hhonest hrun).changed hfetch
    rw [latest_concat, reconciledBody, haccepted, Option.some_or] at hbody
    obtain rfl := Option.some.inj hbody
    have henv : tick.env = answering := funext fun call => hanswered rfl call
    have hnamed := buildDesired_named cfg c.config
    refine ⟨c.config, hdecode, (atRest_iff hnamed hro).mpr ?_⟩
    rw [henv]
    exact settled_settled hnamed w.cluster
  | reconcileFailed c e hrun hfetch hdigest hfail =>
    intro hpending
    exact absurd (latest_concat _ _ _) hpending

theorem Iterates.memory_held {w w' : World} {tick : Tick} {event : Event}
    (hspec : Iterates cfg w tick event w') (hevent : event = .reconciled ∨ Skips event)
    (hetag : Distinguishes etagOf ticks) (hsha : Distinguishes BodyCrates.sha256Hex ticks)
    {past : List LoopTurn} (h : Agrees cfg etagOf ticks past w) (hmem : tick ∈ ticks)
    (hhonest : tick.shutdown = false → Honest etagOf tick w.loop.lastEtag) :
    latest (reconciledBody cfg) (past ++ [⟨w, tick, event, w'⟩]) = some tick.held := by
  cases hspec with
  | stopped => simp [Skips] at hevent
  | fetchFailed => simp [Skips] at hevent
  | reconcileFailed => simp [Skips] at hevent
  | notModified hrun hfetch =>
    have hsent := h.etag.symm.trans ((hhonest hrun).notModified_sent hfetch)
    rw [latest_concat]
    exact hetag.eq_last h.held hmem hsent
  | unchanged c hrun hfetch hdigest =>
    have hheld := hdigest.trans (congrArg some ((hhonest hrun).changed hfetch).2.1)
    rw [latest_concat]
    exact hsha.eq_last h.held hmem (h.digest.symm.trans hheld)
  | reconciled c hrun hfetch hdigest hok =>
    rw [latest_concat, reconciledBody, ((hhonest hrun).changed hfetch).1, Option.some_or]

theorem rests_of_occurs (hro : cfg.readOnly = false) {c : Cluster}
    (hhonest : HonestRun cfg etagOf ticks c)
    (hanswered : ∀ past t, (runLoop cfg).Occurs ticks (.start c) past t → t.event = .reconciled →
      ∀ call, t.input.env call = .answered)
    {past : List LoopTurn} {t : LoopTurn} (ht : (runLoop cfg).Occurs ticks (.start c) past t) :
    Rests cfg (past ++ [t]) t.after := by
  have hinit : Rests cfg [] (.start c) := fun _ body hbody => by simp at hbody
  obtain ⟨hturn, hbefore⟩ := (runLoop cfg).invariant
    (fun _ t => (t.input.shutdown = false → Honest etagOf t.input t.before.loop.lastEtag) ∧
      (t.event = .reconciled → ∀ call, t.input.env call = .answered))
    (fun past w tick hpast hgood =>
      Rests.turn hro (iteration_iterates cfg w tick) hpast hgood.1 hgood.2) hinit
    (fun past t hocc => ⟨hhonest past t hocc, hanswered past t hocc⟩) ht
  have hspec : Iterates cfg t.before t.input t.event t.after := by
    rw [hturn]
    exact iteration_iterates cfg t.before t.input
  exact hbefore.turn hro hspec (hhonest past t ht) (hanswered past t ht)

/-- In a run against an honest server that tags every body, from any cluster: after every iteration
that reconciled or skipped, unless a reconcile failed since the last one that succeeded, the cluster
is at rest for the body that the server holds. -/
theorem run_rests (cfg : Config) (hro : cfg.readOnly = false) (etagOf : Bytes → String)
    (ticks : List Tick) (c : Cluster) (hetag : Distinguishes etagOf ticks)
    (hsha : Distinguishes BodyCrates.sha256Hex ticks) (htags : TagsEvery ticks)
    (hhonest : HonestRun cfg etagOf ticks c)
    (hanswered : ∀ past t, (runLoop cfg).Occurs ticks (.start c) past t → t.event = .reconciled →
      ∀ call, t.input.env call = .answered)
    (past : List LoopTurn) (t : LoopTurn) (ht : (runLoop cfg).Occurs ticks (.start c) past t)
    (hevent : t.event = .reconciled ∨ Skips t.event) (hpending : ¬FailurePending (past ++ [t])) :
    ∃ dynConfig, BodyCrates.decodeConfig t.input.held = some dynConfig ∧
      AtRest cfg (buildDesired cfg dynConfig) t.after.cluster := by
  obtain ⟨hspec, hagrees⟩ := agrees_of_occurs hsha htags hhonest ht
  exact rests_of_occurs hro hhonest hanswered ht hpending t.input.held
    (hspec.memory_held hevent hetag hsha hagrees ht.input_mem (hhonest past t ht))

end Loop

/-! ## A sample run, with a failed reconcile in the middle -/

section Sample
attribute [local instance] sampleHasher sampleUrlCrate sampleHttpCrate sampleBodyCrates

theorem failedTurn_digest :
    failedTurn.after.loop.lastDigest = some (BodyCrates.sha256Hex emptyBody) := by
  have hdigest : firstTurn.after.loop.lastDigest ≠ some (BodyCrates.sha256Hex routerBody) := by
    rw [firstTurn_spec.2.2]
    exact fun h => sample_digests (Option.some.inj h)
  obtain ⟨_, h⟩ : ∃ e, iteration sampleConfig firstTurn.after
      (poll routerBody (answer (some "\"b\"") routerBody) refusing) = (.reconcileFailed e second, _) :=
    iteration_reconcileFailed rfl (fetch_router _) hdigest (refusing_not_appliesOk _)
  exact (congrArg (fun r => r.2.loop.lastDigest) h).trans firstTurn_spec.2.2

theorem retryTurn_event : retryTurn.event = .reconciled := by
  have hdigest : failedTurn.after.loop.lastDigest ≠ some (BodyCrates.sha256Hex routerBody) := by
    rw [failedTurn_digest]
    exact fun h => sample_digests (Option.some.inj h)
  have h : iteration sampleConfig failedTurn.after
      (poll routerBody (answer (some "\"b\"") routerBody) answering) = _ :=
    iteration_reconciled rfl (fetch_router _) hdigest
      (answering_appliesOk sampleConfig (buildDesired_named _ _))
  exact congrArg Prod.fst h

/-- The retry of the failed reconcile brings the cluster to rest for the body with the router. -/
theorem run_rests_sample : ∃ dynConfig, BodyCrates.decodeConfig routerBody = some dynConfig ∧
    AtRest sampleConfig (buildDesired sampleConfig dynConfig) retryTurn.after.cluster := by
  obtain ⟨hsha, htags⟩ := sample_distinguishes retryTicks (by
    simp [retryTicks, poll, firstTurn, failedTurn, sampleTurn, Machine.turn])
  have hevery : TagsEvery retryTicks := by
    apply tagsEvery_answers
    intro tick hmem
    simp only [retryTicks, List.mem_cons, List.not_mem_nil, or_false] at hmem
    rcases hmem with rfl | rfl | rfl
    · exact Or.inl rfl
    · exact Or.inr (Or.inl rfl)
    · exact Or.inr (Or.inl rfl)
  have hhonest : HonestRun sampleConfig sampleEtagOf retryTicks .empty := by
    intro past t ht _
    rcases ht.of_three retry_turns with ⟨_, rfl⟩ | ⟨_, rfl⟩ | ⟨_, rfl⟩
    · exact firstTurn_honest _
    · exact failedTurn_honest _
    · exact routerAnswer_honest answering _
  have hanswered : ∀ past t, (runLoop sampleConfig).Occurs retryTicks (.start .empty) past t →
      t.event = .reconciled → ∀ call, t.input.env call = .answered := by
    intro past t ht hevent call
    rcases ht.of_three retry_turns with ⟨_, rfl⟩ | ⟨_, rfl⟩ | ⟨_, rfl⟩
    · rfl
    · obtain ⟨e, he⟩ := failedTurn_spec.1
      simp [he] at hevent
    · rfl
  refine run_rests sampleConfig rfl sampleEtagOf retryTicks .empty htags hsha hevery hhonest
    hanswered [firstTurn, failedTurn] retryTurn ⟨[], retry_turns⟩ (Or.inl retryTurn_event) ?_
  unfold FailurePending
  rw [latest_concat, retryTurn_event]
  simp

/-- A Service that nobody desires outlives the failed reconcile of the run. -/
theorem run_leaves_alone_sample :
    failedTurn.after.cluster.find .service "other" = Cluster.empty.find .service "other" := by
  refine run_leaves_alone sampleConfig retryTicks .empty .service "other" ?_ (by simp)
    [firstTurn] failedTurn ⟨[retryTurn], retry_turns⟩
  have hnone : ∀ dynConfig, dynConfig = emptyDynConfig ∨ dynConfig = routerDynConfig →
      (buildDesired sampleConfig dynConfig).find .service "other" = none := by
    intro dynConfig hbody
    apply Std.ExtTreeMap.getElem?_eq_none
    rw [← Std.ExtTreeMap.mem_keys]
    rcases hbody with rfl | rfl <;> decide
  have hconfig : ∀ {c c' : ChangedConfig} {reply : ConfigReply},
      fetch sampleConfig reply = .ok (.changed c) → fetch sampleConfig reply = .ok (.changed c') →
        c.config = c'.config := fun h h' =>
    congrArg ChangedConfig.config (FetchOutcome.changed.inj (Except.ok.inj (h.symm.trans h')))
  intro tick hmem c hfetch
  apply hnone
  simp only [retryTicks, List.mem_cons, List.not_mem_nil, or_false] at hmem
  rcases hmem with rfl | rfl | rfl
  · exact Or.inl (hconfig hfetch (fetch_empty _))
  · exact Or.inr (hconfig hfetch (fetch_router _))
  · exact Or.inr (hconfig hfetch (fetch_router _))

end Sample

end PangolinGateway
