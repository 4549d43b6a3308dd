import PangolinGateway.Reconcile.Skips

/-! # Readiness and the memory of the loop

The flag, the digest and the ETag are set on different branches of an iteration. A 304 sets the flag
alone, but comes only in answer to a request with an ETag, and the ETag comes after a digest. -/
namespace PangolinGateway
set_option autoImplicit false
open Runs Calls

section Flag
variable [DefaultHasher] [UrlCrate] [HttpCrate] [BodyCrates]

/-- The turn reconciled a new configuration, and its `reconcile_once` returned `Ok`. -/
def ReconciledOk (cfg : Config) (t : LoopTurn) : Prop :=
  t.event = .reconciled ∧ ∃ c, fetch cfg t.input.reply = .ok (.changed c) ∧
    ((reconcileOnce cfg (buildDesired cfg c.config)).run (serve t.input.env) t.before.cluster).1 =
      .ok ()

/-- What flag, digest and ETag say about each other after `past`. -/
structure Consistent (cfg : Config) (past : List LoopTurn) (w : World) : Prop where
  ready : w.loop.ready = true ↔ w.loop.lastDigest.isSome = true
  reconciled : w.loop.lastDigest.isSome = true → ∃ t ∈ past, ReconciledOk cfg t
  etag : w.loop.lastEtag.isSome = true → w.loop.lastDigest.isSome = true
  sticky : ∀ t ∈ past, t.after.loop.ready = true → w.loop.ready = true

/-- The server answers 304 only to a request that carried `If-None-Match`. -/
def AnswersConditionally (cfg : Config) (t : LoopTurn) : Prop :=
  t.input.shutdown = false → ∀ r, t.input.reply = .response r → r.status = 304 →
    (fetchRequest cfg t.before.loop.lastEtag).ifNoneMatch.isSome = true

/-! ## One turn -/

variable {cfg : Config} {past : List LoopTurn} {w w' : World} {t : LoopTurn}

/-- A turn that leaves digest and ETag alone, and with them the flag. -/
theorem Consistent.idle (h : Consistent cfg past w) (hdigest : w'.loop.lastDigest = w.loop.lastDigest)
    (hetag : w'.loop.lastEtag = w.loop.lastEtag) (hready : w'.loop.ready = w.loop.ready)
    (hafter : t.after = w') : Consistent cfg (past ++ [t]) w' where
  ready := by rw [hready, hdigest, h.ready]
  reconciled hsome := by
    obtain ⟨t', hmem, hok⟩ := h.reconciled (by rwa [hdigest] at hsome)
    exact ⟨t', List.mem_append_left [t] hmem, hok⟩
  etag := by rw [hetag, hdigest]; exact h.etag
  sticky t' hmem hset := by
    rw [hready]
    rcases List.mem_append.mp hmem with hold | hnew
    · exact h.sticky t' hold hset
    · rw [List.mem_singleton.mp hnew, hafter, hready] at hset
      exact hset

/-- A turn that ends with the flag and a digest set. -/
theorem Consistent.settled (hready : w'.loop.ready = true) (hdigest : w'.loop.lastDigest.isSome = true)
    (hok : ∃ t' ∈ past ++ [t], ReconciledOk cfg t') : Consistent cfg (past ++ [t]) w' where
  ready := by simp [hready, hdigest]
  reconciled _ := hok
  etag _ := hdigest
  sticky _ _ _ := hready

theorem Consistent.reconciled_later (h : Consistent cfg past w)
    (hdigest : w.loop.lastDigest.isSome = true) : ∃ t' ∈ past ++ [t], ReconciledOk cfg t' := by
  obtain ⟨t', hmem, hok⟩ := h.reconciled hdigest
  exact ⟨t', List.mem_append_left [t] hmem, hok⟩

theorem Consistent.turn {tick : Tick} {event : Event} (hspec : Iterates cfg w tick event w')
    (h : Consistent cfg past w) (hserver : AnswersConditionally cfg ⟨w, tick, event, w'⟩) :
    Consistent cfg (past ++ [⟨w, tick, event, w'⟩]) w' := by
  cases hspec with
  | stopped hstop => exact h.idle rfl rfl rfl rfl
  | fetchFailed e _ hfetch => exact h.idle rfl rfl rfl rfl
  | reconcileFailed c e _ hfetch _ hfail => exact h.idle rfl rfl rfl rfl
  | notModified hrun hfetch =>
    -- the request carried the ETag, so a digest is there already
    obtain ⟨r, hreply, hstatus⟩ := fetch_notModified hfetch
    have hdigest := h.etag (hserver hrun r hreply hstatus)
    exact .settled rfl hdigest (h.reconciled_later hdigest)
  | unchanged c _ hfetch hdigest =>
    have hsome : w.loop.lastDigest.isSome = true := by rw [hdigest]; rfl
    exact .settled rfl hsome (h.reconciled_later hsome)
  | reconciled c _ hfetch _ hok =>
    have hreturned := (reconcileOnce_ok cfg tick.env (buildDesired cfg c.config) w.cluster).mpr hok
    exact .settled rfl rfl ⟨_, List.mem_append_right past List.mem_cons_self, rfl, c, hfetch,
      hreturned⟩

theorem Consistent.start (cfg : Config) (c : Cluster) : Consistent cfg [] (.start c) where
  ready := by simp [World.start]
  reconciled h := nomatch h
  etag h := nomatch h
  sticky _ h := nomatch h

/-! ## A whole run -/

/-- Before and after every turn of a run, flag and digest are set together, after a reconcile that
returned `Ok`, before any ETag, and for good. -/
theorem readiness_consistent (cfg : Config) (ticks : List Tick) (c : Cluster)
    (hserver : ∀ past t, (runLoop cfg).Occurs ticks (.start c) past t → AnswersConditionally cfg t)
    (past : List LoopTurn) (t : LoopTurn) (ht : (runLoop cfg).Occurs ticks (.start c) past t) :
    Consistent cfg past t.before ∧ Consistent cfg (past ++ [t]) t.after := by
  obtain ⟨hturn, hbefore⟩ := (runLoop cfg).invariant (fun _ t => AnswersConditionally cfg t)
    (fun past w tick hpast hgood => hpast.turn (iteration_iterates cfg w tick) hgood)
    (Consistent.start cfg c) hserver ht
  have hafter := hbefore.turn (iteration_iterates cfg t.before t.input) (hturn ▸ hserver past t ht)
  refine ⟨hbefore, ?_⟩
  rw [hturn]
  exact hafter

end Flag

section Sample
attribute [local instance] sampleHasher sampleUrlCrate sampleHttpCrate sampleBodyCrates

/-- After a reconcile and two 304s the flag is set, as it was before them. -/
theorem readiness_consistent_sample :
    Consistent sampleConfig [firstTurn, backTurn firstTurn.after]
        (backTurn firstTurn.after).after ∧
      Consistent sampleConfig [firstTurn, backTurn firstTurn.after,
        backTurn (backTurn firstTurn.after).after] (backTurn (backTurn firstTurn.after).after).after := by
  have hserver : ∀ past t, (runLoop sampleConfig).Occurs freshTicks (.start .empty) past t →
      AnswersConditionally sampleConfig t := by
    intro past t ht _ r hreply hstatus
    have hsent : (firstTurn.after).loop.lastEtag.isSome = true := by rw [firstTurn_spec.2.1]; rfl
    rcases ht.of_three fresh_turns with ⟨_, rfl⟩ | ⟨_, rfl⟩ | ⟨_, rfl⟩
    · obtain rfl := ConfigReply.response.inj hreply
      simp at hstatus
    · exact hsent
    · exact hsent
  exact readiness_consistent sampleConfig freshTicks .empty hserver
    [firstTurn, backTurn firstTurn.after] _ ⟨[], fresh_turns⟩

end Sample

end PangolinGateway
