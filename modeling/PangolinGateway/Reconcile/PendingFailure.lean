import PangolinGateway.Reconcile.Skips

/-! # Skipping while a failed reconcile is pending

A reconcile that fails leaves the digest and the ETag of the last one that succeeded, so a server
that goes back to that body is skipped although the cluster holds part of another. -/
namespace PangolinGateway
set_option autoImplicit false
open Runs

section Memory
variable [DefaultHasher] [UrlCrate] [HttpCrate] [BodyCrates]
variable {cfg : Config} {etagOf : Bytes → String} {ticks : List Tick}

/-- Every 2xx answer of the run carries an ETag that the client can read. -/
def TagsEvery (ticks : List Tick) : Prop :=
  ∀ tick ∈ ticks, ∀ r, tick.reply = .response r → 200 ≤ r.status → r.status < 300 →
    r.readEtag.isSome = true

/-- Digest and ETag are both those of the last body that was reconciled. -/
structure Agrees (cfg : Config) (etagOf : Bytes → String) (ticks : List Tick)
    (past : List LoopTurn) (w : World) : Prop where
  digest : w.loop.lastDigest = (latest (reconciledBody cfg) past).map BodyCrates.sha256Hex
  etag : w.loop.lastEtag = (latest (reconciledBody cfg) past).map etagOf
  held : ∀ b, latest (reconciledBody cfg) past = some b → ∃ tick ∈ ticks, tick.held = b

/-- Some reconcile failed, and none has succeeded since. -/
def FailurePending (past : List LoopTurn) : Prop :=
  latest (fun t => match t.event with
    | .reconciled => some false
    | .reconcileFailed _ _ => some true
    | _ => none) past = some true

omit [DefaultHasher] [UrlCrate] in
theorem Honest.etag_held {tick : Tick} {inm : Option String} (h : Honest etagOf tick inm)
    (htags : TagsEvery ticks) (hmem : tick ∈ ticks) {c : ChangedConfig}
    (hfetch : fetch cfg tick.reply = .ok (.changed c)) : c.etag = some (etagOf tick.held) := by
  obtain ⟨r, _, hreply, hlow, hhigh, _, _, hetag, _⟩ := fetch_changed hfetch
  obtain ⟨tag, htag⟩ := Option.isSome_iff_exists.mp (htags tick hmem r hreply hlow hhigh)
  rw [hetag, htag, h.etag r tag hreply hlow hhigh htag]

omit [DefaultHasher] [UrlCrate] in
theorem Agrees.idle {past : List LoopTurn} {w : World} (h : Agrees cfg etagOf ticks past w)
    {t : LoopTurn} (hevent : reconciledBody cfg t = none) {w' : World}
    (hdigest : w'.loop.lastDigest = w.loop.lastDigest) (hetag : w'.loop.lastEtag = w.loop.lastEtag) :
    Agrees cfg etagOf ticks (past ++ [t]) w' where
  digest := by simp [hevent, hdigest, h.digest]
  etag := by simp [hevent, hetag, h.etag]
  held b hb := h.held b (by simpa [hevent] using hb)

theorem Agrees.turn (hsha : Distinguishes BodyCrates.sha256Hex ticks) (htags : TagsEvery ticks) {past : List LoopTurn}
    {w w' : World} {tick : Tick} {event : Event} (hspec : Iterates cfg w tick event w')
    (h : Agrees cfg etagOf ticks past w) (hmem : tick ∈ ticks)
    (hhonest : tick.shutdown = false → Honest etagOf tick w.loop.lastEtag) :
    Agrees cfg etagOf ticks (past ++ [⟨w, tick, event, w'⟩]) w' := by
  cases hspec with
  | stopped hstop => exact h.idle rfl rfl rfl
  | fetchFailed e _ hfetch => exact h.idle rfl rfl rfl
  | notModified _ hfetch => exact h.idle rfl rfl rfl
  | unchanged c hrun hfetch hdigest =>
    have hheld := hdigest.trans (congrArg some ((hhonest hrun).changed hfetch).2.1)
    have hlast := hsha.eq_last h.held hmem (h.digest.symm.trans hheld)
    refine h.idle rfl rfl ?_
    calc c.etag.or w.loop.lastEtag = some (etagOf tick.held) := by
          rw [(hhonest hrun).etag_held htags hmem hfetch]
          rfl
      _ = w.loop.lastEtag := by
          rw [h.etag, hlast]
          rfl
  | reconciled c hrun hfetch hdigest hok =>
    obtain ⟨hbody, hdigest', _⟩ := (hhonest hrun).changed hfetch
    have htag := (hhonest hrun).etag_held htags hmem hfetch
    constructor
    · rw [latest_concat, reconciledBody, hbody]
      exact congrArg some hdigest'
    · rw [latest_concat, reconciledBody, hbody, LoopState.settle, htag]
      rfl
    · intro b hb
      rw [latest_concat, reconciledBody, hbody] at hb
      exact ⟨tick, hmem, Option.some.inj hb⟩
  | reconcileFailed c e hrun hfetch hdigest hfail => exact h.idle rfl rfl rfl

theorem agrees_of_occurs (hsha : Distinguishes BodyCrates.sha256Hex ticks) (htags : TagsEvery ticks) {c : Cluster}
    (hhonest : HonestRun cfg etagOf ticks c) {past : List LoopTurn} {t : LoopTurn}
    (ht : (runLoop cfg).Occurs ticks (.start c) past t) :
    Iterates cfg t.before t.input t.event t.after ∧ Agrees cfg etagOf ticks past t.before := by
  have hinit : Agrees cfg etagOf ticks [] (.start c) := ⟨rfl, rfl, by simp⟩
  obtain ⟨hturn, hinv⟩ := (runLoop cfg).invariant
    (fun _ t => t.input ∈ ticks ∧
      (t.input.shutdown = false → Honest etagOf t.input t.before.loop.lastEtag))
    (fun past w tick hpast hgood =>
      hpast.turn hsha htags (iteration_iterates cfg w tick) hgood.1 hgood.2)
    hinit (fun past t hocc => ⟨hocc.input_mem, hhonest past t hocc⟩) ht
  refine ⟨?_, hinv⟩
  rw [hturn]
  exact iteration_iterates cfg t.before t.input

/-- While a failed reconcile is pending nothing is skipped, exactly when no poll that succeeds
meanwhile finds the server back at the body of the last successful reconcile. -/
theorem pending_not_skipped_iff (cfg : Config) (etagOf : Bytes → String) (ticks : List Tick)
    (c : Cluster) (hetag : Distinguishes etagOf ticks) (hsha : Distinguishes BodyCrates.sha256Hex ticks)
    (htags : TagsEvery ticks) (hhonest : HonestRun cfg etagOf ticks c) :
    (∀ past t, (runLoop cfg).Occurs ticks (.start c) past t → FailurePending past →
        ¬Skips t.event) ↔
      ∀ past t, (runLoop cfg).Occurs ticks (.start c) past t → FailurePending past →
        t.input.shutdown = false → (∃ outcome, fetch cfg t.input.reply = .ok outcome) →
          latest (reconciledBody cfg) past ≠ some t.input.held := by
  refine forall_congr' fun past => forall_congr' fun t => forall_congr' fun hocc => ?_
  apply imp_congr_right
  intro _
  obtain ⟨hspec, hinv⟩ := agrees_of_occurs hsha htags hhonest hocc
  have hserver := hhonest past t hocc
  rw [hspec.skips_iff]
  constructor
  · rintro hno hrun ⟨outcome, hfetch⟩ hlast
    refine hno ⟨hrun, ?_⟩
    cases outcome with
    | notModified => exact Or.inl hfetch
    | changed changed =>
      refine Or.inr ⟨changed, hfetch, ?_⟩
      rw [hinv.digest, hlast, ((hserver hrun).changed hfetch).2.1]
      rfl
  · rintro hno ⟨hrun, hfetch | ⟨changed, hfetch, hdigest⟩⟩
    · have hsent := hinv.etag.symm.trans ((hserver hrun).notModified_sent hfetch)
      exact hno hrun ⟨_, hfetch⟩ (hetag.eq_last hinv.held hocc.input_mem hsent)
    · have hheld := hdigest.trans (congrArg some ((hserver hrun).changed hfetch).2.1)
      exact hno hrun ⟨_, hfetch⟩
        (hsha.eq_last hinv.held hocc.input_mem (hinv.digest.symm.trans hheld))

end Memory

/-! ## A failed reconcile, and the server back at the body before -/

section Sample
attribute [local instance] sampleHasher sampleUrlCrate sampleHttpCrate sampleBodyCrates

def refusing : Environment := fun _ => .failed (.api 500)

theorem refusing_not_appliesOk (dynConfig : TraefikDynamicConfig) :
    ¬AppliesOk sampleConfig refusing (buildDesired sampleConfig dynConfig) := by
  intro h
  have hnamed := buildDesired_named sampleConfig dynConfig
  have hlookup : ((buildDesired sampleConfig dynConfig).find .listenerSet
      (dnsLabel sampleConfig.listenerSetName)).isSome = true := by
    rw [Desired.find, Desired.objects, buildDesired_listenerSets,
      Std.ExtTreeMap.getElem?_insert_self]
    rfl
  obtain ⟨ls, hls⟩ := Option.isSome_iff_exists.mp hlookup
  have hok := h ⟨.listenerSet, ls⟩ (Desired.mem_entries.mpr ⟨_, hls⟩)
  have hanswered := (applyResult_ok (hnamed _ _ _ hls)).mp hok rfl
  simp [refusing] at hanswered

def failedTurn : LoopTurn :=
  sampleTurn firstTurn.after (poll routerBody (answer (some "\"b\"") routerBody) refusing)

theorem failedTurn_spec : (∃ e, failedTurn.event = .reconcileFailed e second) ∧
    failedTurn.after.loop.lastEtag = some "\"a\"" := by
  have hdigest : firstTurn.after.loop.lastDigest ≠ some (BodyCrates.sha256Hex routerBody) := by
    rw [firstTurn_spec.2.2]
    exact fun h => sample_digests (Option.some.inj h)
  obtain ⟨e, h⟩ : ∃ e, iteration sampleConfig firstTurn.after
      (poll routerBody (answer (some "\"b\"") routerBody) refusing) = (.reconcileFailed e second, _) :=
    iteration_reconcileFailed rfl (fetch_router _) hdigest (refusing_not_appliesOk _)
  refine ⟨⟨e, congrArg Prod.fst h⟩, ?_⟩
  have hetag := congrArg (fun r => r.2.loop.lastEtag) h
  exact hetag.trans firstTurn_spec.2.1

theorem routerAnswer_honest (env : Environment) (inm : Option String) :
    Honest sampleEtagOf (poll routerBody (answer (some "\"b\"") routerBody) env) inm := by
  have htag : ((some "\"b\"").map jsonBytes).bind HttpCrate.toStr =
      some (sampleEtagOf routerBody) := by decide
  exact honest_answer routerBody env inm fun _ hs => Option.some.inj (hs.symm.trans htag)

theorem failedTurn_honest (inm : Option String) : Honest sampleEtagOf failedTurn.input inm :=
  routerAnswer_honest refusing inm

theorem failure_pending : FailurePending [firstTurn, failedTurn] := by
  obtain ⟨e, he⟩ := failedTurn_spec.1
  unfold FailurePending
  have h := latest_concat (fun t : LoopTurn => match t.event with
    | .reconciled => some false
    | .reconcileFailed _ _ => some true
    | _ => none) [firstTurn] failedTurn
  simp only [he] at h
  exact h

theorem latest_first : latest (reconciledBody sampleConfig) [firstTurn] = some emptyBody := by
  have hfirst : reconciledBody sampleConfig firstTurn = some emptyBody := by
    rw [reconciledBody, firstTurn_spec.1]
    rfl
  have h := latest_concat (reconciledBody sampleConfig) [] firstTurn
  rwa [hfirst] at h

theorem latest_failed : latest (reconciledBody sampleConfig) [firstTurn, failedTurn] =
    some emptyBody := by
  obtain ⟨e, he⟩ := failedTurn_spec.1
  have hfailed : reconciledBody sampleConfig failedTurn = none := by rw [reconciledBody, he]
  have h := latest_concat (reconciledBody sampleConfig) [firstTurn] failedTurn
  rw [hfailed] at h
  exact h.trans latest_first

def rollbackTicks : List Tick :=
  [firstTurn.input, failedTurn.input, poll emptyBody notModifiedAnswer answering]

theorem rollback_turns : (runLoop sampleConfig).turns rollbackTicks (.start .empty) =
    [firstTurn, failedTurn, backTurn failedTurn.after] := by
  rfl

theorem tagsEvery_answers {ticks : List Tick}
    (h : ∀ tick ∈ ticks, tick.reply = answer (some "\"a\"") emptyBody ∨
      tick.reply = answer (some "\"b\"") routerBody ∨ tick.reply = notModifiedAnswer) :
    TagsEvery ticks := by
  intro tick hmem r hr _ hhigh
  rcases h tick hmem with h | h | h <;>
    obtain rfl := ConfigReply.response.inj (hr.symm.trans h)
  · decide
  · decide
  · simp at hhigh

/-- The third poll of the run is skipped while the failure of the second is pending. -/
theorem pending_skip :
    (Distinguishes BodyCrates.sha256Hex rollbackTicks ∧ Distinguishes sampleEtagOf rollbackTicks ∧
      TagsEvery rollbackTicks ∧ HonestRun sampleConfig sampleEtagOf rollbackTicks .empty) ∧
    ∃ past t, (runLoop sampleConfig).Occurs rollbackTicks (.start .empty) past t ∧
      FailurePending past ∧ Skips t.event := by
  obtain ⟨hsha, htags⟩ := sample_distinguishes rollbackTicks (by
    simp [rollbackTicks, poll, firstTurn, failedTurn, sampleTurn, Machine.turn])
  refine ⟨⟨hsha, htags, ?_, ?_⟩, ?_⟩
  · apply tagsEvery_answers
    intro tick hmem
    simp only [rollbackTicks, List.mem_cons, List.not_mem_nil, or_false] at hmem
    rcases hmem with rfl | rfl | rfl
    · exact Or.inl rfl
    · exact Or.inr (Or.inl rfl)
    · exact Or.inr (Or.inr rfl)
  · intro past t ht _
    rcases ht.of_three rollback_turns with ⟨_, rfl⟩ | ⟨_, rfl⟩ | ⟨_, rfl⟩
    · exact firstTurn_honest _
    · exact failedTurn_honest _
    · exact backTurn_honest failedTurn_spec.2
  · exact ⟨[firstTurn, failedTurn], backTurn failedTurn.after, ⟨[], rollback_turns⟩,
      failure_pending, trivial⟩

def retryTicks : List Tick :=
  [firstTurn.input, failedTurn.input,
    poll routerBody (answer (some "\"b\"") routerBody) answering]

def retryTurn : LoopTurn :=
  sampleTurn failedTurn.after (poll routerBody (answer (some "\"b\"") routerBody) answering)

theorem retry_turns : (runLoop sampleConfig).turns retryTicks (.start .empty) =
    [firstTurn, failedTurn, retryTurn] := by
  rfl

/-- The poll after the failure reconciles again. -/
theorem pending_not_skipped_sample : FailurePending [firstTurn, failedTurn] ∧
    ¬Skips retryTurn.event := by
  obtain ⟨hsha, htags⟩ := sample_distinguishes retryTicks (by
    simp [retryTicks, poll, firstTurn, failedTurn, sampleTurn, Machine.turn])
  have hevery : TagsEvery retryTicks := by
    apply tagsEvery_answers
    intro tick hmem
    simp only [retryTicks, List.mem_cons, List.not_mem_nil, or_false] at hmem
    rcases hmem with rfl | rfl | rfl
    · exact Or.inl rfl
    · exact Or.inr (Or.inl rfl)
    · exact Or.inr (Or.inl rfl)
  have hhonest : HonestRun sampleConfig sampleEtagOf retryTicks .empty := by
    intro past t ht _
    rcases ht.of_three retry_turns with ⟨_, rfl⟩ | ⟨_, rfl⟩ | ⟨_, rfl⟩
    · exact firstTurn_honest _
    · exact failedTurn_honest _
    · exact routerAnswer_honest answering _
  refine ⟨failure_pending, ?_⟩
  refine (pending_not_skipped_iff sampleConfig sampleEtagOf retryTicks .empty htags hsha hevery
    hhonest).mpr ?_ [firstTurn, failedTurn] retryTurn ⟨[], retry_turns⟩ failure_pending
  intro past t ht hpending _ _
  rcases ht.of_three retry_turns with ⟨rfl, rfl⟩ | ⟨rfl, rfl⟩ | ⟨rfl, rfl⟩
  · simp [FailurePending] at hpending
  · rw [latest_first]
    exact fun h => routerBody_ne (Option.some.inj h).symm
  · rw [latest_failed]
    exact fun h => routerBody_ne (Option.some.inj h).symm

end Sample

end PangolinGateway
