import PangolinGateway.Reconcile.RunLoop

/-! # When the loop skips reconciling

The loop remembers an ETag and a digest. The digest is that of the last body that was reconciled;
the ETag is that of the last answer that carried one, which need not be the same body. -/
namespace PangolinGateway
set_option autoImplicit false
open Runs

section Memory
variable [DefaultHasher] [UrlCrate] [HttpCrate] [BodyCrates]

abbrev LoopTurn := Turn World Tick Event

/-- The iteration fetched without reconciling. -/
def Skips : Event → Prop
  | .notModified => True
  | .unchanged => True
  | _ => False

theorem Iterates.skips_iff {cfg : Config} {w w' : World} {tick : Tick} {event : Event}
    (h : Iterates cfg w tick event w') : Skips event ↔ tick.shutdown = false ∧
      (fetch cfg tick.reply = .ok .notModified ∨
        ∃ c, fetch cfg tick.reply = .ok (.changed c) ∧ w.loop.lastDigest = some c.digest) := by
  cases h with
  | stopped hstop => simp [Skips, hstop]
  | fetchFailed e _ hfetch => simp [Skips, hfetch]
  | notModified hrun hfetch => simp [Skips, hrun, hfetch]
  | unchanged c hrun hfetch hdigest => simp [Skips, hrun, hfetch, hdigest]
  | reconciled c _ hfetch hdigest _ => simp [Skips, hfetch, hdigest]
  | reconcileFailed c e _ hfetch hdigest _ => simp [Skips, hfetch, hdigest]

/-- The body of the iteration's 2xx answer, if the client took it. -/
def served (cfg : Config) (t : LoopTurn) : Option Bytes :=
  if t.input.shutdown then none else acceptedBody cfg t.input.reply

/-- The same, if the answer carried an ETag. -/
def tagged (cfg : Config) (t : LoopTurn) : Option Bytes :=
  match t.input.reply with
  | .response r => if r.readEtag.isSome then served cfg t else none
  | .unreachable => none

/-- The body that the iteration reconciled. -/
def reconciledBody (cfg : Config) (t : LoopTurn) : Option Bytes :=
  match t.event with
  | .reconciled => acceptedBody cfg t.input.reply
  | _ => none

/-- A server that answers from the body it holds, marks bodies by `etagOf` where it marks them, and
answers 304 only to the tag of that body. -/
structure Honest (etagOf : Bytes → String) (tick : Tick) (sent : Option String) : Prop where
  notModified : ∀ r, tick.reply = .response r → r.status = 304 → sent = some (etagOf tick.held)
  body : ∀ r raw, tick.reply = .response r → 200 ≤ r.status → r.status < 300 →
    r.body = some raw → raw = tick.held
  etag : ∀ r tag, tick.reply = .response r → 200 ≤ r.status → r.status < 300 →
    r.readEtag = some tag → tag = etagOf tick.held

/-- The server is honest towards the request of every poll of the run. -/
def HonestRun (cfg : Config) (etagOf : Bytes → String) (ticks : List Tick) (c : Cluster) : Prop :=
  ∀ past t, (runLoop cfg).Occurs ticks (.start c) past t → t.input.shutdown = false →
    Honest etagOf t.input (fetchRequest cfg t.before.loop.lastEtag).ifNoneMatch

/-- Different bodies held during the run have different marks. -/
def Distinguishes (mark : Bytes → String) (ticks : List Tick) : Prop :=
  ∀ tick ∈ ticks, ∀ tick' ∈ ticks, mark tick.held = mark tick'.held → tick.held = tick'.held

omit [DefaultHasher] [UrlCrate] [HttpCrate] [BodyCrates] in
/-- Among the bodies held during a run, the one with the mark of `last` is `last`. -/
theorem Distinguishes.eq_last {mark : Bytes → String} {ticks : List Tick}
    (h : Distinguishes mark ticks) {last : Option Bytes}
    (hlast : ∀ b, last = some b → ∃ tick ∈ ticks, tick.held = b) {tick : Tick} (hmem : tick ∈ ticks)
    (hmark : last.map mark = some (mark tick.held)) : last = some tick.held := by
  obtain ⟨b, hb, heq⟩ := Option.map_eq_some_iff.mp hmark
  obtain ⟨tick', hmem', rfl⟩ := hlast b hb
  rw [hb, h tick' hmem' tick hmem heq]

/-! ## What an honest answer shows -/

section Answers
variable {cfg : Config} {etagOf : Bytes → String} {tick : Tick} {inm : Option String} {t : LoopTurn}

omit [DefaultHasher] [UrlCrate] in
theorem Honest.changed (h : Honest etagOf tick inm) {c : ChangedConfig}
    (hfetch : fetch cfg tick.reply = .ok (.changed c)) :
    acceptedBody cfg tick.reply = some tick.held ∧
      c.digest = BodyCrates.sha256Hex tick.held ∧
      BodyCrates.decodeConfig tick.held = some c.config := by
  obtain ⟨r, raw, hreply, hlow, hhigh, hraw, hbody, _, hdigest, hdecode⟩ := fetch_changed hfetch
  obtain rfl := h.body r raw hreply hlow hhigh hraw
  exact ⟨hbody, hdigest, hdecode⟩

omit [DefaultHasher] [UrlCrate] in
theorem Honest.served (h : Honest etagOf t.input inm) (hrun : t.input.shutdown = false)
    {c : ChangedConfig} (hfetch : fetch cfg t.input.reply = .ok (.changed c)) :
    served cfg t = some t.input.held := by
  rw [PangolinGateway.served, hrun, (h.changed hfetch).1]
  rfl

omit [DefaultHasher] [UrlCrate] in
theorem Honest.tagged_map (h : Honest etagOf t.input inm) (hrun : t.input.shutdown = false)
    {c : ChangedConfig} (hfetch : fetch cfg t.input.reply = .ok (.changed c)) :
    (tagged cfg t).map etagOf = c.etag := by
  have hserved := h.served hrun hfetch
  obtain ⟨r, _, hreply, hlow, hhigh, _, _, hetag, _⟩ := fetch_changed hfetch
  rw [hetag, tagged, hreply]
  cases htag : r.readEtag with
  | none => simp [htag]
  | some tag => simp [htag, hserved, h.etag r tag hreply hlow hhigh htag]

omit [DefaultHasher] [UrlCrate] in
theorem served_none (h : ∀ c, fetch cfg t.input.reply ≠ .ok (.changed c)) :
    served cfg t = none ∧ tagged cfg t = none := by
  have hbody : acceptedBody cfg t.input.reply = none := by
    unfold acceptedBody
    split
    · next heq _ => exact absurd heq (h _)
    · rfl
  have hserved : served cfg t = none := by simp [served, hbody]
  refine ⟨hserved, ?_⟩
  unfold tagged
  split <;> simp [hserved]

omit [DefaultHasher] [UrlCrate] in
theorem served_stopped (h : t.input.shutdown = true) :
    served cfg t = none ∧ tagged cfg t = none := by
  have hserved : served cfg t = none := by simp [served, h]
  refine ⟨hserved, ?_⟩
  unfold tagged
  split <;> simp [hserved]

omit [DefaultHasher] [UrlCrate] in
theorem Honest.notModified_sent (h : Honest etagOf tick inm)
    (hfetch : fetch cfg tick.reply = .ok .notModified) : inm = some (etagOf tick.held) := by
  obtain ⟨r, hreply, hstatus⟩ := fetch_notModified hfetch
  exact h.notModified r hreply hstatus

end Answers

/-! ## The loop's memory when every reconcile succeeds -/

/-- The digest is that of the last body served, which is the last one reconciled; the ETag is that
of the last body served with an ETag. -/
structure Remembers (cfg : Config) (etagOf : Bytes → String) (ticks : List Tick)
    (past : List LoopTurn) (w : World) : Prop where
  reconciled : latest (reconciledBody cfg) past = latest (served cfg) past
  digest : w.loop.lastDigest = (latest (served cfg) past).map BodyCrates.sha256Hex
  etag : w.loop.lastEtag = (latest (tagged cfg) past).map etagOf
  held : ∀ b, latest (served cfg) past = some b → ∃ tick ∈ ticks, tick.held = b
  taggedHeld : ∀ b, latest (tagged cfg) past = some b → ∃ tick ∈ ticks, tick.held = b

/-- A turn of such a run: the server is honest, and no reconcile fails. -/
structure Succeeds (etagOf : Bytes → String) (ticks : List Tick) (t : LoopTurn) : Prop where
  mem : t.input ∈ ticks
  honest : t.input.shutdown = false → Honest etagOf t.input t.before.loop.lastEtag
  succeeded : ∀ e wait, t.event ≠ .reconcileFailed e wait

variable {cfg : Config} {etagOf : Bytes → String} {ticks : List Tick}

omit [DefaultHasher] [UrlCrate] in
theorem Remembers.idle {past : List LoopTurn} {w : World} (h : Remembers cfg etagOf ticks past w)
    {t : LoopTurn} (hserved : served cfg t = none ∧ tagged cfg t = none)
    (hevent : reconciledBody cfg t = none) {w' : World}
    (hdigest : w'.loop.lastDigest = w.loop.lastDigest) (hetag : w'.loop.lastEtag = w.loop.lastEtag) :
    Remembers cfg etagOf ticks (past ++ [t]) w' where
  reconciled := by simp [hserved.1, hevent, h.reconciled]
  digest := by simp [hserved.1, hdigest, h.digest]
  etag := by simp [hserved.2, hetag, h.etag]
  held b hb := h.held b (by simpa [hserved.1] using hb)
  taggedHeld b hb := h.taggedHeld b (by simpa [hserved.2] using hb)

omit [DefaultHasher] [UrlCrate] in
theorem tagged_held {past : List LoopTurn} {t : LoopTurn} (hmem : t.input ∈ ticks)
    (hserved : served cfg t = some t.input.held)
    (hpast : ∀ b, latest (tagged cfg) past = some b → ∃ tick ∈ ticks, tick.held = b) {b : Bytes}
    (hb : latest (tagged cfg) (past ++ [t]) = some b) : ∃ tick ∈ ticks, tick.held = b := by
  rw [latest_concat] at hb
  have htagged : tagged cfg t = none ∨ tagged cfg t = some t.input.held := by
    unfold tagged
    split
    · split
      · exact Or.inr hserved
      · exact Or.inl rfl
    · exact Or.inl rfl
  rcases htagged with hnone | hsome
  · exact hpast b (by simpa [hnone] using hb)
  · exact ⟨t.input, hmem, by simpa [hsome] using hb⟩

omit [DefaultHasher] [UrlCrate] in
/-- A turn with an accepted body, when the loop ends it with the body's digest and ETag. -/
theorem Remembers.accepted {past : List LoopTurn} {w w' : World} {t : LoopTurn}
    (h : Remembers cfg etagOf ticks past w) (hmem : t.input ∈ ticks)
    (hhonest : Honest etagOf t.input t.before.loop.lastEtag) (hrun : t.input.shutdown = false)
    {c : ChangedConfig} (hfetch : fetch cfg t.input.reply = .ok (.changed c))
    (hreconciled : latest (reconciledBody cfg) (past ++ [t]) = some t.input.held)
    (hdigest : w'.loop.lastDigest = some c.digest)
    (hetag : w'.loop.lastEtag = c.etag.or w.loop.lastEtag) :
    Remembers cfg etagOf ticks (past ++ [t]) w' := by
  have hserved := hhonest.served hrun hfetch
  have hlatest : latest (served cfg) (past ++ [t]) = some t.input.held := by
    rw [latest_concat, hserved]
    rfl
  constructor
  · rw [hreconciled, hlatest]
  · rw [hdigest, hlatest, (hhonest.changed hfetch).2.1]
    rfl
  · rw [hetag, latest_concat, Option.map_or, hhonest.tagged_map hrun hfetch, ← h.etag]
  · intro b hb
    rw [hlatest] at hb
    exact ⟨t.input, hmem, Option.some.inj hb⟩
  · exact fun b hb => tagged_held hmem hserved h.taggedHeld hb

theorem Remembers.turn (hsha : Distinguishes BodyCrates.sha256Hex ticks) {past : List LoopTurn} {w w' : World}
    {tick : Tick} {event : Event} (hspec : Iterates cfg w tick event w')
    (h : Remembers cfg etagOf ticks past w) (ht : Succeeds etagOf ticks ⟨w, tick, event, w'⟩) :
    Remembers cfg etagOf ticks (past ++ [⟨w, tick, event, w'⟩]) w' := by
  cases hspec with
  | stopped hstop => exact h.idle (served_stopped hstop) rfl rfl rfl
  | fetchFailed e _ hfetch =>
    exact h.idle (served_none fun c => by simp [hfetch]) rfl rfl rfl
  | notModified _ hfetch =>
    exact h.idle (served_none fun c => by simp [hfetch]) rfl rfl rfl
  | unchanged c hrun hfetch hdigest =>
    have hhonest := ht.honest hrun
    have hheld := hdigest.trans (congrArg some (hhonest.changed hfetch).2.1)
    have hlast := hsha.eq_last h.held ht.mem (h.digest.symm.trans hheld)
    refine h.accepted ht.mem hhonest hrun hfetch ?_ hdigest rfl
    rw [latest_concat, h.reconciled]
    exact hlast
  | reconciled c hrun hfetch hdigest hok =>
    have hhonest := ht.honest hrun
    refine h.accepted ht.mem hhonest hrun hfetch ?_ rfl rfl
    rw [latest_concat, reconciledBody, (hhonest.changed hfetch).1]
    rfl
  | reconcileFailed c e hrun hfetch hdigest hfail => exact absurd rfl (ht.succeeded e second)

/-! ## Stale skips -/

theorem remembers_of_occurs (hsha : Distinguishes BodyCrates.sha256Hex ticks) {c : Cluster}
    (hhonest : HonestRun cfg etagOf ticks c)
    (hsucceeded : ∀ past t, (runLoop cfg).Occurs ticks (.start c) past t →
      ∀ e wait, t.event ≠ .reconcileFailed e wait)
    {past : List LoopTurn} {t : LoopTurn} (ht : (runLoop cfg).Occurs ticks (.start c) past t) :
    Iterates cfg t.before t.input t.event t.after ∧ Remembers cfg etagOf ticks past t.before := by
  have hinit : Remembers cfg etagOf ticks [] (.start c) :=
    ⟨rfl, rfl, rfl, by simp, by simp⟩
  obtain ⟨hturn, hinv⟩ := (runLoop cfg).invariant (fun _ t => Succeeds etagOf ticks t)
    (fun past w tick hpast hgood => hpast.turn hsha (iteration_iterates cfg w tick) hgood)
    hinit (fun past t hocc => ⟨hocc.input_mem, hhonest past t hocc, hsucceeded past t hocc⟩) ht
  refine ⟨?_, hinv⟩
  rw [hturn]
  exact iteration_iterates cfg t.before t.input

/-- Every skip is of the last body reconciled, exactly when at every 304 the last body served is the
last body served with an ETag. -/
theorem skips_fresh_iff (cfg : Config) (etagOf : Bytes → String) (ticks : List Tick) (c : Cluster)
    (hetag : Distinguishes etagOf ticks) (hsha : Distinguishes BodyCrates.sha256Hex ticks)
    (hhonest : HonestRun cfg etagOf ticks c)
    (hsucceeded : ∀ past t, (runLoop cfg).Occurs ticks (.start c) past t →
      ∀ e wait, t.event ≠ .reconcileFailed e wait) :
    (∀ past t, (runLoop cfg).Occurs ticks (.start c) past t → Skips t.event →
        latest (reconciledBody cfg) past = some t.input.held) ↔
      ∀ past t, (runLoop cfg).Occurs ticks (.start c) past t → t.input.shutdown = false →
        fetch cfg t.input.reply = .ok .notModified →
          latest (served cfg) past = latest (tagged cfg) past := by
  refine forall_congr' fun past => forall_congr' fun t => forall_congr' fun hocc => ?_
  obtain ⟨hspec, hinv⟩ := remembers_of_occurs hsha hhonest hsucceeded hocc
  have hserver := hhonest past t hocc
  rw [hinv.reconciled, hspec.skips_iff]
  constructor
  · intro h hrun hfetch
    have hsent := hinv.etag.symm.trans ((hserver hrun).notModified_sent hfetch)
    rw [h ⟨hrun, Or.inl hfetch⟩]
    exact (hetag.eq_last hinv.taggedHeld hocc.input_mem hsent).symm
  · rintro h ⟨hrun, hfetch | ⟨changed, hfetch, hdigest⟩⟩
    · have hsent := hinv.etag.symm.trans ((hserver hrun).notModified_sent hfetch)
      rw [h hrun hfetch]
      exact hetag.eq_last hinv.taggedHeld hocc.input_mem hsent
    · have hheld := hdigest.trans (congrArg some ((hserver hrun).changed hfetch).2.1)
      exact hsha.eq_last hinv.held hocc.input_mem (hinv.digest.symm.trans hheld)

end Memory

/-! ## Two sample runs -/

section Sample
attribute [local instance] sampleHasher sampleUrlCrate sampleHttpCrate sampleBodyCrates

def sampleEtagOf (body : Bytes) : String := if body = emptyBody then "\"a\"" else "\"b\""

def poll (body : Bytes) (reply : ConfigReply) (env : Environment) : Tick :=
  ⟨false, body, reply, env, false⟩

theorem honest_answer (body : Bytes) (env : Environment) (inm : Option String) {tag : Option String}
    (htag : ∀ s, (tag.map jsonBytes).bind HttpCrate.toStr = some s → s = sampleEtagOf body) :
    Honest sampleEtagOf (poll body (answer tag body) env) inm where
  notModified r hr hstatus := by
    obtain rfl := ConfigReply.response.inj hr
    simp at hstatus
  body r raw hr _ _ hraw := by
    obtain rfl := ConfigReply.response.inj hr
    exact (Option.some.inj hraw).symm
  etag r s hr _ _ hs := by
    obtain rfl := ConfigReply.response.inj hr
    exact htag s hs

theorem honest_notModified (body : Bytes) (env : Environment) :
    Honest sampleEtagOf (poll body notModifiedAnswer env) (some (sampleEtagOf body)) where
  notModified _ _ _ := rfl
  body r raw hr hlow hhigh _ := by
    obtain rfl := ConfigReply.response.inj hr
    simp at hhigh
  etag r s hr hlow hhigh _ := by
    obtain rfl := ConfigReply.response.inj hr
    simp at hhigh

/-- The empty body with its ETag, the other body without one, and the empty body again. -/
def staleTicks : List Tick :=
  [poll emptyBody (answer (some "\"a\"") emptyBody) answering,
    poll routerBody (answer none routerBody) answering,
    poll emptyBody notModifiedAnswer answering]

def sampleTurn (w : World) (tick : Tick) : LoopTurn := (runLoop sampleConfig).turn w tick

def firstTurn : LoopTurn :=
  sampleTurn (.start .empty) (poll emptyBody (answer (some "\"a\"") emptyBody) answering)

theorem firstTurn_spec : firstTurn.event = .reconciled ∧
    firstTurn.after.loop.lastEtag = some "\"a\"" ∧
    firstTurn.after.loop.lastDigest = some (BodyCrates.sha256Hex emptyBody) := by
  have h : iteration sampleConfig (.start .empty)
      (poll emptyBody (answer (some "\"a\"") emptyBody) answering) = _ :=
    iteration_reconciled rfl (fetch_empty _) (by simp [World.start])
      (answering_appliesOk sampleConfig (buildDesired_named _ _))
  exact ⟨congrArg Prod.fst h, congrArg (fun r => r.2.loop.lastEtag) h,
    congrArg (fun r => r.2.loop.lastDigest) h⟩

def untaggedTurn : LoopTurn :=
  sampleTurn firstTurn.after (poll routerBody (answer none routerBody) answering)

theorem untaggedTurn_spec : untaggedTurn.event = .reconciled ∧
    untaggedTurn.after.loop.lastEtag = some "\"a\"" := by
  have hdigest : firstTurn.after.loop.lastDigest ≠ some (BodyCrates.sha256Hex routerBody) := by
    rw [firstTurn_spec.2.2]
    exact fun h => sample_digests (Option.some.inj h)
  have h : iteration sampleConfig firstTurn.after
      (poll routerBody (answer none routerBody) answering) = _ :=
    iteration_reconciled rfl (fetch_router _) hdigest
      (answering_appliesOk sampleConfig (buildDesired_named _ _))
  refine ⟨congrArg Prod.fst h, ?_⟩
  have hetag := congrArg (fun r => r.2.loop.lastEtag) h
  exact hetag.trans firstTurn_spec.2.1

/-- A poll of the empty body that is answered with a 304. -/
def backTurn (w : World) : LoopTurn := sampleTurn w (poll emptyBody notModifiedAnswer answering)

theorem backTurn_event (w : World) : (backTurn w).event = .notModified := rfl

theorem stale_turns : (runLoop sampleConfig).turns staleTicks (.start .empty) =
    [firstTurn, untaggedTurn, backTurn untaggedTurn.after] := by
  rfl

theorem sample_distinguishes (ticks : List Tick)
    (h : ∀ tick ∈ ticks, tick.held = emptyBody ∨ tick.held = routerBody) :
    Distinguishes BodyCrates.sha256Hex ticks ∧ Distinguishes sampleEtagOf ticks := by
  have htags : sampleEtagOf emptyBody ≠ sampleEtagOf routerBody := by
    simp [sampleEtagOf, routerBody_ne]
  constructor
  · intro tick hmem tick' hmem' heq
    rcases h tick hmem with h₁ | h₁ <;> rcases h tick' hmem' with h₂ | h₂ <;>
      rw [h₁, h₂] at heq ⊢
    · exact absurd heq sample_digests
    · exact absurd heq sample_digests.symm
  · intro tick hmem tick' hmem' heq
    rcases h tick hmem with h₁ | h₁ <;> rcases h tick' hmem' with h₂ | h₂ <;>
      rw [h₁, h₂] at heq ⊢
    · exact absurd heq htags
    · exact absurd heq htags.symm

theorem sample_tag : ((some "\"a\"").map jsonBytes).bind HttpCrate.toStr =
    some (sampleEtagOf emptyBody) := by decide

theorem firstTurn_honest (inm : Option String) : Honest sampleEtagOf firstTurn.input inm :=
  honest_answer emptyBody answering inm fun _ hs => Option.some.inj (hs.symm.trans sample_tag)

theorem backTurn_honest {w : World} (h : w.loop.lastEtag = some "\"a\"") :
    Honest sampleEtagOf (backTurn w).input
      (fetchRequest sampleConfig (backTurn w).before.loop.lastEtag).ifNoneMatch := by
  have hsent : (fetchRequest sampleConfig (backTurn w).before.loop.lastEtag).ifNoneMatch =
      some (sampleEtagOf emptyBody) := h
  rw [hsent]
  exact honest_notModified emptyBody answering

theorem stale_honest : HonestRun sampleConfig sampleEtagOf staleTicks .empty := by
  intro past t ht _
  rcases ht.of_three stale_turns with ⟨_, rfl⟩ | ⟨_, rfl⟩ | ⟨_, rfl⟩
  · exact firstTurn_honest _
  · exact honest_answer routerBody answering _ fun _ hs => by simp at hs
  · exact backTurn_honest untaggedTurn_spec.2

theorem acceptedBody_router (tag : Option String) :
    acceptedBody sampleConfig (answer tag routerBody) = some routerBody := by
  unfold acceptedBody
  rw [fetch_router]
  rfl

/-- The third poll of the stale run is answered with a 304 and skipped, while the body reconciled
last is the other one. -/
theorem stale_skip :
    (Distinguishes BodyCrates.sha256Hex staleTicks ∧ Distinguishes sampleEtagOf staleTicks ∧
      HonestRun sampleConfig sampleEtagOf staleTicks .empty ∧
      ∀ past t, (runLoop sampleConfig).Occurs staleTicks (.start .empty) past t →
        ∀ e wait, t.event ≠ .reconcileFailed e wait) ∧
    ∃ past t, (runLoop sampleConfig).Occurs staleTicks (.start .empty) past t ∧ Skips t.event ∧
      latest (reconciledBody sampleConfig) past ≠ some t.input.held := by
  obtain ⟨hsha, htags⟩ := sample_distinguishes staleTicks (by simp [staleTicks, poll])
  refine ⟨⟨hsha, htags, stale_honest, ?_⟩, ?_⟩
  · intro past t ht e wait
    rcases ht.of_three stale_turns with ⟨_, rfl⟩ | ⟨_, rfl⟩ | ⟨_, rfl⟩
    · simp [firstTurn_spec.1]
    · simp [untaggedTurn_spec.1]
    · simp [backTurn_event]
  · refine ⟨[firstTurn, untaggedTurn], backTurn untaggedTurn.after, ⟨[], stale_turns⟩, trivial, ?_⟩
    have hlast : reconciledBody sampleConfig untaggedTurn = some routerBody := by
      rw [reconciledBody, untaggedTurn_spec.1]
      exact acceptedBody_router none
    have hlatest := latest_concat (reconciledBody sampleConfig) [firstTurn] untaggedTurn
    rw [hlast] at hlatest
    intro h
    exact routerBody_ne (Option.some.inj (hlatest.symm.trans h))

/-- The empty body with its ETag, then twice unmodified. -/
def freshTicks : List Tick :=
  [poll emptyBody (answer (some "\"a\"") emptyBody) answering,
    poll emptyBody notModifiedAnswer answering, poll emptyBody notModifiedAnswer answering]

theorem fresh_turns : (runLoop sampleConfig).turns freshTicks (.start .empty) =
    [firstTurn, backTurn firstTurn.after, backTurn (backTurn firstTurn.after).after] := by
  rfl

/-- Both polls of the fresh run that are answered with a 304 skip the body reconciled last. -/
theorem skips_fresh_sample :
    latest (reconciledBody sampleConfig) [firstTurn] = some emptyBody ∧
      latest (reconciledBody sampleConfig) [firstTurn, backTurn firstTurn.after] =
        some emptyBody := by
  obtain ⟨hsha, htags⟩ := sample_distinguishes freshTicks (by simp [freshTicks, poll])
  have hhonest : HonestRun sampleConfig sampleEtagOf freshTicks .empty := by
    intro past t ht _
    rcases ht.of_three fresh_turns with ⟨_, rfl⟩ | ⟨_, rfl⟩ | ⟨_, rfl⟩
    · exact firstTurn_honest _
    · exact backTurn_honest firstTurn_spec.2.1
    · exact backTurn_honest firstTurn_spec.2.1
  have hsucceeded : ∀ past t, (runLoop sampleConfig).Occurs freshTicks (.start .empty) past t →
      ∀ e wait, t.event ≠ .reconcileFailed e wait := by
    intro past t ht e wait
    rcases ht.of_three fresh_turns with ⟨_, rfl⟩ | ⟨_, rfl⟩ | ⟨_, rfl⟩
    · simp [firstTurn_spec.1]
    · simp [backTurn_event]
    · simp [backTurn_event]
  have hfresh := (skips_fresh_iff sampleConfig sampleEtagOf freshTicks .empty htags hsha hhonest
    hsucceeded).mpr (by
      intro past t ht _ hfetch
      rcases ht.of_three fresh_turns with ⟨rfl, rfl⟩ | ⟨rfl, rfl⟩ | ⟨rfl, rfl⟩ <;> rfl)
  exact ⟨hfresh [firstTurn] (backTurn firstTurn.after) ⟨_, fresh_turns⟩ trivial,
    hfresh [firstTurn, backTurn firstTurn.after] _ ⟨[], fresh_turns⟩ trivial⟩

end Sample

end PangolinGateway
