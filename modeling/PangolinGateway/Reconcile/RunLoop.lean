import PangolinGateway.Pangolin.Client
import PangolinGateway.Reconcile.ReconcileOnce
import PangolinGateway.Runs.Turns
import PangolinGateway.Transform.Named

/-! # The reconcile loop: poll pangolin, transform, apply, sweep -/
namespace PangolinGateway
set_option autoImplicit false
open Calls

structure LoopState where
  lastEtag : Option String
  lastDigest : Option String
  backoff : ℕ
  ready : Bool

structure World where
  loop : LoopState
  cluster : Cluster

/-- What one iteration meets from outside. -/
structure Tick where
  /-- The shutdown token is cancelled when the iteration begins. -/
  shutdown : Bool
  /-- The body pangolin holds during the poll. The loop sees only the reply. -/
  held : Bytes
  reply : ConfigReply
  env : Environment
  /-- The token is cancelled before the wait at the end of the iteration is over. -/
  shutdownInWait : Bool

inductive Event where
  | stopped
  | fetchFailed (e : FetchError) (wait : ℕ)
  | notModified
  | unchanged
  | reconciled
  | reconcileFailed (e : ReconcileError) (wait : ℕ)

def second : ℕ := 1000000000

def nextBackoff (cfg : Config) (backoff : ℕ) : ℕ := min (backoff * 2) cfg.maxBackoff

def LoopState.settle (s : LoopState) (digest : Option String) (etag : Option String) : LoopState :=
  { s with lastDigest := digest, ready := true, lastEtag := etag.or s.lastEtag }

section Loop
variable [DefaultHasher] [UrlCrate] [HttpCrate] [BodyCrates]

def iteration (cfg : Config) (w : World) (tick : Tick) : Event × World :=
  if tick.shutdown then (.stopped, w)
  else match fetch cfg tick.reply with
    | .error e =>
      (.fetchFailed e w.loop.backoff,
        ⟨{ w.loop with backoff := nextBackoff cfg w.loop.backoff }, w.cluster⟩)
    | .ok outcome =>
      let loop := { w.loop with backoff := second }
      match outcome with
      | .notModified => (.notModified, ⟨{ loop with ready := true }, w.cluster⟩)
      | .changed c =>
        if loop.lastDigest = some c.digest then
          (.unchanged, ⟨loop.settle loop.lastDigest c.etag, w.cluster⟩)
        else
          match (reconcileOnce cfg (buildDesired cfg c.config)).run (serve tick.env) w.cluster with
          | (.error e, cluster) =>
            (.reconcileFailed e loop.backoff,
              ⟨{ loop with backoff := nextBackoff cfg loop.backoff }, cluster⟩)
          | (.ok (), cluster) => (.reconciled, ⟨loop.settle (some c.digest) c.etag, cluster⟩)

/-- The loop as a machine: it returns when the token is cancelled. -/
def runLoop (cfg : Config) : Runs.Machine World Tick Event where
  next := iteration cfg
  ends tick _ := tick.shutdown || tick.shutdownInWait

omit [DefaultHasher] [UrlCrate] [HttpCrate] [BodyCrates] in
def World.start (c : Cluster) : World := ⟨⟨none, none, second, false⟩, c⟩

/-! ## What one iteration can do -/

inductive Iterates (cfg : Config) (w : World) (tick : Tick) : Event → World → Prop where
  | stopped (h : tick.shutdown = true) : Iterates cfg w tick .stopped w
  | fetchFailed (e : FetchError) (hrun : tick.shutdown = false)
      (h : fetch cfg tick.reply = .error e) :
      Iterates cfg w tick (.fetchFailed e w.loop.backoff)
        ⟨{ w.loop with backoff := nextBackoff cfg w.loop.backoff }, w.cluster⟩
  | notModified (hrun : tick.shutdown = false) (h : fetch cfg tick.reply = .ok .notModified) :
      Iterates cfg w tick .notModified
        ⟨{ w.loop with backoff := second, ready := true }, w.cluster⟩
  | unchanged (c : ChangedConfig) (hrun : tick.shutdown = false)
      (h : fetch cfg tick.reply = .ok (.changed c)) (hdigest : w.loop.lastDigest = some c.digest) :
      Iterates cfg w tick .unchanged
        ⟨{ w.loop with backoff := second }.settle w.loop.lastDigest c.etag, w.cluster⟩
  | reconciled (c : ChangedConfig) (hrun : tick.shutdown = false)
      (h : fetch cfg tick.reply = .ok (.changed c)) (hdigest : w.loop.lastDigest ≠ some c.digest)
      (hok : AppliesOk cfg tick.env (buildDesired cfg c.config)) :
      Iterates cfg w tick .reconciled
        ⟨{ w.loop with backoff := second }.settle (some c.digest) c.etag,
          ((reconcileOnce cfg (buildDesired cfg c.config)).run (serve tick.env) w.cluster).2⟩
  | reconcileFailed (c : ChangedConfig) (e : ReconcileError) (hrun : tick.shutdown = false)
      (h : fetch cfg tick.reply = .ok (.changed c)) (hdigest : w.loop.lastDigest ≠ some c.digest)
      (hfail : ¬AppliesOk cfg tick.env (buildDesired cfg c.config)) :
      Iterates cfg w tick (.reconcileFailed e second)
        ⟨{ w.loop with backoff := nextBackoff cfg second },
          ((reconcileOnce cfg (buildDesired cfg c.config)).run (serve tick.env) w.cluster).2⟩

theorem iteration_iterates (cfg : Config) (w : World) (tick : Tick) :
    Iterates cfg w tick (iteration cfg w tick).1 (iteration cfg w tick).2 := by
  unfold iteration
  cases hrun : tick.shutdown with
  | true => exact .stopped hrun
  | false =>
    simp only [Bool.false_eq_true, if_false]
    cases hfetch : fetch cfg tick.reply with
    | error e => exact .fetchFailed e hrun hfetch
    | ok outcome =>
      cases outcome with
      | notModified => exact .notModified hrun hfetch
      | changed c =>
        by_cases hdigest : w.loop.lastDigest = some c.digest
        · simp only [hdigest, if_true]
          have h := Iterates.unchanged (w := w) c hrun hfetch hdigest
          rwa [hdigest] at h
        · simp only [hdigest, if_false]
          have hiff := reconcileOnce_ok cfg tick.env (buildDesired cfg c.config) w.cluster
          cases hresult : (reconcileOnce cfg (buildDesired cfg c.config)).run (serve tick.env)
            w.cluster with
          | mk out cluster =>
            rw [hresult] at hiff
            cases out with
            | ok =>
              have h := Iterates.reconciled c hrun hfetch hdigest (hiff.mp rfl)
              rwa [hresult] at h
            | error e =>
              have h := Iterates.reconcileFailed c e hrun hfetch hdigest
                fun hok => nomatch hiff.mpr hok
              rwa [hresult] at h

theorem iteration_reconciled {cfg : Config} {w : World} {tick : Tick} {c : ChangedConfig}
    (hrun : tick.shutdown = false) (hfetch : fetch cfg tick.reply = .ok (.changed c))
    (hdigest : w.loop.lastDigest ≠ some c.digest)
    (hok : AppliesOk cfg tick.env (buildDesired cfg c.config)) :
    iteration cfg w tick = (.reconciled, ⟨{ w.loop with backoff := second }.settle (some c.digest) c.etag,
      ((reconcileOnce cfg (buildDesired cfg c.config)).run (serve tick.env) w.cluster).2⟩) := by
  have hout := (reconcileOnce_ok cfg tick.env (buildDesired cfg c.config) w.cluster).mpr hok
  cases hresult : (reconcileOnce cfg (buildDesired cfg c.config)).run (serve tick.env) w.cluster with
  | mk out cluster =>
    rw [hresult] at hout
    obtain rfl : out = .ok () := hout
    simp [iteration, hrun, hfetch, hdigest, hresult]

theorem iteration_reconcileFailed {cfg : Config} {w : World} {tick : Tick} {c : ChangedConfig}
    (hrun : tick.shutdown = false) (hfetch : fetch cfg tick.reply = .ok (.changed c))
    (hdigest : w.loop.lastDigest ≠ some c.digest)
    (hfail : ¬AppliesOk cfg tick.env (buildDesired cfg c.config)) :
    ∃ e, iteration cfg w tick =
      (.reconcileFailed e second, ⟨{ w.loop with backoff := nextBackoff cfg second },
        ((reconcileOnce cfg (buildDesired cfg c.config)).run (serve tick.env) w.cluster).2⟩) := by
  have hout := mt (reconcileOnce_ok cfg tick.env (buildDesired cfg c.config) w.cluster).mp hfail
  cases hresult : (reconcileOnce cfg (buildDesired cfg c.config)).run (serve tick.env) w.cluster with
  | mk out cluster =>
    rw [hresult] at hout
    cases out with
    | ok => exact absurd rfl hout
    | error e => exact ⟨e, by simp [iteration, hrun, hfetch, hdigest, hresult]⟩

end Loop

/-! ## A sample: an empty configuration and one with a router -/

def emptyBody : Bytes := jsonBytes "\x7b\x7d"

def routerBody : Bytes := jsonBytes
  "\x7b\"http\":\x7b\"routers\":\x7b\"app\":\x7b\"rule\":\"Host(`a.b`)\",\"service\":\"s\"\x7d\x7d\x7d\x7d"

def routerDynConfig : TraefikDynamicConfig :=
  ⟨⟨(∅ : Map Router).insert "app" ⟨"Host(`a.b`)", "s", [], [], none, none⟩, ∅, ∅, ∅⟩, none, none⟩

@[reducible] def sampleBodyCrates : BodyCrates where
  sha256Hex body :=
    if body = emptyBody then "44136fa355b3678a1146ad16f7e8649e94fb4fc21fe77e8310c060f61caaff8a"
    else if body = routerBody then
      "0a341aa75aef8bf8aeb815f009d07a64cb7373c8f1d519f9bb8475458d3e0b1a"
    else ""
  decodeConfig body :=
    if body = emptyBody then some emptyDynConfig
    else if body = routerBody then some routerDynConfig
    else none

def answer (tag : Option String) (body : Bytes) : ConfigReply :=
  .response ⟨200, tag.map jsonBytes, none, some body⟩

def notModifiedAnswer : ConfigReply := .response ⟨304, none, none, some []⟩

theorem routerBody_ne : routerBody ≠ emptyBody := by decide

section Sample
attribute [local instance] sampleHttpCrate sampleBodyCrates

theorem fetch_empty (tag : Option String) : fetch sampleConfig (answer tag emptyBody) =
    .ok (.changed ⟨emptyDynConfig, (tag.map jsonBytes).bind HttpCrate.toStr,
      BodyCrates.sha256Hex emptyBody, 2⟩) := rfl

theorem fetch_router (tag : Option String) : fetch sampleConfig (answer tag routerBody) =
    .ok (.changed ⟨routerDynConfig, (tag.map jsonBytes).bind HttpCrate.toStr,
      BodyCrates.sha256Hex routerBody, routerBody.length⟩) := by
  have hlength : ¬sampleConfig.maxResponseBodyBytes < routerBody.length := by decide
  have hdecode : BodyCrates.decodeConfig routerBody = some routerDynConfig :=
    (if_neg routerBody_ne).trans (if_pos rfl)
  simp [fetch, answer, ConfigResponse.readEtag, hlength, hdecode]

theorem sample_digests : BodyCrates.sha256Hex emptyBody ≠ BodyCrates.sha256Hex routerBody := by
  decide

end Sample

end PangolinGateway
