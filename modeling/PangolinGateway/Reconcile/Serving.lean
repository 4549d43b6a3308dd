import PangolinGateway.Reconcile.Rests
import PangolinGateway.Transform.Dispatch

/-! # What a run makes the gateway do

The controller at its two ends: what pangolin holds, and where a gateway that follows the
controller's objects in the cluster sends requests and connections. -/
namespace PangolinGateway
set_option autoImplicit false
open Calls Runs

/-! ## The controller's objects -/

/-- The objects of a kind that the controller sweeps once they are not desired. -/
def Cluster.ownOf (cfg : Config) (c : Cluster) (k : Kind) : Map k.Obj :=
  (c.objects k).filter fun _ obj => !notSwept cfg k obj

def Cluster.own (cfg : Config) (c : Cluster) : Desired where
  httpRoutes := c.ownOf cfg .httpRoute
  listenerSets := c.ownOf cfg .listenerSet
  services := c.ownOf cfg .service
  endpointSlices := c.ownOf cfg .endpointSlice
  envoyBackends := c.ownOf cfg .envoyBackend
  tcpRoutes := c.ownOf cfg .tcpRoute
  udpRoutes := c.ownOf cfg .udpRoute
  securityPolicies := c.ownOf cfg .securityPolicy
  backendTlsPolicies := c.ownOf cfg .backendTlsPolicy

theorem objects_own (cfg : Config) (c : Cluster) (k : Kind) :
    (c.own cfg).objects k = c.ownOf cfg k := by
  cases k <;> rfl

theorem find_own (cfg : Config) (c : Cluster) (k : Kind) (name : String) :
    (c.own cfg).find k name = (c.find k name).filter fun obj => !notSwept cfg k obj := by
  rw [Desired.find, objects_own]
  exact Std.ExtTreeMap.getElem?_filter'

theorem Desired.ext_find {d d' : Desired} (h : ∀ k name, d.find k name = d'.find k name) :
    d = d' := by
  have hobjects : ∀ k, d.objects k = d'.objects k := fun k =>
    Std.ExtTreeMap.ext_getElem? fun {name} => h k name
  cases d
  cases d'
  congr 1
  · exact hobjects .httpRoute
  · exact hobjects .listenerSet
  · exact hobjects .service
  · exact hobjects .endpointSlice
  · exact hobjects .envoyBackend
  · exact hobjects .tcpRoute
  · exact hobjects .udpRoute
  · exact hobjects .securityPolicy
  · exact hobjects .backendTlsPolicy

section Loop
variable [DefaultHasher] [UrlCrate]

/-- What is desired would be swept if it were not. -/
theorem notSwept_desired {cfg : Config} (hkeys : LabelKeysDistinct cfg)
    {dynConfig : TraefikDynamicConfig} {k : Kind} {name : String} {obj : k.Obj}
    (h : (buildDesired cfg dynConfig).find k name = some obj) : notSwept cfg k obj = false := by
  have hwritten := (find_buildDesired_origin h).1
  have hk : k ∈ sweepOrder cfg := by
    by_contra hk
    exact unswept_not_written hk obj hwritten
  have howned : (k.metadata obj).owned cfg = true := hwritten.owned hkeys
  simp [notSwept, hk, howned]

/-- At rest the controller's objects are the desired ones. -/
theorem AtRest.own_eq {cfg : Config} (hkeys : LabelKeysDistinct cfg)
    {dynConfig : TraefikDynamicConfig} {c : Cluster}
    (h : AtRest cfg (buildDesired cfg dynConfig) c) : c.own cfg = buildDesired cfg dynConfig := by
  refine Desired.ext_find fun k name => ?_
  rw [find_own]
  obtain ⟨hthere, hforeign⟩ := h k name
  cases hobj : (buildDesired cfg dynConfig).find k name with
  | some obj =>
    rw [hthere obj hobj, Option.filter_some, notSwept_desired hkeys hobj]
    rfl
  | none =>
    rw [Option.filter_eq_none_iff]
    intro obj hfind
    simp [hforeign hobj obj hfind]

variable [HttpCrate] [BodyCrates]

/-- In a run against an honest server that tags every body, from any cluster: after every iteration
that reconciled or skipped, unless a reconcile failed since the last one that succeeded, a gateway
that follows the controller's objects sends requests and connections where the config that the
server holds has them sent, if no names clash in that config. -/
theorem run_dispatches (cfg : Config) (hro : cfg.readOnly = false) (hkeys : LabelKeysDistinct cfg)
    (etagOf : Bytes → String) (ticks : List Tick) (c : Cluster)
    (hetag : Distinguishes etagOf ticks) (hsha : Distinguishes BodyCrates.sha256Hex ticks)
    (htags : TagsEvery ticks) (hhonest : HonestRun cfg etagOf ticks c)
    (hanswered : ∀ past t, (runLoop cfg).Occurs ticks (.start c) past t → t.event = .reconciled →
      ∀ call, t.input.env call = .answered)
    (past : List LoopTurn) (t : LoopTurn) (ht : (runLoop cfg).Occurs ticks (.start c) past t)
    (hevent : t.event = .reconciled ∨ Skips t.event) (hpending : ¬FailurePending (past ++ [t])) :
    ∃ dynConfig, BodyCrates.decodeConfig t.input.held = some dynConfig ∧
      (NamesApart cfg dynConfig →
        (∀ cmp protocol port host path u,
          Forwards (t.after.cluster.own cfg) cmp protocol port host path u ↔
            Proxies cfg dynConfig cmp protocol port host path u) ∧
        ∀ proto port u, ForwardsPort (t.after.cluster.own cfg) proto port u ↔
          ProxiesPort cfg dynConfig proto port u) := by
  obtain ⟨hspec, hagrees⟩ := agrees_of_occurs hsha htags hhonest ht
  obtain ⟨dynConfig, hdecode, hrest⟩ :=
    rests_of_occurs hro hhonest hanswered ht hpending t.input.held
      (hspec.memory_held hevent hetag hsha hagrees ht.input_mem (hhonest past t ht))
  refine ⟨dynConfig, hdecode, fun hapart => ?_⟩
  rw [hrest.own_eq hkeys]
  exact ⟨fun _ _ _ _ _ _ => hapart.forwards_iff,
    fun _ _ _ => ⟨hapart.proxiesPort, hapart.forwardsPort⟩⟩

end Loop

/-! ## A poll of the web application and the raw port -/

def webBody : Bytes :=
  jsonBytes "\x7b\"http\":\x7b\"routers\":\x7b\"app\":\x7b\"rule\":\"Host(`a.b`)\",\"service\":\"app\"," ++
    jsonBytes "\"middlewares\":[\"badger\"],\"entryPoints\":[\"https\"]\x7d\x7d," ++
    jsonBytes "\"services\":\x7b\"app\":\x7b\"loadBalancer\":\x7b\"servers\":[\x7b\"url\":\"http://10.0.0.7:8080\"\x7d]\x7d\x7d\x7d," ++
    jsonBytes "\"middlewares\":\x7b\"badger\":\x7b\"plugin\":\x7b\"badger\":\x7b\x7d\x7d\x7d," ++
    jsonBytes "\"redirect\":\x7b\"redirectScheme\":\x7b\"scheme\":\"https\"\x7d\x7d\x7d\x7d," ++
    jsonBytes "\"tcp\":\x7b\"routers\":\x7b\"raw\":\x7b\"service\":\"raw\",\"entryPoints\":[\"tcp-9000\"]\x7d\x7d," ++
    jsonBytes "\"services\":\x7b\"raw\":\x7b\"loadBalancer\":\x7b\"servers\":[\x7b\"address\":\"10.0.0.8:9000\"\x7d]\x7d\x7d\x7d\x7d\x7d"

@[reducible] def webBodyCrates : BodyCrates where
  sha256Hex body :=
    if body = webBody then "98cd5635926e32336c22e8c3ee0931e9dd5e0fab2a892e05f4c12b81b64ae7f3" else ""
  decodeConfig body := if body = webBody then some dispatchConfig else none

section Sample
attribute [local instance] sampleHasher dispatchUrlCrate sampleHttpCrate webBodyCrates

def webTick : Tick := poll webBody (answer (some "\"b\"") webBody) answering

def webTurn : LoopTurn := (runLoop sampleConfig).turn (.start .empty) webTick

theorem web_turns : (runLoop sampleConfig).turns [webTick] (.start .empty) = [webTurn] := rfl

theorem decode_web : BodyCrates.decodeConfig webBody = some dispatchConfig := if_pos rfl

theorem fetch_web : fetch sampleConfig webTick.reply = .ok (.changed ⟨dispatchConfig, some "\"b\"",
    BodyCrates.sha256Hex webBody, webBody.length⟩) := by
  have hlength : ¬sampleConfig.maxResponseBodyBytes < webBody.length := by
    simp only [webBody, jsonBytes, List.length_append, List.length_map, String.length_toList]
    decide
  have htag : HttpCrate.toStr (jsonBytes "\"b\"") = some "\"b\"" := by decide
  simp [fetch, webTick, poll, answer, ConfigResponse.readEtag, hlength, decode_web, htag]

theorem webTurn_event : webTurn.event = .reconciled := by
  have hnew : (World.start .empty).loop.lastDigest ≠ some (BodyCrates.sha256Hex webBody) := by
    simp [World.start]
  have h : iteration sampleConfig (.start .empty) webTick = _ :=
    iteration_reconciled rfl fetch_web hnew
      (answering_appliesOk sampleConfig (buildDesired_named _ _))
  simp only [webTurn, Machine.turn, runLoop, h]

theorem webTick_honest (inm : Option String) : Honest sampleEtagOf webTick inm := by
  have htag : ((some "\"b\"").map jsonBytes).bind HttpCrate.toStr = some (sampleEtagOf webBody) := by
    have hbody : sampleEtagOf webBody = "\"b\"" := if_neg (by decide)
    rw [hbody]
    decide
  exact honest_answer webBody answering inm fun _ hs => Option.some.inj (hs.symm.trans htag)

/-- After the poll, requests for the host and connections to the port reach the two servers. -/
theorem run_dispatches_sample :
    Forwards (webTurn.after.cluster.own sampleConfig) (byElements fun _ _ => False) "HTTPS" 443
        "a.b" "/" (.address "10.0.0.7" 8080) ∧
      ForwardsPort (webTurn.after.cluster.own sampleConfig) .tcp 9000 (.address "10.0.0.8" 9000) := by
  have honly : ∀ mark : Bytes → String, Distinguishes mark [webTick] := by
    intro mark tick hmem tick' hmem' _
    rw [List.mem_singleton.mp hmem, List.mem_singleton.mp hmem']
  have htags : TagsEvery [webTick] := by
    intro tick hmem r hr _ _
    obtain rfl := List.mem_singleton.mp hmem
    obtain rfl := ConfigReply.response.inj hr
    decide
  have hturn : ∀ {past : List LoopTurn} {t : LoopTurn},
      (runLoop sampleConfig).Occurs [webTick] (.start .empty) past t → past = [] ∧ t = webTurn :=
    fun ht => ht.of_one web_turns
  have hhonest : HonestRun sampleConfig sampleEtagOf [webTick] .empty := by
    intro past t ht _
    obtain ⟨_, rfl⟩ := hturn ht
    exact webTick_honest _
  have hanswered : ∀ past t, (runLoop sampleConfig).Occurs [webTick] (.start .empty) past t →
      t.event = .reconciled → ∀ call, t.input.env call = .answered := by
    intro past t ht _ call
    obtain ⟨_, rfl⟩ := hturn ht
    rfl
  have hpending : ¬FailurePending ([] ++ [webTurn]) := by
    unfold FailurePending
    rw [latest_concat, webTurn_event]
    simp
  obtain ⟨dynConfig, hdecode, hserves⟩ := run_dispatches sampleConfig rfl
    ⟨by decide, by decide, by decide⟩ sampleEtagOf [webTick] .empty (honly _) (honly _) htags hhonest
    hanswered [] webTurn ⟨[], web_turns⟩ (Or.inl webTurn_event) hpending
  obtain rfl : dynConfig = dispatchConfig := Option.some.inj (hdecode.symm.trans decode_web)
  obtain ⟨hhttp, hl4⟩ := hserves dispatch_apart
  exact ⟨(hhttp _ _ _ _ _ _).mpr ⟨"app", webRouter, dispatch_proxiedBy "/"⟩, (hl4 _ _ _).mpr dispatch_proxiesPort⟩

end Sample

end PangolinGateway
