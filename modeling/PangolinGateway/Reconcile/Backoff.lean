import Mathlib.Algebra.Ring.Nat
import PangolinGateway.Reconcile.PendingFailure

/-! # The waits of a stretch of failures

The loop waits for its backoff and doubles it, up to `max_backoff`, only for the wait after. Every
fetch that succeeds sets it back to one second, also when the reconcile that follows fails. -/
namespace PangolinGateway
set_option autoImplicit false
open Runs

/-- The wait of a failed iteration. -/
def Event.wait : Event → Option ℕ
  | .fetchFailed _ wait => some wait
  | .reconcileFailed _ wait => some wait
  | _ => none

/-- The waits double from one second up to `max_backoff`, and are back at one second only where they
never left it. -/
structure BacksOff (cfg : Config) (stretch : List LoopTurn) : Prop where
  doubles : ∀ k (hk : k < stretch.length),
    stretch[k].event.wait = some (min (2 ^ k * second) cfg.maxBackoff)
  fallsBack : ∀ k (hk : k + 1 < stretch.length),
    stretch[k + 1].event.wait = some second → stretch[k].event.wait = some second

section Stretches
variable [DefaultHasher] [UrlCrate] [HttpCrate] [BodyCrates]

/-- In the run, `stretch` is a maximal stretch of failed iterations, and `past` comes before it. -/
structure FailedStretch (cfg : Config) (ticks : List Tick) (c : Cluster)
    (past stretch : List LoopTurn) : Prop where
  nonempty : stretch ≠ []
  failed : ∀ t ∈ stretch, t.event.wait.isSome = true
  before : ∀ t, past.getLast? = some t → t.event.wait = none
  run : ∃ rest, (runLoop cfg).turns ticks (.start c) = past ++ stretch ++ rest ∧
    ∀ t, rest.head? = some t → t.event.wait = none

omit [DefaultHasher] [UrlCrate] in
/-- `max_backoff` is at least one second; and it is that, or no iteration of the stretch but the
first has a fetch that succeeds. -/
def KeepsDoubling (cfg : Config) (stretch : List LoopTurn) : Prop :=
  second ≤ cfg.maxBackoff ∧
    (cfg.maxBackoff = second ∨ ∀ t ∈ stretch.tail, ∃ e, fetch cfg t.input.reply = .error e)

/-! ## One wait -/

variable {cfg : Config} {ticks : List Tick} {c : Cluster} {past stretch : List LoopTurn}
  {t t' : LoopTurn}

theorem iterates_of_occurs (ht : (runLoop cfg).Occurs ticks (.start c) past t) :
    Iterates cfg t.before t.input t.event t.after := by
  rw [ht.eq_turn]
  exact iteration_iterates cfg t.before t.input

/-- A failed fetch waits for the backoff, a failed reconcile for a second. -/
theorem Iterates.wait_eq {w w' : World} {tick : Tick} {event : Event}
    (h : Iterates cfg w tick event w') (hfailed : event.wait.isSome = true) :
    (∃ e, fetch cfg tick.reply = .error e) ∧ event.wait = some w.loop.backoff ∨
      (∀ e, fetch cfg tick.reply ≠ .error e) ∧ event.wait = some second := by
  cases h with
  | fetchFailed e _ hfetch => exact Or.inl ⟨⟨e, hfetch⟩, rfl⟩
  | reconcileFailed c e _ hfetch _ _ => exact Or.inr ⟨fun e' => by simp [hfetch], rfl⟩
  | stopped _ => simp [Event.wait] at hfailed
  | notModified _ _ => simp [Event.wait] at hfailed
  | unchanged _ _ _ _ => simp [Event.wait] at hfailed
  | reconciled _ _ _ _ _ => simp [Event.wait] at hfailed

/-- What a turn leaves as backoff when the loop goes on. -/
theorem Iterates.backoff_after {w w' : World} {tick : Tick} {event : Event}
    (h : Iterates cfg w tick event w') (hrun : tick.shutdown = false) :
    w'.loop.backoff = (event.wait.map (nextBackoff cfg)).getD second := by
  cases h with
  | stopped hstop => simp [hstop] at hrun
  | fetchFailed e _ _ => rfl
  | notModified _ _ => rfl
  | unchanged _ _ _ _ => rfl
  | reconciled _ _ _ _ _ => rfl
  | reconcileFailed _ _ _ _ _ _ => rfl

theorem backoff_next (ht : (runLoop cfg).Occurs ticks (.start c) (past ++ [t']) t) :
    t.before.loop.backoff = (t'.event.wait.map (nextBackoff cfg)).getD second := by
  obtain ⟨hends, hbefore⟩ := ht.before_next
  have hrun : t'.input.shutdown = false := (Bool.or_eq_false_iff.mp hends).1
  rw [hbefore]
  exact (iterates_of_occurs (ht.earlier rfl)).backoff_after hrun

theorem backoff_unfailed (ht : (runLoop cfg).Occurs ticks (.start c) past t)
    (hbefore : ∀ t', past.getLast? = some t' → t'.event.wait = none) :
    t.before.loop.backoff = second := by
  rcases List.eq_nil_or_concat past with rfl | ⟨front, t', rfl⟩
  · rw [ht.before_first]
    rfl
  · rw [List.concat_eq_append] at ht hbefore
    rw [backoff_next ht, hbefore t' List.getLast?_concat]
    rfl

/-! ## The waits of a stretch -/

theorem FailedStretch.occurs (h : FailedStretch cfg ticks c past stretch) (k : ℕ)
    (hk : k < stretch.length) :
    (runLoop cfg).Occurs ticks (.start c) (past ++ stretch.take k) stretch[k] := by
  obtain ⟨rest, hrest, _⟩ := h.run
  refine ⟨stretch.drop (k + 1) ++ rest, ?_⟩
  rw [hrest, List.append_assoc, List.append_assoc, ← List.cons_append, ← List.drop_eq_getElem_cons hk,
    ← List.append_assoc (stretch.take k), List.take_append_drop]

theorem FailedStretch.wait_zero (h : FailedStretch cfg ticks c past stretch)
    (hk : 0 < stretch.length) : stretch[0].event.wait = some second := by
  have hocc := h.occurs 0 hk
  rw [List.take_zero, List.append_nil] at hocc
  rcases (iterates_of_occurs hocc).wait_eq (h.failed _ (List.getElem_mem hk)) with
    ⟨_, hwait⟩ | ⟨_, hwait⟩
  · rw [hwait, backoff_unfailed hocc h.before]
  · exact hwait

theorem FailedStretch.wait_succ (h : FailedStretch cfg ticks c past stretch) (k : ℕ)
    (hk : k + 1 < stretch.length) :
    (∃ e, fetch cfg stretch[k + 1].input.reply = .error e) ∧
        stretch[k + 1].event.wait = stretch[k].event.wait.map (nextBackoff cfg) ∨
      (∀ e, fetch cfg stretch[k + 1].input.reply ≠ .error e) ∧
        stretch[k + 1].event.wait = some second := by
  have hocc := h.occurs (k + 1) hk
  have hlt : k < stretch.length := Nat.lt_of_succ_lt hk
  rw [List.take_succ_eq_append_getElem hlt, ← List.append_assoc] at hocc
  obtain ⟨wait, hwait⟩ := Option.isSome_iff_exists.mp (h.failed _ (List.getElem_mem hlt))
  have hbackoff := backoff_next hocc
  rw [hwait] at hbackoff
  rcases (iterates_of_occurs hocc).wait_eq (h.failed _ (List.getElem_mem hk)) with
    ⟨hfetch, hnext⟩ | ⟨hfetch, hnext⟩
  · refine Or.inl ⟨hfetch, ?_⟩
    rw [hnext, hbackoff, hwait]
    rfl
  · exact Or.inr ⟨hfetch, hnext⟩

/-! ## Doubling -/

omit [DefaultHasher] [UrlCrate] [HttpCrate] [BodyCrates] in
theorem nextBackoff_doubled (cfg : Config) (k : ℕ) :
    nextBackoff cfg (min (2 ^ k * second) cfg.maxBackoff) =
      min (2 ^ (k + 1) * second) cfg.maxBackoff := by
  have hpow : 2 ^ (k + 1) * second = 2 ^ k * second * 2 := by
    rw [Nat.pow_succ, Nat.mul_right_comm]
  rw [nextBackoff, hpow]
  omega

omit [DefaultHasher] [UrlCrate] [HttpCrate] [BodyCrates] in
theorem second_lt_doubled (k : ℕ) : second < 2 ^ (k + 1) * second := by
  have hpow : 2 ≤ 2 ^ (k + 1) := Nat.le_self_pow k.succ_ne_zero 2
  calc second < 2 * second := by decide
    _ ≤ 2 ^ (k + 1) * second := Nat.mul_le_mul_right second hpow

omit [DefaultHasher] [UrlCrate] [HttpCrate] [BodyCrates] in
/-- The law of the waits alone keeps them from falling back. -/
theorem backsOff_of_doubles (hsecond : second ≤ cfg.maxBackoff)
    (h : ∀ k (hk : k < stretch.length),
      stretch[k].event.wait = some (min (2 ^ k * second) cfg.maxBackoff)) :
    BacksOff cfg stretch where
  doubles := h
  fallsBack k hk hback := by
    have hlt := second_lt_doubled k
    have hone := Option.some.inj ((h (k + 1) hk).symm.trans hback)
    have hle : second ≤ 2 ^ k * second := Nat.le_mul_of_pos_left second (Nat.two_pow_pos k)
    rw [h k (Nat.lt_of_succ_lt hk)]
    refine congrArg some ?_
    omega

theorem FailedStretch.doubles (h : FailedStretch cfg ticks c past stretch)
    (hkeeps : KeepsDoubling cfg stretch) (k : ℕ) (hk : k < stretch.length) :
    stretch[k].event.wait = some (min (2 ^ k * second) cfg.maxBackoff) := by
  obtain ⟨hsecond, hmax⟩ := hkeeps
  induction k with
  | zero =>
    rw [h.wait_zero hk, Nat.pow_zero, Nat.one_mul, min_eq_left hsecond]
  | succ k ih =>
    have hprevious := ih (Nat.lt_of_succ_lt hk)
    rcases h.wait_succ k hk with ⟨_, hwait⟩ | ⟨hfetch, hwait⟩
    · rw [hwait, hprevious, Option.map_some, nextBackoff_doubled]
    · -- the wait is one second, which is the law only where `max_backoff` is one second
      rcases hmax with hone | hfetches
      · rw [hwait, hone, min_eq_right (second_lt_doubled k).le]
      · have hmem : stretch[k + 1] ∈ stretch.tail := by
          rw [← List.getElem_tail (by rw [List.length_tail]; omega)]
          exact List.getElem_mem _
        obtain ⟨e, he⟩ := hfetches _ hmem
        exact absurd he (hfetch e)

theorem FailedStretch.keepsDoubling (h : FailedStretch cfg ticks c past stretch)
    (hback : BacksOff cfg stretch) : KeepsDoubling cfg stretch := by
  have hlength : 0 < stretch.length := List.length_pos_iff.mpr h.nonempty
  have hzero := Option.some.inj ((hback.doubles 0 hlength).symm.trans (h.wait_zero hlength))
  rw [Nat.pow_zero, Nat.one_mul] at hzero
  have hsecond : second ≤ cfg.maxBackoff := by omega
  refine ⟨hsecond, ?_⟩
  by_cases hone : cfg.maxBackoff = second
  · exact Or.inl hone
  · refine Or.inr fun t ht => ?_
    obtain ⟨k, hk, rfl⟩ := List.getElem_of_mem ht
    rw [List.length_tail] at hk
    have hlt : k + 1 < stretch.length := by omega
    rw [List.getElem_tail]
    rcases h.wait_succ k hlt with ⟨hfetch, _⟩ | ⟨_, hwait⟩
    · exact hfetch
    · -- the law asks for more than the second that a failed reconcile waits
      have hlaw := Option.some.inj ((hback.doubles (k + 1) hlt).symm.trans hwait)
      have hdoubled := second_lt_doubled k
      omega

/-- A maximal stretch of failures backs off by the law exactly when `max_backoff` allows the first
second and, unless it allows no more, every failure after the first is a failed fetch. -/
theorem backsOff_iff (cfg : Config) (ticks : List Tick) (c : Cluster) (past stretch : List LoopTurn)
    (h : FailedStretch cfg ticks c past stretch) : BacksOff cfg stretch ↔ KeepsDoubling cfg stretch :=
  ⟨h.keepsDoubling, fun hkeeps => backsOff_of_doubles hkeeps.1 (h.doubles hkeeps)⟩

end Stretches

/-! ## Two sample stretches -/

section Sample
attribute [local instance] sampleHasher sampleUrlCrate sampleHttpCrate sampleBodyCrates

/-- A poll that does not reach the server. -/
def lostTurn (w : World) : LoopTurn := sampleTurn w (poll emptyBody .unreachable answering)

/-- A poll whose configuration the API server refuses. -/
def refusedTurn (w : World) : LoopTurn :=
  sampleTurn w (poll routerBody (answer none routerBody) refusing)

def lostOnce : LoopTurn := lostTurn (.start .empty)

theorem refusedTurn_event : ∃ e, (refusedTurn lostOnce.after).event = .reconcileFailed e second := by
  obtain ⟨e, h⟩ : ∃ e, iteration sampleConfig lostOnce.after
      (poll routerBody (answer none routerBody) refusing) = (.reconcileFailed e second, _) :=
    iteration_reconcileFailed rfl (fetch_router _) nofun (refusing_not_appliesOk _)
  exact ⟨e, congrArg Prod.fst h⟩

theorem failedStretch_of_two {ticks : List Tick} {t₁ t₂ : LoopTurn}
    (hturns : (runLoop sampleConfig).turns ticks (.start .empty) = [t₁, t₂])
    (h₁ : t₁.event.wait.isSome = true) (h₂ : t₂.event.wait.isSome = true) :
    FailedStretch sampleConfig ticks .empty [] [t₁, t₂] where
  nonempty := List.cons_ne_nil t₁ [t₂]
  failed t ht := by
    rcases List.mem_pair.mp ht with rfl | rfl
    · exact h₁
    · exact h₂
  before t ht := by simp at ht
  run := ⟨[], hturns, fun t ht => by simp at ht⟩

/-- A lost poll and then a refused configuration: the second wait is one second, not two. -/
theorem refused_waits_second :
    FailedStretch sampleConfig (List.map Turn.input [lostOnce, refusedTurn lostOnce.after]) .empty []
        [lostOnce, refusedTurn lostOnce.after] ∧
      ¬BacksOff sampleConfig [lostOnce, refusedTurn lostOnce.after] := by
  obtain ⟨e, hevent⟩ := refusedTurn_event
  refine ⟨failedStretch_of_two (by rfl) rfl (by rw [hevent]; rfl), fun h => ?_⟩
  have hlaw := h.doubles 1 (by simp)
  rw [List.getElem_cons_succ, List.getElem_cons_zero, hevent] at hlaw
  have hwait : second ≠ min (2 ^ 1 * second) sampleConfig.maxBackoff := by decide
  exact hwait (Option.some.inj hlaw)

/-- Two lost polls in a row wait one second and then two. -/
theorem backsOff_iff_sample :
    BacksOff sampleConfig [lostOnce, lostTurn lostOnce.after] :=
  (backsOff_iff sampleConfig (List.map Turn.input [lostOnce, lostTurn lostOnce.after]) .empty []
    [lostOnce, lostTurn lostOnce.after] (failedStretch_of_two (by rfl) rfl rfl)).mpr
    ⟨by decide, Or.inr fun t ht => by
      obtain rfl := List.mem_singleton.mp ht
      exact ⟨.unreachable, rfl⟩⟩

end Sample
end PangolinGateway
