import PangolinGateway.Transform.RuleSlips

/-! # The rules that the parser accepts

A rule is usable exactly when it reads as host and path predicates, one host among them, and has no
`||` and no `!` outside backticks. Such a reading may have slips that the walk passes over: the rule
is then taken for a conjunction that it is not. -/
namespace PangolinGateway
set_option autoImplicit false
open Spans

/-! ## The scan for connectors -/

def StartsConnector (s : List Char) : Prop := s.head? = some '!' ∨ ∃ t, s = '|' :: '|' :: t

/-- A connector with an even number of backticks before it, counting one more where the text begins
inside a pair of them. -/
def HasConnector (inBacktick : Bool) (s : List Char) : Prop :=
  ∃ front back, s = front ++ back ∧ (inBacktick.toNat + front.count '`') % 2 = 0 ∧
    StartsConnector back

theorem hasConnector_nil (inBacktick : Bool) : ¬HasConnector inBacktick [] := by
  rintro ⟨front, back, htext, _, hstart⟩
  obtain ⟨_, rfl⟩ := List.append_eq_nil_iff.mp htext.symm
  simp [StartsConnector] at hstart

theorem hasConnector_cons (inBacktick : Bool) (c : Char) (s : List Char) :
    HasConnector inBacktick (c :: s) ↔ (inBacktick = false ∧ StartsConnector (c :: s)) ∨
      HasConnector (if c = '`' then !inBacktick else inBacktick) s := by
  have hparity : ∀ n : ℕ, (inBacktick.toNat + (n + if c = '`' then 1 else 0)) % 2 = 0 ↔
      ((if c = '`' then !inBacktick else inBacktick).toNat + n) % 2 = 0 := by
    intro n
    by_cases htick : c = '`' <;> cases inBacktick <;> simp [htick] <;> omega
  constructor
  · rintro ⟨front, back, htext, heven, hstart⟩
    cases front with
    | nil =>
      rw [List.nil_append] at htext
      refine Or.inl ⟨?_, htext ▸ hstart⟩
      cases inBacktick with
      | false => rfl
      | true => simp at heven
    | cons d front =>
      obtain ⟨rfl, rfl⟩ := List.cons.inj htext
      rw [List.count_cons] at heven
      simp only [beq_iff_eq] at heven
      exact Or.inr ⟨front, back, rfl, (hparity _).mp heven, hstart⟩
  · rintro (⟨rfl, hstart⟩ | ⟨front, back, rfl, heven, hstart⟩)
    · exact ⟨[], c :: s, rfl, rfl, hstart⟩
    · refine ⟨c :: front, back, rfl, ?_, hstart⟩
      rw [List.count_cons]
      simp only [beq_iff_eq]
      exact (hparity _).mpr heven

def ParsedRule.Connected (out : ParsedRule) : Prop := out.hasDisjunction = true ∨ out.hasNegation = true

theorem scanConnectors_connected (inBacktick : Bool) (s : List Char) (out : ParsedRule) :
    (scanConnectors inBacktick s out).Connected ↔ out.Connected ∨ HasConnector inBacktick s := by
  induction s generalizing inBacktick out with
  | nil => simp [scanConnectors, hasConnector_nil]
  | cons c s ih =>
    rw [hasConnector_cons, scanConnectors]
    by_cases htick : c = '`'
    · simp [htick, ih, StartsConnector]
    · cases inBacktick with
      | true => simp [htick, ih]
      | false =>
        by_cases hbar : c = '|' ∧ s.head? = some '|'
        · have hstart : StartsConnector (c :: s) := by
            obtain ⟨rfl, hhead⟩ := hbar
            obtain ⟨t, rfl⟩ := List.head?_eq_some_iff.mp hhead
            exact Or.inr ⟨t, rfl⟩
          have hfound : ({ out with hasDisjunction := true } : ParsedRule).Connected := Or.inl rfl
          rw [if_neg htick, if_neg Bool.false_ne_true, if_pos hbar, ih]
          exact iff_of_true (Or.inl hfound) (Or.inr (Or.inl ⟨rfl, hstart⟩))
        · by_cases hbang : c = '!'
          · have hstart : StartsConnector (c :: s) := Or.inl (congrArg some hbang)
            have hfound : ({ out with hasNegation := true } : ParsedRule).Connected := Or.inr rfl
            rw [if_neg htick, if_neg Bool.false_ne_true, if_neg hbar, if_pos hbang, ih]
            exact iff_of_true (Or.inl hfound) (Or.inr (Or.inl ⟨rfl, hstart⟩))
          · have hstart : ¬StartsConnector (c :: s) := by
              rintro (hhead | ⟨t, ht⟩)
              · exact hbang (Option.some.inj hhead)
              · obtain ⟨rfl, rfl⟩ := List.cons.inj ht
                exact hbar ⟨rfl, rfl⟩
            simp [htick, hbar, hbang, ih, hstart]

/-- The scan leaves the other fields alone. -/
theorem scanConnectors_rest (inBacktick : Bool) (s : List Char) (out : ParsedRule) :
    (scanConnectors inBacktick s out).hosts = out.hosts ∧
      (scanConnectors inBacktick s out).hostRegexp = out.hostRegexp ∧
      (scanConnectors inBacktick s out).unsupportedPredicates = out.unsupportedPredicates := by
  induction s generalizing inBacktick out with
  | nil => exact ⟨rfl, rfl, rfl⟩
  | cons c s ih =>
    rw [scanConnectors]
    split
    · exact ih _ _
    · split
      · exact ih _ _
      · split
        · exact ih _ _
        · split
          · exact ih _ _
          · exact ih _ _

/-! ## The calls that leave the rule usable -/

/-- Every predicate so far was one of the four. -/
def ParsedRule.Supported (out : ParsedRule) : Prop :=
  out.hostRegexp = false ∧ out.unsupportedPredicates = []

theorem handleCall_supported (out : ParsedRule) (call : String × List String) :
    (handleCall out call).Supported ↔
      out.Supported ∧ ∃ kind : PredicateKind, call.1 = kind.ident := by
  obtain ⟨ident, args⟩ := call
  by_cases hkind : ∃ kind : PredicateKind, ident = kind.ident
  · obtain ⟨kind, rfl⟩ := hkind
    have hhandle := handle_eq out ⟨kind, args⟩
    rw [handle] at hhandle
    rw [handleCall, hhandle]
    exact ⟨fun h => ⟨h, kind, rfl⟩, And.left⟩
  · have hnames : ident ≠ "Host" ∧ ident ≠ "Path" ∧ ident ≠ "PathPrefix" ∧ ident ≠ "PathRegexp" :=
      ⟨fun h => hkind ⟨.host, h⟩, fun h => hkind ⟨.path, h⟩, fun h => hkind ⟨.pathPrefix, h⟩,
        fun h => hkind ⟨.pathRegexp, h⟩⟩
    obtain ⟨hhost, hpath, hprefix, hregexp⟩ := hnames
    have hreject : ¬(handleCall out (ident, args)).Supported := by
      by_cases hre : ident = "HostRegexp"
      · simp [handleCall, handlePredicate, ParsedRule.Supported, hre]
      · simp [handleCall, handlePredicate, ParsedRule.Supported, ParsedRule.reject, hhost, hpath,
          hprefix, hregexp, hre]
    exact ⟨fun h => absurd h hreject, fun h => absurd h.2 hkind⟩

theorem handleCall_rest (out : ParsedRule) (call : String × List String) :
    (handleCall out call).hosts = out.hosts ++ (if call.1 = "Host" then call.2 else []) ∧
      ((handleCall out call).Connected ↔ out.Connected) := by
  obtain ⟨ident, args⟩ := call
  simp only [handleCall, handlePredicate]
  split
  · exact ⟨rfl, Iff.rfl⟩
  · rw [List.append_nil]
    split
    · exact ⟨rfl, Iff.rfl⟩
    · split
      · cases args.head? <;> exact ⟨rfl, Iff.rfl⟩
      · split
        · cases args.head? <;> exact ⟨rfl, Iff.rfl⟩
        · split
          · cases args.head? <;> exact ⟨rfl, Iff.rfl⟩
          · exact ⟨rfl, Iff.rfl⟩

theorem foldl_handleCall (calls : List (String × List String)) (out : ParsedRule) :
    ((calls.foldl handleCall out).Supported ↔ out.Supported ∧ Named calls) ∧
      (calls.foldl handleCall out).hosts =
        out.hosts ++ calls.flatMap (fun call => if call.1 = "Host" then call.2 else []) ∧
      ((calls.foldl handleCall out).Connected ↔ out.Connected) := by
  induction calls generalizing out with
  | nil => simp [Named]
  | cons call calls ih =>
    obtain ⟨hsupported, hhosts, hconnected⟩ := ih (handleCall out call)
    obtain ⟨hhosts', hconnected'⟩ := handleCall_rest out call
    refine ⟨?_, ?_, hconnected.trans hconnected'⟩
    · rw [List.foldl_cons, hsupported, handleCall_supported, and_assoc, Named, Named,
        List.forall_mem_cons]
    · rw [List.foldl_cons, hhosts, hhosts', List.flatMap_cons, List.append_assoc]

theorem isUsable_iff (out : ParsedRule) :
    out.isUsable = true ↔ ¬out.Connected ∧ out.Supported ∧ out.hosts ≠ [] := by
  simp only [ParsedRule.isUsable, ParsedRule.Connected, ParsedRule.Supported, Bool.and_eq_true,
    Bool.not_eq_true', List.isEmpty_iff, List.isEmpty_eq_false_iff, not_or, Bool.not_eq_true]
  tauto

/-! ## Usable rules are those with a reading -/

/-- `r` is how the parser reads a rule that it accepts. -/
structure Tolerated (rule : List Char) (r : LooseRule) : Prop where
  valid : r.Valid
  text : r.render = rule
  named : Named r.calls
  host : ∃ call ∈ r.calls, call.1 = "Host" ∧ call.2 ≠ []
  silent : ¬HasConnector false rule

theorem usable_iff (rule : String) :
    (parse rule).isUsable = true ↔ ∃ r, Tolerated rule.toList r := by
  obtain ⟨hread, hunread⟩ := parse_read rule
  obtain ⟨hhosts, hregexp, hunsupported⟩ := scanConnectors_rest false rule.toList .empty
  have hsupported : (scanConnectors false rule.toList .empty).Supported := ⟨hregexp, hunsupported⟩
  have hconnected : (scanConnectors false rule.toList .empty).Connected ↔
      HasConnector false rule.toList := by
    rw [scanConnectors_connected]
    simp [ParsedRule.Connected, ParsedRule.empty]
  have hfold : ∀ r : LooseRule, r.Valid → r.render = rule.toList →
      ((parse rule).isUsable = true ↔ ¬HasConnector false rule.toList ∧ Named r.calls ∧
        ∃ call ∈ r.calls, call.1 = "Host" ∧ call.2 ≠ []) := by
    intro r hvalid htext
    obtain ⟨hnamed, hhosts', hconnected'⟩ :=
      foldl_handleCall r.calls (scanConnectors false rule.toList .empty)
    have hnone : (ParsedRule.empty).hosts = [] := rfl
    rw [isUsable_iff, hread r hvalid htext, hnamed, hhosts', hconnected', hconnected, hhosts, hnone,
      List.nil_append, ne_eq, List.flatMap_eq_nil_iff]
    simp only [hsupported, true_and, Classical.not_forall, ite_eq_right_iff, exists_prop]
  constructor
  · intro husable
    by_cases hreading : ∃ r : LooseRule, r.Valid ∧ r.render = rule.toList
    · obtain ⟨r, hvalid, htext⟩ := hreading
      obtain ⟨hsilent, hnamed, hhost⟩ := (hfold r hvalid htext).mp husable
      exact ⟨r, hvalid, htext, hnamed, hhost, hsilent⟩
    · exact absurd ((isUsable_iff _).mp husable).2.1.2 (hunread hreading)
  · rintro ⟨r, hvalid, htext, hnamed, hhost, hsilent⟩
    exact (hfold r hvalid htext).mpr ⟨hsilent, hnamed, hhost⟩

/-! ## Usable rules that are no conjunction -/

/-- No two readings of a rule differ, so one reading decides whether it is a conjunction. -/
theorem Tolerated.wellFormed_iff {rule : List Char} {r : LooseRule} (h : Tolerated rule r) :
    WellFormed rule ↔ r.slips true = [] := by
  constructor
  · rintro ⟨ps, hps, hfull⟩
    have hlead : isBefore true ['&', '&'] [] = true := rfl
    obtain ⟨r', hvalid, hrender, _, hslips⟩ := hps.reading hlead
    rw [h.valid.unique hvalid (h.text.trans hrender.symm)]
    exact hslips hfull
  · intro hslips
    have hne : r.calls ≠ [] := by
      obtain ⟨call, hmem, _⟩ := h.host
      exact List.ne_nil_of_mem hmem
    rw [← h.text]
    exact wellFormed_of_valid h.valid hslips h.named hne

/-- A rule that is usable only as a conjunction is one that the parser does not read with slips. -/
theorem usable_wellFormed_iff (rule : String) :
    ((parse rule).isUsable = true → WellFormed rule.toList) ↔
      ∀ r, Tolerated rule.toList r → r.slips true = [] := by
  rw [usable_iff]
  constructor
  · intro h r hr
    exact hr.wellFormed_iff.mp (h ⟨r, hr⟩)
  · rintro h ⟨r, hr⟩
    exact hr.wellFormed_iff.mpr (h r hr)

/-- A single bar between the predicates, and no closing parenthesis. -/
def slippedRule : String := "Host(`a.b`) | Path(`/x`"

def slippedReading : LooseRule :=
  .closed [] "Host".toList [] (.quoted [] "a.b".toList (.done []))
    (.unclosed " | ".toList "Path".toList [] (.quoted [] "/x".toList (.done [])))

theorem slipped_usable : (parse slippedRule).isUsable = true ∧ ¬WellFormed slippedRule.toList := by
  have husable : (parse slippedRule).isUsable = true := by decide
  obtain ⟨r, hr⟩ := (usable_iff slippedRule).mp husable
  have hread := hr.valid.read _ le_rfl
  rw [hr.text] at hread
  have hslipped : readLoose slippedRule.toList.length slippedRule.toList = some slippedReading := by
    decide
  obtain rfl := Option.some.inj (hread.symm.trans hslipped)
  exact ⟨husable, fun h => absurd (hr.wellFormed_iff.mp h) (by decide)⟩

end PangolinGateway
