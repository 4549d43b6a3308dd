import PangolinGateway.Transform.RuleReading

/-! # The slips of a rule

A slip is a place where the text of a rule departs from a conjunction and the walk goes on. A reading
without slips is a conjunction, and a conjunction has a reading without slips. -/
namespace PangolinGateway
set_option autoImplicit false
open Spans

inductive Slip where
  /-- Something else than one `&&` between two predicates, or a connector before or after all. -/
  | connector
  /-- Something else than one comma between two arguments, or a comma before or after all. -/
  | separator
  | noArguments
  | emptyArgument
  | bareArgument
  | unclosedQuote
  | unclosedList
  deriving DecidableEq

def isBlank (s : List Char) : Bool := s.all Str.isWhitespace

/-- `token` with whitespace around it. -/
def isPadded (token s : List Char) : Bool :=
  let t := s.dropWhile Str.isWhitespace
  t.take token.length == token && isBlank (t.drop token.length)

/-- The separator that the grammar has before a part: none before the first. -/
def isBefore (first : Bool) (token s : List Char) : Bool :=
  if first then isBlank s else isPadded token s

def slipUnless (ok : Bool) (slip : Slip) : List Slip := if ok then [] else [slip]

def LooseArgs.slips (first : Bool) : LooseArgs → List Slip
  | done sep => slipUnless (!first) .noArguments ++ slipUnless (isBlank sep) .separator
  | quoted sep text rest =>
    slipUnless (isBefore first [','] sep) .separator ++ slipUnless (!text.isEmpty) .emptyArgument ++
      rest.slips false
  | bare _ _ rest => .bareArgument :: rest.slips false
  | unclosed _ _ => [.unclosedQuote]

def LooseRule.slips (first : Bool) : LooseRule → List Slip
  | done gap => slipUnless (isBlank gap) .connector
  | closed gap _ _ args rest =>
    slipUnless (isBefore first ['&', '&'] gap) .connector ++ args.slips true ++ rest.slips false
  | unclosed _ _ _ _ => [.unclosedList]

/-! ## Separators -/

theorem isBlank_iff {s : List Char} : isBlank s = true ↔ Blank s := by
  rw [isBlank, List.all_eq_true, Blank]

theorem slipUnless_eq_nil {ok : Bool} {slip : Slip} : slipUnless ok slip = [] ↔ ok = true := by
  cases ok <;> simp [slipUnless]

/-- A token that whitespace before it does not run into. -/
def StartsDark (token : List Char) : Prop := ∃ c t, token = c :: t ∧ Str.isWhitespace c = false

theorem isPadded_iff {token : List Char} (htoken : StartsDark token) {s : List Char} :
    isPadded token s = true ↔ ∃ w w', Blank w ∧ Blank w' ∧ s = w ++ (token ++ w') := by
  rw [isPadded, Bool.and_eq_true, beq_iff_eq, isBlank_iff]
  constructor
  · rintro ⟨htake, hblank⟩
    have hrest := List.take_append_drop token.length (s.dropWhile Str.isWhitespace)
    rw [htake] at hrest
    refine ⟨s.takeWhile Str.isWhitespace, _, (span_takeWhile _ s).all, hblank, ?_⟩
    rw [hrest, List.takeWhile_append_dropWhile]
  · rintro ⟨w, w', hw, hw', rfl⟩
    obtain ⟨c, t, rfl, hdark⟩ := htoken
    have hspan : Span Str.isWhitespace w (c :: t ++ w') := .cons hw hdark
    rw [hspan.dropWhile_eq, List.take_left, List.drop_left]
    exact ⟨rfl, hw'⟩

theorem isBefore_append {first : Bool} {token s w : List Char} (htoken : StartsDark token)
    (hs : isBefore first token s = true) (hw : Blank w) : isBefore first token (s ++ w) = true := by
  cases first with
  | true => exact isBlank_iff.mpr ((isBlank_iff.mp hs).append hw)
  | false =>
    obtain ⟨v, v', hv, hv', rfl⟩ := (isPadded_iff htoken).mp hs
    refine (isPadded_iff htoken).mpr ⟨v, v' ++ w, hv, hv'.append hw, ?_⟩
    rw [List.append_assoc, List.append_assoc]

theorem isBefore_all {first : Bool} {token s : List Char} {p : Char → Bool} (htoken : StartsDark token)
    (hs : isBefore first token s = true) (hwhite : ∀ c, Str.isWhitespace c = true → p c = true)
    (hall : ∀ c ∈ token, p c = true) : ∀ c ∈ s, p c = true := by
  cases first with
  | true => exact fun c hc => hwhite c (isBlank_iff.mp hs c hc)
  | false =>
    obtain ⟨v, v', hv, hv', rfl⟩ := (isPadded_iff htoken).mp hs
    intro c hc
    rcases List.mem_append.mp hc with hc | hc
    · exact hwhite c (hv c hc)
    · rcases List.mem_append.mp hc with hc | hc
      · exact hall c hc
      · exact hwhite c (hv' c hc)

theorem comma_dark : StartsDark [','] := ⟨',', [], rfl, by decide⟩

theorem and_dark : StartsDark ['&', '&'] := ⟨'&', ['&'], rfl, by decide⟩

theorem comma_before {first : Bool} {lead w : List Char} (hlead : isBefore first [','] lead = true)
    (hw : Blank w) :
    isBefore first [','] (lead ++ w) = true ∧ ∀ c ∈ lead ++ w, isSepChar c = true := by
  have hbefore := isBefore_append comma_dark hlead hw
  exact ⟨hbefore, isBefore_all comma_dark hbefore (fun c hc => by simp [isSepChar, hc])
    (List.all_eq_true.mp (by decide))⟩

theorem and_before {first : Bool} {lead w : List Char}
    (hlead : isBefore first ['&', '&'] lead = true) (hw : Blank w) :
    isBefore first ['&', '&'] (lead ++ w) = true ∧ ∀ c ∈ lead ++ w, isGapChar c = true := by
  have hbefore := isBefore_append and_dark hlead hw
  exact ⟨hbefore, isBefore_all and_dark hbefore (fun c hc => by simp [isGapChar, hc])
    (List.all_eq_true.mp (by decide))⟩

/-! ## A conjunction has a reading without slips -/

theorem isEmpty_toList {arg : String} {args : List String} (hfull : "" ∉ arg :: args) :
    (!arg.toList.isEmpty) = true := by
  have hne : arg ≠ "" := fun heq => hfull (heq ▸ List.mem_cons_self)
  simpa using hne

theorem ArgsText.reading {args : List String} {t : List Char} (h : ArgsText args t) {first : Bool}
    {lead : List Char} (hlead : isBefore first [','] lead = true) :
    ∃ a : LooseArgs, a.Valid true ∧ a.render = lead ++ t ∧ a.values = args ∧
      (args ≠ [] → "" ∉ args → a.slips first = []) := by
  induction h generalizing first lead with
  | none hw => exact ⟨.done _, .done (comma_before hlead hw).2, rfl, rfl, fun hne => absurd rfl hne⟩
  | last hw harg hw' =>
    rename_i w w' arg
    obtain ⟨hbefore, hchars⟩ := comma_before hlead hw
    refine ⟨.quoted (lead ++ w) arg.toList (.done w'),
      .quoted hchars harg (.done fun c hc => by simp [isSepChar, hw' c hc]), ?_, ?_, ?_⟩
    · simp [LooseArgs.render, quoted]
    · simp [LooseArgs.values]
    · intro _ hfull
      simp [LooseArgs.slips, hbefore, isEmpty_toList hfull, isBlank_iff.mpr hw', slipUnless]
  | more hw harg hw' ht ih =>
    rename_i w w' arg next args t
    obtain ⟨hbefore, hchars⟩ := comma_before hlead hw
    have hcomma : isBefore false [','] (w' ++ [',']) = true :=
      (isPadded_iff comma_dark).mpr ⟨w', [], hw', blank_nil, rfl⟩
    obtain ⟨a, hvalid, hrender, hvalues, hslips⟩ := ih hcomma
    refine ⟨.quoted (lead ++ w) arg.toList a, .quoted hchars harg hvalid, ?_, ?_, ?_⟩
    · simp [LooseArgs.render, quoted, hrender]
    · simp [LooseArgs.values, hvalues]
    · intro _ hfull
      have hnext := hslips (List.cons_ne_nil _ _) fun hmem => hfull (List.mem_cons_of_mem arg hmem)
      simp [LooseArgs.slips, hbefore, isEmpty_toList hfull, hnext, slipUnless]

theorem identText_ident (kind : PredicateKind) : IdentText kind.ident.toList where
  all := List.all_eq_true.mp (by cases kind <;> decide)
  start := by cases kind <;> exact ⟨_, _, rfl, by decide⟩

def Predicate.call (p : Predicate) : String × List String := (p.kind.ident, p.args)

/-- Every predicate has arguments, and none of them is empty. -/
def Filled (ps : List Predicate) : Prop := ∀ p ∈ ps, p.args ≠ [] ∧ "" ∉ p.args

theorem PredicateText.reading {p : Predicate} {s : List Char} (h : PredicateText p s) :
    ∃ (blank : List Char) (a : LooseArgs), Blank blank ∧ a.Valid true ∧
      s = p.kind.ident.toList ++ (blank ++ '(' :: (a.render ++ [')'])) ∧ a.values = p.args ∧
        (p.args ≠ [] → "" ∉ p.args → a.slips true = []) := by
  obtain ⟨hblank, ht⟩ := h
  rename_i v t
  have hstart : isBefore true [','] [] = true := rfl
  obtain ⟨a, hvalid, hrender, hvalues, hslips⟩ := ht.reading hstart
  refine ⟨v, a, hblank, hvalid, ?_, hvalues, hslips⟩
  rw [hrender, List.nil_append, List.append_assoc]

theorem ConjunctionText.reading {ps : List Predicate} {s : List Char} (h : ConjunctionText ps s)
    {first : Bool} {lead : List Char} (hlead : isBefore first ['&', '&'] lead = true) :
    ∃ r : LooseRule, r.Valid ∧ r.render = lead ++ s ∧ r.calls = ps.map Predicate.call ∧
      (Filled ps → r.slips first = []) := by
  induction h generalizing first lead with
  | last hw hs hw' =>
    rename_i w w' p s
    obtain ⟨hbefore, hchars⟩ := and_before hlead hw
    obtain ⟨blank, a, hblank, hvalid, rfl, hvalues, hslips⟩ := hs.reading
    refine ⟨.closed (lead ++ w) p.kind.ident.toList blank a (.done w'),
      .closed hchars (identText_ident _) hblank hvalid
        (.done fun c hc => by simp [isGapChar, hw' c hc]), ?_, ?_, ?_⟩
    · simp [LooseRule.render]
    · simp [LooseRule.calls, Predicate.call, hvalues]
    · intro hfilled
      obtain ⟨hne, hfull⟩ := hfilled p List.mem_cons_self
      simp [LooseRule.slips, hbefore, hslips hne hfull, isBlank_iff.mpr hw', slipUnless]
  | more hw hs hw' ht ih =>
    rename_i w w' p s ps t
    obtain ⟨hbefore, hchars⟩ := and_before hlead hw
    have hand : isBefore false ['&', '&'] (w' ++ ['&', '&']) = true :=
      (isPadded_iff and_dark).mpr ⟨w', [], hw', blank_nil, rfl⟩
    obtain ⟨r, hrest, hrender, hcalls, hslips'⟩ := ih hand
    obtain ⟨blank, a, hblank, hvalid, rfl, hvalues, hslips⟩ := hs.reading
    refine ⟨.closed (lead ++ w) p.kind.ident.toList blank a r,
      .closed hchars (identText_ident _) hblank hvalid hrest, ?_, ?_, ?_⟩
    · simp [LooseRule.render, hrender]
    · simp [LooseRule.calls, Predicate.call, hvalues, hcalls]
    · intro hfilled
      obtain ⟨⟨hne, hfull⟩, hfilled⟩ := List.forall_mem_cons.mp hfilled
      simp [LooseRule.slips, hbefore, hslips hne hfull, hslips' hfilled, slipUnless]

/-! ## A reading without slips is a conjunction -/

/-- Every call is of one of the four predicates. -/
def Named (calls : List (String × List String)) : Prop :=
  ∀ call ∈ calls, ∃ kind : PredicateKind, call.1 = kind.ident

theorem quotable_ofList {text : List Char} (h : '`' ∉ text) : Quotable (String.ofList text) := by
  rwa [Quotable, String.toList_ofList]

theorem quoted_ofList (text : List Char) : quoted (String.ofList text) = '`' :: (text ++ ['`']) := by
  rw [quoted, String.toList_ofList]

theorem empty_not_mem {text : List Char} {args : List String} (h : (!text.isEmpty) = true)
    (hargs : "" ∉ args) : "" ∉ String.ofList text :: args := by
  refine fun hmem => (List.mem_cons.mp hmem).elim (fun heq => ?_) hargs
  obtain rfl : text = [] := by simpa using congrArg String.toList heq.symm
  simp at h

/-- The list goes on after `arg`. -/
theorem argsText_after {a : LooseArgs} (h : a.Valid true) (hslips : a.slips false = [])
    {arg : String} {w : List Char} (hw : Blank w) (harg : Quotable arg) :
    ArgsText (arg :: a.values) (w ++ quoted arg ++ a.render) ∧ "" ∉ a.values := by
  induction h generalizing arg w with
  | done hsep =>
    simp only [LooseArgs.slips, List.append_eq_nil_iff, slipUnless_eq_nil] at hslips
    exact ⟨.last hw harg (isBlank_iff.mp hslips.2), List.not_mem_nil⟩
  | quoted hsep htext hrest ih =>
    simp only [LooseArgs.slips, List.append_eq_nil_iff, slipUnless_eq_nil] at hslips
    obtain ⟨⟨hcomma, hfilled⟩, hslips⟩ := hslips
    obtain ⟨v, v', hv, hv', rfl⟩ := (isPadded_iff comma_dark).mp hcomma
    obtain ⟨hargs, hfull⟩ := ih hslips hv' (quotable_ofList htext)
    have hmore := ArgsText.more hw harg hv hargs
    refine ⟨?_, empty_not_mem hfilled hfull⟩
    simpa [LooseArgs.render, LooseArgs.values, quoted_ofList] using hmore
  | bare _ _ _ _ _ => simp [LooseArgs.slips] at hslips
  | unclosed _ _ _ => simp [LooseArgs.slips] at hslips

theorem argsText_of_valid {a : LooseArgs} (h : a.Valid true) (hslips : a.slips true = []) :
    ArgsText a.values a.render ∧ a.values ≠ [] ∧ "" ∉ a.values := by
  cases h with
  | done hsep => simp [LooseArgs.slips, slipUnless] at hslips
  | quoted hsep htext hrest =>
    simp only [LooseArgs.slips, List.append_eq_nil_iff, slipUnless_eq_nil] at hslips
    obtain ⟨⟨hblank, hfilled⟩, hslips⟩ := hslips
    obtain ⟨hargs, hfull⟩ := argsText_after hrest hslips (isBlank_iff.mp hblank)
      (quotable_ofList htext)
    refine ⟨?_, List.cons_ne_nil _ _, empty_not_mem hfilled hfull⟩
    simpa [LooseArgs.render, LooseArgs.values, quoted_ofList] using hargs
  | bare _ _ _ _ => simp [LooseArgs.slips] at hslips
  | unclosed _ _ _ => simp [LooseArgs.slips] at hslips

theorem predicateText_of_valid {kind : PredicateKind} {ident blank : List Char} {a : LooseArgs}
    (hkind : String.ofList ident = kind.ident) (hblank : Blank blank) (h : a.Valid true)
    (hslips : a.slips true = []) :
    PredicateText ⟨kind, a.values⟩ (ident ++ blank ++ '(' :: (a.render ++ [')'])) := by
  have hident : ident = kind.ident.toList := by rw [← hkind, String.toList_ofList]
  rw [hident]
  exact .mk hblank (argsText_of_valid h hslips).1

/-- The rule goes on after `p`. -/
theorem conjunctionText_after {r : LooseRule} (h : r.Valid) (hslips : r.slips false = [])
    (hnamed : Named r.calls) {p : Predicate} {w s : List Char} (hw : Blank w)
    (hs : PredicateText p s) : ∃ ps, ConjunctionText (p :: ps) (w ++ s ++ r.render) ∧ Filled ps := by
  induction h generalizing p w s with
  | done hgap =>
    simp only [LooseRule.slips, slipUnless_eq_nil] at hslips
    exact ⟨[], .last hw hs (isBlank_iff.mp hslips), nofun⟩
  | closed hgap hident hblank hargs hrest ih =>
    rename_i gap ident blank args rest
    simp only [LooseRule.slips, List.append_eq_nil_iff, slipUnless_eq_nil] at hslips
    obtain ⟨⟨hand, hslips'⟩, hslips⟩ := hslips
    obtain ⟨⟨kind, hkind⟩, htail⟩ := List.forall_mem_cons.mp hnamed
    obtain ⟨v, v', hv, hv', rfl⟩ := (isPadded_iff and_dark).mp hand
    obtain ⟨ps, hps, hfull⟩ := ih hslips htail hv'
      (predicateText_of_valid hkind hblank hargs hslips')
    refine ⟨⟨kind, args.values⟩ :: ps, ?_,
      List.forall_mem_cons.mpr ⟨(argsText_of_valid hargs hslips').2, hfull⟩⟩
    have hmore := ConjunctionText.more hw hs hv hps
    simpa [LooseRule.render] using hmore
  | unclosed _ _ _ _ => simp [LooseRule.slips] at hslips

/-- Predicates with `&&` between them, each with arguments in backticks, and none of them empty. -/
def WellFormed (rule : List Char) : Prop := ∃ ps, ConjunctionText ps rule ∧ Filled ps

theorem wellFormed_of_valid {r : LooseRule} (h : r.Valid) (hslips : r.slips true = [])
    (hnamed : Named r.calls) (hne : r.calls ≠ []) : WellFormed r.render := by
  cases h with
  | done hgap => exact absurd rfl hne
  | closed hgap hident hblank hargs hrest =>
    simp only [LooseRule.slips, List.append_eq_nil_iff, slipUnless_eq_nil] at hslips
    obtain ⟨⟨hlead, hslips'⟩, hslips⟩ := hslips
    obtain ⟨⟨kind, hkind⟩, hnamed⟩ := List.forall_mem_cons.mp hnamed
    obtain ⟨ps, hps, hfull⟩ := conjunctionText_after hrest hslips hnamed (isBlank_iff.mp hlead)
      (predicateText_of_valid hkind hblank hargs hslips')
    refine ⟨⟨kind, LooseArgs.values _⟩ :: ps, ?_,
      List.forall_mem_cons.mpr ⟨(argsText_of_valid hargs hslips').2, hfull⟩⟩
    simpa [LooseRule.render] using hps
  | unclosed _ _ _ _ => simp [LooseRule.slips] at hslips

end PangolinGateway
