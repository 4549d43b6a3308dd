import PangolinGateway.Text.Spans
import PangolinGateway.Transform.RuleText

/-! # Reading a rule without losing a character

The walk skips what stands between the parts of a rule and accepts a list or a quote that the rule
does not close. A reading keeps all of it: the text of a rule has one reading at most, and the walk
is the fold of `handlePredicate` over it. -/
namespace PangolinGateway
set_option autoImplicit false
open Spans

/-- What stands between the parentheses. -/
inductive LooseArgs where
  | done (sep : List Char)
  | quoted (sep text : List Char) (rest : LooseArgs)
  | bare (sep text : List Char) (rest : LooseArgs)
  /-- The rule ends before the closing backtick. -/
  | unclosed (sep text : List Char)
  deriving DecidableEq

inductive LooseRule where
  | done (gap : List Char)
  | closed (gap ident blank : List Char) (args : LooseArgs) (rest : LooseRule)
  /-- The rule ends before the closing parenthesis. -/
  | unclosed (gap ident blank : List Char) (args : LooseArgs)
  deriving DecidableEq

def LooseArgs.render : LooseArgs → List Char
  | done sep => sep
  | quoted sep text rest => sep ++ '`' :: (text ++ '`' :: rest.render)
  | bare sep text rest => sep ++ (text ++ rest.render)
  | unclosed sep text => sep ++ '`' :: text

def LooseRule.render : LooseRule → List Char
  | done gap => gap
  | closed gap ident blank args rest =>
    gap ++ (ident ++ (blank ++ '(' :: (args.render ++ ')' :: rest.render)))
  | unclosed gap ident blank args => gap ++ (ident ++ (blank ++ '(' :: args.render))

/-! ## Which readings a text can have -/

def isSepChar (c : Char) : Bool := Str.isWhitespace c || c == ','

def isGapChar (c : Char) : Bool := Str.isWhitespace c || c == '&' || c == '|'

def isBareChar (c : Char) : Bool := c != ',' && c != ')'

/-- A token outside backticks. -/
structure BareText (text : List Char) : Prop where
  all : ∀ c ∈ text, isBareChar c = true
  start : ∃ c s, text = c :: s ∧ isSepChar c = false ∧ c ≠ '`'

structure IdentText (ident : List Char) : Prop where
  all : ∀ c ∈ ident, isIdentChar c = true
  start : ∃ c s, ident = c :: s ∧ Str.isAsciiAlphabetic c = true

/-- `closed` tells whether the list ends in a parenthesis. -/
inductive LooseArgs.Valid (closed : Bool) : LooseArgs → Prop
  | done {sep : List Char} (hsep : ∀ c ∈ sep, isSepChar c = true) : Valid closed (.done sep)
  | quoted {sep text : List Char} {rest : LooseArgs} (hsep : ∀ c ∈ sep, isSepChar c = true)
      (htext : '`' ∉ text) (hrest : Valid closed rest) : Valid closed (.quoted sep text rest)
  | bare {sep text : List Char} {rest : LooseArgs} (hsep : ∀ c ∈ sep, isSepChar c = true)
      (htext : BareText text) (hstop : ∀ c, rest.render.head? = some c → isBareChar c = false)
      (hrest : Valid closed rest) : Valid closed (.bare sep text rest)
  | unclosed {sep text : List Char} (hsep : ∀ c ∈ sep, isSepChar c = true) (htext : '`' ∉ text)
      (hclosed : closed = false) : Valid closed (.unclosed sep text)

inductive LooseRule.Valid : LooseRule → Prop
  | done {gap : List Char} (hgap : ∀ c ∈ gap, isGapChar c = true) : Valid (.done gap)
  | closed {gap ident blank : List Char} {args : LooseArgs} {rest : LooseRule}
      (hgap : ∀ c ∈ gap, isGapChar c = true) (hident : IdentText ident) (hblank : Blank blank)
      (hargs : args.Valid true) (hrest : Valid rest) : Valid (.closed gap ident blank args rest)
  | unclosed {gap ident blank : List Char} {args : LooseArgs}
      (hgap : ∀ c ∈ gap, isGapChar c = true) (hident : IdentText ident) (hblank : Blank blank)
      (hargs : args.Valid false) : Valid (.unclosed gap ident blank args)

/-! ## The reader -/

def readLooseArgs : ℕ → List Char → LooseArgs × List Char
  | 0, s => (.done [], s)
  | n + 1, s =>
    let sep := s.takeWhile isSepChar
    match s.dropWhile isSepChar with
    | [] => (.done sep, [])
    | c :: s =>
      if c = ')' then (.done sep, c :: s)
      else if c = '`' then
        let text := s.takeWhile (· != '`')
        match s.dropWhile (· != '`') with
        | [] => (.unclosed sep text, [])
        | _ :: s =>
          let (args, rest) := readLooseArgs n s
          (.quoted sep text args, rest)
      else
        let (args, rest) := readLooseArgs n ((c :: s).dropWhile isBareChar)
        (.bare sep ((c :: s).takeWhile isBareChar) args, rest)

def readLoose : ℕ → List Char → Option LooseRule
  | 0, s => some (.done s)
  | n + 1, s =>
    let gap := s.takeWhile isGapChar
    match s.dropWhile isGapChar with
    | [] => some (.done gap)
    | c :: s =>
      if !Str.isAsciiAlphabetic c then none
      else
        let ident := (c :: s).takeWhile isIdentChar
        let s := (c :: s).dropWhile isIdentChar
        let blank := s.takeWhile Str.isWhitespace
        let s := s.dropWhile Str.isWhitespace
        if s.head? = some '(' then
          let (args, s) := readLooseArgs (s.drop 1).length (s.drop 1)
          if s.head? = some ')' then
            (readLoose n (s.drop 1)).map fun rest => .closed gap ident blank args rest
          else some (.unclosed gap ident blank args)
        else none

/-! ## One reading at most -/

/-- `args` is read off the front of `s`, up to the parenthesis or the end of the rule. -/
structure ReadsArgs (s : List Char) (args : LooseArgs) (rest : List Char) : Prop where
  text : args.render ++ rest = s
  stop : ∀ c, rest.head? = some c → c = ')'
  valid : args.Valid rest.head?.isSome

theorem readLooseArgs_reads (n : ℕ) (s : List Char) (hn : s.length ≤ n) :
    ReadsArgs s (readLooseArgs n s).1 (readLooseArgs n s).2 := by
  induction n generalizing s with
  | zero =>
    obtain rfl := List.eq_nil_of_length_eq_zero (Nat.le_zero.mp hn)
    exact ⟨rfl, nofun, .done nofun⟩
  | succ n ih =>
    obtain ⟨sep, t, hspan, rfl⟩ := exists_span isSepChar s
    simp only [readLooseArgs, hspan.takeWhile_eq, hspan.dropWhile_eq]
    cases t with
    | nil => exact ⟨rfl, nofun, .done hspan.all⟩
    | cons c t =>
      have hlength : t.length ≤ n := by
        simp only [List.length_append, List.length_cons] at hn
        omega
      by_cases hclose : c = ')'
      · subst hclose
        exact ⟨rfl, fun d hd => (Option.some.inj hd).symm, .done hspan.all⟩
      by_cases htick : c = '`'
      · subst htick
        obtain ⟨text, u, hquote, rfl⟩ := exists_span (· != '`') t
        simp only [hclose, if_false, if_true, hquote.takeWhile_eq, hquote.dropWhile_eq]
        have hfree : '`' ∉ text := fun hmem => absurd (hquote.all _ hmem) (by decide)
        cases u with
        | nil => exact ⟨by simp [LooseArgs.render], nofun, .unclosed hspan.all hfree rfl⟩
        | cons d u =>
          obtain rfl : d = '`' := by simpa using hquote.stop d rfl
          obtain ⟨hrest, hstop, hvalid⟩ := ih u (by
            simp only [List.length_append, List.length_cons] at hlength
            omega)
          refine ⟨?_, hstop, .quoted hspan.all hfree hvalid⟩
          rw [LooseArgs.render, List.append_assoc, List.cons_append, List.append_assoc,
            List.cons_append, hrest]
      · have hsep : isSepChar c = false := hspan.stop c rfl
        have hbare : isBareChar c = true := by
          have hcomma : c ≠ ',' := by
            rintro rfl
            exact absurd hsep (by decide)
          simp [isBareChar, hcomma, hclose]
        obtain ⟨text, u, htoken, rfl⟩ := exists_span isBareChar t
        simp only [hclose, htick, if_false, List.takeWhile_cons_of_pos hbare,
          List.dropWhile_cons_of_pos hbare, htoken.takeWhile_eq, htoken.dropWhile_eq]
        obtain ⟨hrest, hstop, hvalid⟩ := ih u (by
          simp only [List.length_append] at hlength
          omega)
        refine ⟨?_, hstop, .bare hspan.all ⟨?_, c, text, rfl, hsep, htick⟩ ?_ hvalid⟩
        · rw [LooseArgs.render, List.append_assoc, List.append_assoc, hrest]
          rfl
        · exact List.forall_mem_cons.mpr ⟨hbare, htoken.all⟩
        · intro d hd
          refine htoken.stop d ?_
          rw [← hrest, List.head?_append, hd]
          rfl

/-! ### What the reader makes of each front -/

section Fronts
variable {sep text : List Char} (hsep : ∀ c ∈ sep, isSepChar c = true) (n : ℕ)
include hsep

theorem readLooseArgs_done {rest : List Char} (hstop : ∀ c, rest.head? = some c → c = ')') :
    readLooseArgs (n + 1) (sep ++ rest) = (.done sep, rest) := by
  have hspan : Span isSepChar sep rest := by
    refine ⟨hsep, fun c hc => ?_⟩
    rw [hstop c hc]
    decide
  simp only [readLooseArgs, hspan.takeWhile_eq, hspan.dropWhile_eq]
  cases rest with
  | nil => rfl
  | cons c rest => simp [hstop c rfl]

theorem readLooseArgs_quoted (htext : '`' ∉ text) (s : List Char) :
    readLooseArgs (n + 1) (sep ++ '`' :: (text ++ '`' :: s)) =
      (.quoted sep text (readLooseArgs n s).1, (readLooseArgs n s).2) := by
  have hspan : Span isSepChar sep ('`' :: (text ++ '`' :: s)) := .cons hsep (by decide)
  have hquote : Span (· != '`') text ('`' :: s) :=
    .cons (fun c hc => by simpa using fun heq : c = '`' => htext (heq ▸ hc)) (by decide)
  simp only [readLooseArgs, hspan.takeWhile_eq, hspan.dropWhile_eq, hquote.takeWhile_eq,
    hquote.dropWhile_eq]
  rfl

theorem readLooseArgs_unclosed (htext : '`' ∉ text) :
    readLooseArgs (n + 1) (sep ++ '`' :: text) = (.unclosed sep text, []) := by
  have hspan : Span isSepChar sep ('`' :: text) := .cons hsep (by decide)
  have hquote : Span (· != '`') text [] :=
    .nil fun c hc => by simpa using fun heq : c = '`' => htext (heq ▸ hc)
  have htake := hquote.takeWhile_eq
  have hdrop := hquote.dropWhile_eq
  rw [List.append_nil] at htake hdrop
  simp only [readLooseArgs, hspan.takeWhile_eq, hspan.dropWhile_eq, htake, hdrop]
  rfl

theorem readLooseArgs_bare (htext : BareText text) {s : List Char}
    (hstop : ∀ c, s.head? = some c → isBareChar c = false) :
    readLooseArgs (n + 1) (sep ++ (text ++ s)) =
      (.bare sep text (readLooseArgs n s).1, (readLooseArgs n s).2) := by
  obtain ⟨hall, c, t, rfl, hstart, htick⟩ := htext
  have hspan : Span isSepChar sep (c :: t ++ s) := .cons hsep hstart
  have htoken : Span isBareChar (c :: t) s := ⟨hall, hstop⟩
  have hparen : c ≠ ')' := by
    rintro rfl
    exact absurd (hall ')' List.mem_cons_self) (by decide)
  simp only [readLooseArgs, hspan.takeWhile_eq, hspan.dropWhile_eq]
  simp only [List.cons_append, hparen, htick, if_false]
  rw [← List.cons_append, htoken.takeWhile_eq, htoken.dropWhile_eq]

end Fronts

theorem ReadsArgs.read {s : List Char} {args : LooseArgs} {rest : List Char}
    (h : ReadsArgs s args rest) (n : ℕ) (hn : s.length ≤ n) : readLooseArgs n s = (args, rest) := by
  obtain ⟨rfl, hstop, hvalid⟩ := h
  generalize hclosed : rest.head?.isSome = closed at hvalid
  induction hvalid generalizing n with
  | done hsep =>
    cases n with
    | zero =>
      have hnil := List.eq_nil_of_length_eq_zero (Nat.le_zero.mp hn)
      obtain ⟨rfl, rfl⟩ := List.append_eq_nil_iff.mp hnil
      rfl
    | succ n => exact readLooseArgs_done hsep n hstop
  | quoted hsep htext hrest ih =>
    rename_i sep text args
    obtain ⟨m, rfl⟩ : ∃ m, n = m + 1 := ⟨n - 1, by
      simp only [LooseArgs.render, List.length_append, List.length_cons] at hn
      omega⟩
    have hassoc : (LooseArgs.quoted sep text args).render ++ rest =
        sep ++ '`' :: (text ++ '`' :: (args.render ++ rest)) := by simp [LooseArgs.render]
    have hnext := ih m (by
      simp only [LooseArgs.render, List.length_append, List.length_cons] at hn ⊢
      omega)
    rw [hassoc, readLooseArgs_quoted hsep m htext, hnext]
  | bare hsep htext hstop' hrest ih =>
    rename_i sep text args
    have hpos : 0 < text.length := by
      obtain ⟨_, _, rfl, _⟩ := htext.start
      exact Nat.succ_pos _
    obtain ⟨m, rfl⟩ : ∃ m, n = m + 1 := ⟨n - 1, by
      simp only [LooseArgs.render, List.length_append] at hn
      omega⟩
    have hassoc : (LooseArgs.bare sep text args).render ++ rest =
        sep ++ (text ++ (args.render ++ rest)) := by simp [LooseArgs.render]
    have hbare : ∀ d, (args.render ++ rest).head? = some d → isBareChar d = false := by
      intro d hd
      cases hargs : args.render with
      | nil =>
        rw [hargs, List.nil_append] at hd
        rw [hstop d hd]
        decide
      | cons e u =>
        rw [hargs] at hd hstop'
        exact hstop' d hd
    have hnext := ih m (by
      simp only [LooseArgs.render, List.length_append] at hn ⊢
      omega)
    rw [hassoc, readLooseArgs_bare hsep m htext hbare, hnext]
  | unclosed hsep htext hopen =>
    obtain ⟨m, rfl⟩ : ∃ m, n = m + 1 := ⟨n - 1, by
      simp only [LooseArgs.render, List.length_append, List.length_cons] at hn
      omega⟩
    obtain rfl : rest = [] := by
      rw [hopen] at hclosed
      simpa using hclosed
    rw [List.append_nil]
    exact readLooseArgs_unclosed hsep m htext

theorem ReadsArgs.rest_eq {s : List Char} {args : LooseArgs} {rest : List Char}
    (h : ReadsArgs s args rest) (hopen : rest.head? ≠ some ')') : rest = [] := by
  cases rest with
  | nil => rfl
  | cons c rest => exact absurd (congrArg some (h.stop c rfl)) hopen

theorem isIdentChar_of_isWhitespace {c : Char} (h : Str.isWhitespace c = true) :
    isIdentChar c = false := by
  have hne : c ≠ '_' := by
    rintro rfl
    exact absurd h (by decide)
  simp only [Str.isWhitespace, Bool.or_eq_true, Bool.and_eq_true, decide_eq_true_eq, beq_iff_eq] at h
  simp only [isIdentChar, Str.isAsciiAlphanumeric, Str.isAsciiAlphabetic, Str.isAsciiLowercase,
    Str.isAsciiUppercase, Str.isAsciiDigit, Bool.or_eq_false_iff, Bool.and_eq_false_iff,
    decide_eq_false_iff_not, beq_eq_false_iff_ne]
  refine ⟨⟨⟨?_, ?_⟩, ?_⟩, hne⟩ <;> omega

theorem not_gap_of_isAsciiAlphabetic {c : Char} (h : Str.isAsciiAlphabetic c = true) :
    isGapChar c = false ∧ isIdentChar c = true := by
  have hident : isIdentChar c = true := by simp [isIdentChar, Str.isAsciiAlphanumeric, h]
  have hwhite : Str.isWhitespace c = false := by
    cases hc : Str.isWhitespace c with
    | false => rfl
    | true => simp [isIdentChar_of_isWhitespace hc] at hident
  refine ⟨?_, hident⟩
  have hand : c ≠ '&' := by
    rintro rfl
    exact absurd h (by decide)
  have hbar : c ≠ '|' := by
    rintro rfl
    exact absurd h (by decide)
  simp [isGapChar, hwhite, hand, hbar]

/-- What the reader returns is a reading of its text. -/
theorem readLoose_reads (n : ℕ) (s : List Char) (r : LooseRule) (hn : s.length ≤ n)
    (h : readLoose n s = some r) : r.Valid ∧ r.render = s := by
  induction n generalizing s r with
  | zero =>
    obtain rfl := List.eq_nil_of_length_eq_zero (Nat.le_zero.mp hn)
    obtain rfl := Option.some.inj h
    exact ⟨.done nofun, rfl⟩
  | succ n ih =>
    obtain ⟨gap, t, hspan, rfl⟩ := exists_span isGapChar s
    simp only [readLoose, hspan.takeWhile_eq, hspan.dropWhile_eq] at h
    cases t with
    | nil =>
      obtain rfl := Option.some.inj h
      exact ⟨.done hspan.all, (List.append_nil gap).symm⟩
    | cons c t =>
      cases halpha : Str.isAsciiAlphabetic c with
      | false => simp [halpha] at h
      | true =>
        have hfirst := (not_gap_of_isAsciiAlphabetic halpha).2
        obtain ⟨word, u, hword, rfl⟩ := exists_span isIdentChar t
        obtain ⟨blank, v, hblank, rfl⟩ := exists_span Str.isWhitespace u
        have hident : IdentText (c :: word) :=
          ⟨List.forall_mem_cons.mpr ⟨hfirst, hword.all⟩, c, word, rfl, halpha⟩
        simp only [halpha, Bool.not_true, Bool.false_eq_true, if_false,
          List.takeWhile_cons_of_pos hfirst, List.dropWhile_cons_of_pos hfirst, hword.takeWhile_eq,
          hword.dropWhile_eq, hblank.takeWhile_eq, hblank.dropWhile_eq] at h
        split at h
        · next hparen =>
          obtain ⟨v, rfl⟩ := List.head?_eq_some_iff.mp hparen
          rw [List.drop_one, List.tail_cons] at h
          have hreads := readLooseArgs_reads v.length v le_rfl
          generalize (readLooseArgs v.length v).1 = args at hreads h
          generalize (readLooseArgs v.length v).2 = rest at hreads h
          split at h
          · next hclose =>
            obtain ⟨rest', rfl⟩ := List.head?_eq_some_iff.mp hclose
            obtain ⟨r', hr', rfl⟩ := Option.map_eq_some_iff.mp h
            have hlength := congrArg List.length hreads.text
            obtain ⟨hvalid, hrender⟩ := ih rest' r' (by
              simp only [List.length_append, List.length_cons] at hn hlength
              omega) hr'
            refine ⟨.closed hspan.all hident hblank.all hreads.valid hvalid, ?_⟩
            rw [LooseRule.render, hrender, hreads.text]
            rfl
          · next hopen =>
            obtain rfl := hreads.rest_eq hopen
            obtain rfl := Option.some.inj h
            have htext := hreads.text
            rw [List.append_nil] at htext
            refine ⟨.unclosed hspan.all hident hblank.all hreads.valid, ?_⟩
            rw [LooseRule.render, htext]
            rfl
        · exact absurd h.symm (Option.some_ne_none r)

/-- The front of a predicate, as the reader takes it apart. -/
theorem predicate_spans {gap ident blank : List Char} (hgap : ∀ c ∈ gap, isGapChar c = true)
    (hident : IdentText ident) (hblank : Blank blank) (s : List Char) :
    Span isGapChar gap (ident ++ (blank ++ '(' :: s)) ∧
      Span isIdentChar ident (blank ++ '(' :: s) ∧ Span Str.isWhitespace blank ('(' :: s) := by
  obtain ⟨hall, c, t, rfl, halpha⟩ := hident
  refine ⟨.cons hgap (not_gap_of_isAsciiAlphabetic halpha).1, ⟨hall, fun d hd => ?_⟩,
    .cons hblank (by decide)⟩
  cases blank with
  | nil =>
    obtain rfl := Option.some.inj hd
    decide
  | cons e blank =>
    obtain rfl := Option.some.inj hd
    exact isIdentChar_of_isWhitespace (hblank e List.mem_cons_self)

/-- What the reader makes of a predicate, once its list of arguments is read. -/
theorem readLoose_predicate {gap ident blank s rest : List Char} {args : LooseArgs}
    (hgap : ∀ c ∈ gap, isGapChar c = true) (hident : IdentText ident) (hblank : Blank blank)
    (hargs : ReadsArgs s args rest) (n : ℕ) :
    readLoose (n + 1) (gap ++ (ident ++ (blank ++ '(' :: s))) =
      if rest.head? = some ')' then
        (readLoose n (rest.drop 1)).map fun rest => .closed gap ident blank args rest
      else some (.unclosed gap ident blank args) := by
  obtain ⟨hgapSpan, hidentSpan, hblankSpan⟩ := predicate_spans hgap hident hblank s
  obtain ⟨c, t, rfl, halpha⟩ := hident.start
  simp only [readLoose, hgapSpan.takeWhile_eq, hgapSpan.dropWhile_eq]
  simp only [List.cons_append, halpha, Bool.not_true, Bool.false_eq_true, if_false]
  rw [← List.cons_append, hidentSpan.takeWhile_eq, hidentSpan.dropWhile_eq]
  rw [hblankSpan.takeWhile_eq, hblankSpan.dropWhile_eq, List.head?_cons, if_pos rfl, List.drop_one,
    List.tail_cons, hargs.read _ le_rfl]

/-- The reader finds the reading a text was made from. -/
theorem LooseRule.Valid.read {r : LooseRule} (h : r.Valid) (n : ℕ) (hn : r.render.length ≤ n) :
    readLoose n r.render = some r := by
  induction h generalizing n with
  | done hgap =>
    rename_i gap
    cases n with
    | zero =>
      rw [List.eq_nil_of_length_eq_zero (Nat.le_zero.mp hn)]
      exact congrArg (some ∘ LooseRule.done) (List.eq_nil_of_length_eq_zero (Nat.le_zero.mp hn)).symm
    | succ n =>
      have htake := (Span.nil hgap).takeWhile_eq
      have hdrop := (Span.nil hgap).dropWhile_eq
      rw [List.append_nil] at htake hdrop
      simp only [readLoose, LooseRule.render, htake, hdrop]
  | closed hgap hident hblank hargs hrest ih =>
    rename_i gap ident blank args rest
    obtain ⟨m, rfl⟩ : ∃ m, n = m + 1 := ⟨n - 1, by
      simp only [LooseRule.render, List.length_append, List.length_cons] at hn
      omega⟩
    have hreads : ReadsArgs (args.render ++ ')' :: rest.render) args (')' :: rest.render) :=
      ⟨rfl, fun c hc => (Option.some.inj hc).symm, hargs⟩
    have hnext := ih m (by
      simp only [LooseRule.render, List.length_append, List.length_cons] at hn ⊢
      omega)
    rw [LooseRule.render, readLoose_predicate hgap hident hblank hreads, List.head?_cons, if_pos rfl,
      List.drop_one, List.tail_cons, hnext]
    rfl
  | unclosed hgap hident hblank hargs =>
    rename_i gap ident blank args
    obtain ⟨m, rfl⟩ : ∃ m, n = m + 1 := ⟨n - 1, by
      simp only [LooseRule.render, List.length_append, List.length_cons] at hn
      omega⟩
    have hreads : ReadsArgs args.render args [] := ⟨List.append_nil _, nofun, hargs⟩
    rw [LooseRule.render, readLoose_predicate hgap hident hblank hreads]
    rfl

theorem LooseRule.Valid.unique {r r' : LooseRule} (h : r.Valid) (h' : r'.Valid)
    (heq : r.render = r'.render) : r = r' := by
  have hread := h.read _ le_rfl
  rw [heq, h'.read _ le_rfl] at hread
  exact (Option.some.inj hread).symm

/-! ## The walk is the fold over the reading -/

def LooseArgs.values : LooseArgs → List String
  | done _ => []
  | quoted _ text rest => String.ofList text :: rest.values
  | bare _ text rest => String.ofList (Str.trim text) :: rest.values
  | unclosed _ text => [String.ofList text]

/-- The calls of `handle_predicate`. -/
def LooseRule.calls : LooseRule → List (String × List String)
  | done _ => []
  | closed _ ident _ args rest => (String.ofList ident, args.values) :: rest.calls
  | unclosed _ ident _ args => [(String.ofList ident, args.values)]

def handleCall (out : ParsedRule) (call : String × List String) : ParsedRule :=
  handlePredicate out call.1 call.2

theorem readArgs_nil (n : ℕ) : readArgs n [] = ([], []) := by
  cases n with
  | zero => rfl
  | succ n => simp [readArgs]

theorem readArgs_eq (n : ℕ) (s : List Char) :
    readArgs n s = ((readLooseArgs n s).1.values, (readLooseArgs n s).2) := by
  induction n generalizing s with
  | zero => rfl
  | succ n ih =>
    simp only [readArgs, readLooseArgs]
    rw [show (fun c => Str.isWhitespace c || c == ',') = isSepChar from rfl]
    cases s.dropWhile isSepChar with
    | nil => rfl
    | cons c t =>
      simp only
      by_cases hclose : c = ')'
      · simp only [hclose, if_true]
        rfl
      · by_cases htick : c = '`'
        · subst htick
          simp only [hclose, if_false, if_true]
          cases t.dropWhile (· != '`') with
          | nil =>
            rw [List.drop_nil, readArgs_nil]
            rfl
          | cons d u =>
            rw [List.drop_succ_cons, List.drop_zero, ih]
            rfl
        · simp only [hclose, htick, if_false]
          rw [ih]
          rfl

theorem walk_nil (total n : ℕ) (out : ParsedRule) : walk total n [] out = out := by
  cases n with
  | zero => rfl
  | succ n => simp [walk]

/-- The walk makes of a rule what `handle_predicate` makes of its reading; a rule without a reading
leaves an entry in `unsupported_predicates`. -/
theorem walk_read (total n : ℕ) (s : List Char) (out : ParsedRule) (hn : s.length ≤ n) :
    (∀ r, readLoose n s = some r → walk total n s out = r.calls.foldl handleCall out) ∧
      (readLoose n s = none → (walk total n s out).unsupportedPredicates ≠ []) := by
  induction n generalizing s out with
  | zero =>
    refine ⟨fun r hr => ?_, fun hr => absurd hr (Option.some_ne_none _)⟩
    obtain rfl := Option.some.inj hr
    rfl
  | succ n ih =>
    have hgap := List.length_dropWhile_le isGapChar s
    simp only [walk, readLoose]
    rw [show (fun c => Str.isWhitespace c || c == '&' || c == '|') = isGapChar from rfl]
    generalize s.dropWhile isGapChar = t at hgap ⊢
    cases t with
    | nil =>
      refine ⟨fun r hr => ?_, fun hr => absurd hr (Option.some_ne_none _)⟩
      obtain rfl := Option.some.inj hr
      rfl
    | cons c t =>
      cases halpha : Str.isAsciiAlphabetic c with
      | false =>
        simp only [halpha, Bool.not_false, if_true]
        exact ⟨fun r hr => absurd hr.symm (Option.some_ne_none r), fun _ => by simp [ParsedRule.reject]⟩
      | true =>
        simp only [halpha, Bool.not_true, Bool.false_eq_true, if_false]
        have hident := List.length_dropWhile_le isIdentChar (c :: t)
        have hblank := List.length_dropWhile_le Str.isWhitespace ((c :: t).dropWhile isIdentChar)
        generalize ((c :: t).dropWhile isIdentChar).dropWhile Str.isWhitespace = v at hblank ⊢
        by_cases hparen : v.head? = some '('
        · obtain ⟨v, rfl⟩ := List.head?_eq_some_iff.mp hparen
          simp only [hparen, if_true, List.drop_one, List.tail_cons, readArgs_eq]
          have hreads := readLooseArgs_reads v.length v le_rfl
          generalize (readLooseArgs v.length v).1 = args at hreads ⊢
          generalize (readLooseArgs v.length v).2 = rest at hreads ⊢
          have hlength := congrArg List.length hreads.text
          simp only [List.length_append, List.length_cons] at hlength hblank hident hgap
          obtain ⟨hsome, hnone⟩ := ih rest.tail
            (handlePredicate out (String.ofList ((c :: t).takeWhile isIdentChar)) args.values) (by
              rw [List.length_tail]
              omega)
          by_cases hclose : rest.head? = some ')'
          · simp only [hclose, if_true]
            refine ⟨fun r hr => ?_, fun hr => ?_⟩
            · obtain ⟨r', hr', rfl⟩ := Option.map_eq_some_iff.mp hr
              exact hsome r' hr'
            · exact hnone (Option.map_eq_none_iff.mp hr)
          · obtain rfl := hreads.rest_eq hclose
            simp only [hclose, if_false]
            refine ⟨fun r hr => ?_, fun hr => absurd hr (Option.some_ne_none _)⟩
            obtain rfl := Option.some.inj hr
            exact walk_nil total n _
        · rw [if_neg hparen]
          refine ⟨fun r hr => absurd hr.symm (Option.some_ne_none r), fun _ => ?_⟩
          split
          · exact absurd rfl hparen
          · simp [ParsedRule.reject]

/-- A rule is read as one value or not at all. -/
theorem parse_read (rule : String) :
    (∀ r : LooseRule, r.Valid → r.render = rule.toList →
        parse rule = r.calls.foldl handleCall (scanConnectors false rule.toList .empty)) ∧
      ((¬∃ r : LooseRule, r.Valid ∧ r.render = rule.toList) →
        (parse rule).unsupportedPredicates ≠ []) := by
  obtain ⟨hsome, hnone⟩ := walk_read rule.toList.length rule.toList.length rule.toList
    (scanConnectors false rule.toList .empty) le_rfl
  constructor
  · intro r hvalid htext
    refine hsome r ?_
    rw [← htext]
    exact hvalid.read _ le_rfl
  · intro hunread
    refine hnone ?_
    cases hread : readLoose rule.toList.length rule.toList with
    | none => rfl
    | some r => exact absurd ⟨r, readLoose_reads _ _ r le_rfl hread⟩ hunread

end PangolinGateway
