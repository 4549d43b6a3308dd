import PangolinGateway.Transform.Rule

/-! # Conjunctions of host and path predicates, as text

The grammar of the rules the parser is written for, with whitespace between any two tokens, and
what the fold of `handlePredicate` makes of their predicates. -/
namespace PangolinGateway
set_option autoImplicit false

inductive PredicateKind where
  | host
  | path
  | pathPrefix
  | pathRegexp
  deriving DecidableEq

structure Predicate where
  kind : PredicateKind
  args : List String
  deriving DecidableEq

def PredicateKind.ident : PredicateKind → String
  | host => "Host"
  | path => "Path"
  | pathPrefix => "PathPrefix"
  | pathRegexp => "PathRegexp"

def Blank (s : List Char) : Prop := ∀ c ∈ s, Str.isWhitespace c = true

/-- An argument in backticks. -/
def quoted (arg : String) : List Char := '`' :: (arg.toList ++ ['`'])

def Quotable (arg : String) : Prop := '`' ∉ arg.toList

instance (arg : String) : Decidable (Quotable arg) := inferInstanceAs (Decidable ('`' ∉ arg.toList))

/-- The arguments between the parentheses, with commas between them. -/
inductive ArgsText : List String → List Char → Prop
  | none {w : List Char} (hw : Blank w) : ArgsText [] w
  | last {w w' : List Char} {arg : String} (hw : Blank w) (harg : Quotable arg) (hw' : Blank w') :
      ArgsText [arg] (w ++ quoted arg ++ w')
  | more {w w' : List Char} {arg next : String} {args : List String} {t : List Char} (hw : Blank w)
      (harg : Quotable arg) (hw' : Blank w') (ht : ArgsText (next :: args) t) :
      ArgsText (arg :: next :: args) (w ++ quoted arg ++ w' ++ ',' :: t)

/-- `Ident(...args...)`. -/
inductive PredicateText : Predicate → List Char → Prop
  | mk {p : Predicate} {w t : List Char} (hw : Blank w) (ht : ArgsText p.args t) :
      PredicateText p (p.kind.ident.toList ++ w ++ '(' :: (t ++ [')']))

/-- Predicates with `&&` between them. -/
inductive ConjunctionText : List Predicate → List Char → Prop
  | last {w w' : List Char} {p : Predicate} {s : List Char} (hw : Blank w)
      (hs : PredicateText p s) (hw' : Blank w') : ConjunctionText [p] (w ++ s ++ w')
  | more {w w' : List Char} {p : Predicate} {s : List Char} {ps : List Predicate} {t : List Char}
      (hw : Blank w) (hs : PredicateText p s) (hw' : Blank w') (ht : ConjunctionText ps t) :
      ConjunctionText (p :: ps) (w ++ s ++ w' ++ '&' :: '&' :: t)

/-! ## The rule pangolin writes -/

def renderArgs : List String → List Char
  | [] => []
  | [arg] => quoted arg
  | arg :: next :: args => quoted arg ++ ',' :: ' ' :: renderArgs (next :: args)

def Predicate.render (p : Predicate) : List Char :=
  p.kind.ident.toList ++ '(' :: (renderArgs p.args ++ [')'])

def renderRule : List Predicate → List Char
  | [] => []
  | [p] => p.render
  | p :: next :: ps => p.render ++ ' ' :: '&' :: '&' :: ' ' :: renderRule (next :: ps)

theorem blank_nil : Blank [] := fun _ hc => absurd hc List.not_mem_nil

theorem blank_space : Blank [' '] := by
  intro c hc
  rw [List.mem_singleton.mp hc]
  decide

theorem Blank.append {v w : List Char} (hv : Blank v) (hw : Blank w) : Blank (v ++ w) :=
  fun c hc => (List.mem_append.mp hc).elim (hv c) (hw c)

theorem ArgsText.blank_append {args : List String} {t w : List Char} (h : ArgsText args t)
    (hw : Blank w) : ArgsText args (w ++ t) := by
  cases h with
  | none hv => exact .none (hw.append hv)
  | last hv harg hw' =>
    rw [← List.append_assoc, ← List.append_assoc]
    exact .last (hw.append hv) harg hw'
  | more hv harg hw' ht =>
    rw [← List.append_assoc, ← List.append_assoc, ← List.append_assoc]
    exact .more (hw.append hv) harg hw' ht

theorem ConjunctionText.blank_append {ps : List Predicate} {t w : List Char}
    (h : ConjunctionText ps t) (hw : Blank w) : ConjunctionText ps (w ++ t) := by
  cases h with
  | last hv hs hw' =>
    rw [← List.append_assoc, ← List.append_assoc]
    exact .last (hw.append hv) hs hw'
  | more hv hs hw' ht =>
    rw [← List.append_assoc, ← List.append_assoc, ← List.append_assoc]
    exact .more (hw.append hv) hs hw' ht

theorem renderArgs_text {args : List String} (h : ∀ arg ∈ args, Quotable arg) :
    ArgsText args (renderArgs args) := by
  induction args with
  | nil => exact .none blank_nil
  | cons arg args ih =>
    have harg := h arg List.mem_cons_self
    have hnext := ih fun a ha => h a (List.mem_cons_of_mem arg ha)
    cases args with
    | nil =>
      have htext := ArgsText.last blank_nil harg blank_nil
      rwa [List.nil_append, List.append_nil] at htext
    | cons next args =>
      have htext := ArgsText.more blank_nil harg blank_nil (hnext.blank_append blank_space)
      rwa [List.nil_append, List.append_nil] at htext

theorem Predicate.render_text {p : Predicate} (h : ∀ arg ∈ p.args, Quotable arg) :
    PredicateText p p.render := by
  have htext := PredicateText.mk blank_nil (renderArgs_text h)
  rwa [List.append_nil] at htext

theorem renderRule_text {ps : List Predicate} (hne : ps ≠ [])
    (h : ∀ p ∈ ps, ∀ arg ∈ p.args, Quotable arg) : ConjunctionText ps (renderRule ps) := by
  induction ps with
  | nil => exact absurd rfl hne
  | cons p ps ih =>
    have hp := Predicate.render_text (h p List.mem_cons_self)
    cases ps with
    | nil =>
      have htext := ConjunctionText.last blank_nil hp blank_nil
      rwa [List.nil_append, List.append_nil] at htext
    | cons next ps =>
      have hnext := ih (List.cons_ne_nil _ _) fun q hq => h q (List.mem_cons_of_mem p hq)
      have htext := ConjunctionText.more blank_nil hp blank_space (hnext.blank_append blank_space)
      rwa [List.nil_append, List.append_assoc] at htext

/-! ## The scan finds no connector -/

/-- Outside backticks the scan passes over `s` and is outside again. -/
def Quiet (s : List Char) : Prop :=
  ∀ (t : List Char) (out : ParsedRule), scanConnectors false (s ++ t) out = scanConnectors false t out

theorem Quiet.append {s t : List Char} (hs : Quiet s) (ht : Quiet t) : Quiet (s ++ t) := by
  intro u out
  rw [List.append_assoc, hs, ht]

theorem quiet_nil : Quiet [] := fun _ _ => rfl

theorem quiet_singleton {c : Char} (htick : c ≠ '`') (hbar : c ≠ '|') (hbang : c ≠ '!') :
    Quiet [c] := by
  intro t out
  simp [scanConnectors, htick, hbar, hbang]

/-- Neither a backtick nor part of a connector. -/
def isPlainChar (c : Char) : Bool := c != '`' && c != '|' && c != '!'

theorem quiet_of_all {s : List Char} (h : s.all isPlainChar = true) : Quiet s := by
  induction s with
  | nil => exact quiet_nil
  | cons c s ih =>
    simp only [List.all_cons, Bool.and_eq_true, isPlainChar, bne_iff_ne, ne_eq] at h
    exact (quiet_singleton h.1.1.1 h.1.1.2 h.1.2).append (ih h.2)

theorem Blank.quiet {s : List Char} (h : Blank s) : Quiet s := by
  refine quiet_of_all (List.all_eq_true.mpr fun c hc => ?_)
  have hwhite := h c hc
  have hne : ∀ d, Str.isWhitespace d = false → c ≠ d := by
    rintro d hd rfl
    simp [hd] at hwhite
  simp only [isPlainChar, Bool.and_eq_true, bne_iff_ne]
  exact ⟨⟨hne _ (by decide), hne _ (by decide)⟩, hne _ (by decide)⟩

theorem quiet_ident (kind : PredicateKind) : Quiet kind.ident.toList := by
  refine quiet_of_all ?_
  cases kind <;> decide

theorem scanConnectors_quoted {s : List Char} (h : '`' ∉ s) (t : List Char) (out : ParsedRule) :
    scanConnectors true (s ++ '`' :: t) out = scanConnectors false t out := by
  induction s with
  | nil => simp [scanConnectors]
  | cons c s ih =>
    have hc : c ≠ '`' := fun heq => h (heq ▸ List.mem_cons_self)
    have hs : '`' ∉ s := fun hmem => h (List.mem_cons_of_mem c hmem)
    simp [scanConnectors, hc, ih hs]

theorem quiet_quoted {arg : String} (h : Quotable arg) : Quiet (quoted arg) := by
  intro t out
  have hscan := scanConnectors_quoted h t out
  simp only [quoted, List.cons_append, List.append_assoc, List.nil_append, scanConnectors, if_true]
  exact hscan

theorem ArgsText.quiet {args : List String} {t : List Char} (h : ArgsText args t) : Quiet t := by
  induction h with
  | none hw => exact hw.quiet
  | last hw harg hw' => exact (hw.quiet.append (quiet_quoted harg)).append hw'.quiet
  | more hw harg hw' _ ih =>
    have hcomma : Quiet [','] := quiet_singleton (by decide) (by decide) (by decide)
    exact ((hw.quiet.append (quiet_quoted harg)).append hw'.quiet).append (hcomma.append ih)

theorem PredicateText.quiet {p : Predicate} {s : List Char} (h : PredicateText p s) : Quiet s := by
  obtain ⟨hw, ht⟩ := h
  have hopen : Quiet ['('] := quiet_singleton (by decide) (by decide) (by decide)
  have hclose : Quiet [')'] := quiet_singleton (by decide) (by decide) (by decide)
  exact ((quiet_ident _).append hw.quiet).append (hopen.append (ht.quiet.append hclose))

theorem ConjunctionText.quiet {ps : List Predicate} {s : List Char} (h : ConjunctionText ps s) :
    Quiet s := by
  induction h with
  | last hw hs hw' => exact (hw.quiet.append hs.quiet).append hw'.quiet
  | more hw hs hw' _ ih =>
    have hand : Quiet ['&', '&'] := quiet_of_all (by decide)
    exact ((hw.quiet.append hs.quiet).append hw'.quiet).append (hand.append ih)

/-! ## What the predicates of a rule amount to -/

def handle (out : ParsedRule) (p : Predicate) : ParsedRule := handlePredicate out p.kind.ident p.args

def Predicate.hosts (p : Predicate) : List String := if p.kind = .host then p.args else []

/-- The path match that replaces the one before it. -/
def Predicate.pathMatch (p : Predicate) : Option PathMatch :=
  match p.kind with
  | .host => none
  | .path => p.args.head?.map fun first => ⟨.exact, normalizePath first⟩
  | .pathPrefix => p.args.head?.map fun first => ⟨.pathPrefix, normalizePath first⟩
  | .pathRegexp => p.args.head?.map fun first => ⟨.regex, first⟩

theorem handle_eq (out : ParsedRule) (p : Predicate) :
    handle out p = { out with hosts := out.hosts ++ p.hosts, path := p.pathMatch.or out.path } := by
  obtain ⟨kind, args⟩ := p
  cases kind <;> cases args <;>
    simp [handle, handlePredicate, PredicateKind.ident, Predicate.hosts, Predicate.pathMatch]

theorem foldl_handle (ps : List Predicate) (out : ParsedRule) :
    ps.foldl handle out = { out with
      hosts := out.hosts ++ ps.flatMap Predicate.hosts
      path := (ps.filterMap Predicate.pathMatch).getLast?.or out.path } := by
  induction ps generalizing out with
  | nil => simp
  | cons p ps ih =>
    rw [List.foldl_cons, ih, handle_eq]
    cases hp : p.pathMatch with
    | none => simp [hp]
    | some m => cases hlast : (ps.filterMap Predicate.pathMatch).getLast? <;> simp [hp, hlast,
        List.getLast?_cons]

end PangolinGateway
