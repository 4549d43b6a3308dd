import Mathlib.Data.List.TakeWhile
import PangolinGateway.Text.Str

/-! # Minimal parser for the Traefik v3 router rule language

The parser reads the rule twice: once for `||` and `!` outside backticks, and once predicate by
predicate. Both walks here go down the rest of the rule where the source advances an index; the
fuel of a walk is the number of characters left, and `walk_fuel` says that more changes nothing. -/
namespace PangolinGateway
set_option autoImplicit false

inductive PathMatchKind where
  | exact
  | pathPrefix
  | regex
  deriving DecidableEq

structure PathMatch where
  kind : PathMatchKind
  value : String
  deriving DecidableEq

/-- One entry of `unsupported_predicates`; the source keeps its text. -/
inductive Unsupported where
  /-- "unparseable token at offset {offset}: {c:?}" -/
  | unparseable (offset : ℕ) (c : Char)
  /-- "predicate {ident} missing arguments" -/
  | missingArguments (ident : String)
  /-- the name of the predicate -/
  | predicate (ident : String)
  deriving DecidableEq

structure ParsedRule where
  hosts : List String
  path : Option PathMatch
  hostRegexp : Bool
  unsupportedPredicates : List Unsupported
  hasDisjunction : Bool
  hasNegation : Bool
  deriving DecidableEq

namespace ParsedRule

def empty : ParsedRule := ⟨[], none, false, [], false, false⟩

def isUsable (r : ParsedRule) : Bool :=
  !r.hasDisjunction && !r.hasNegation && !r.hostRegexp && r.unsupportedPredicates.isEmpty &&
    !r.hosts.isEmpty

def reject (r : ParsedRule) (u : Unsupported) : ParsedRule :=
  { r with unsupportedPredicates := r.unsupportedPredicates ++ [u] }

end ParsedRule

/-! ## The scan for connectors -/

/-- `||` or `!` outside backtick strings. -/
def scanConnectors (inBacktick : Bool) : List Char → ParsedRule → ParsedRule
  | [], out => out
  | c :: s, out =>
    if c = '`' then scanConnectors (!inBacktick) s out
    else if inBacktick then scanConnectors inBacktick s out
    else if c = '|' ∧ s.head? = some '|' then
      scanConnectors inBacktick s { out with hasDisjunction := true }
    else if c = '!' then scanConnectors inBacktick s { out with hasNegation := true }
    else scanConnectors inBacktick s out

/-! ## The walk over predicates -/

def normalizePath (p : String) : String :=
  if p.toList.head? = some '/' then p else "/" ++ p

def handlePredicate (out : ParsedRule) (ident : String) (args : List String) : ParsedRule :=
  if ident = "Host" then { out with hosts := out.hosts ++ args }
  else if ident = "HostRegexp" then { out with hostRegexp := true }
  else if ident = "PathPrefix" then
    match args.head? with
    | some first => { out with path := some ⟨.pathPrefix, normalizePath first⟩ }
    | none => out
  else if ident = "Path" then
    match args.head? with
    | some first => { out with path := some ⟨.exact, normalizePath first⟩ }
    | none => out
  else if ident = "PathRegexp" then
    match args.head? with
    | some first => { out with path := some ⟨.regex, first⟩ }
    | none => out
  else out.reject (.predicate ident)

/-- The argument list after `(`, and the rest, which starts with `)` unless the rule ends. -/
def readArgs : ℕ → List Char → List String × List Char
  | 0, s => ([], s)
  | n + 1, s =>
    let s := s.dropWhile fun c => Str.isWhitespace c || c == ','
    match s with
    | [] => ([], [])
    | c :: s' =>
      if c = ')' then ([], s)
      else if c = '`' then
        let arg := String.ofList (s'.takeWhile (· != '`'))
        -- a missing closing backtick ends the argument at the end of the rule
        let rest := (s'.dropWhile (· != '`')).drop 1
        let (args, rest) := readArgs n rest
        (arg :: args, rest)
      else
        let bare := fun d => d != ',' && d != ')'
        let arg := String.ofList (Str.trim (s.takeWhile bare))
        let (args, rest) := readArgs n (s.dropWhile bare)
        (arg :: args, rest)

def isIdentChar (c : Char) : Bool := Str.isAsciiAlphanumeric c || c == '_'

/-- Predicates `Ident(...args...)`, whatever connectors stand between them. `total` is the length
of the whole rule. -/
def walk (total : ℕ) : ℕ → List Char → ParsedRule → ParsedRule
  | 0, _, out => out
  | n + 1, s, out =>
    let s := s.dropWhile fun c => Str.isWhitespace c || c == '&' || c == '|'
    match s with
    | [] => out
    | c :: _ =>
      if !Str.isAsciiAlphabetic c then out.reject (.unparseable (total - s.length) c)
      else
        let ident := String.ofList (s.takeWhile isIdentChar)
        match (s.dropWhile isIdentChar).dropWhile Str.isWhitespace with
        | '(' :: s =>
          let (args, s) := readArgs s.length s
          -- a missing `)` is tolerated
          let s := if s.head? = some ')' then s.drop 1 else s
          walk total n s (handlePredicate out ident args)
        | _ => out.reject (.missingArguments ident)

def parse (rule : String) : ParsedRule :=
  let chars := rule.toList
  walk chars.length chars.length chars (scanConnectors false chars .empty)

/-! ## The fuel is enough -/

theorem readArgs_length (n : ℕ) (s : List Char) : (readArgs n s).2.length ≤ s.length := by
  induction n generalizing s with
  | zero => simp [readArgs]
  | succ n ih =>
    have h0 := List.length_dropWhile_le (fun c => Str.isWhitespace c || c == ',') s
    simp only [readArgs]
    generalize s.dropWhile (fun c => Str.isWhitespace c || c == ',') = t at h0
    cases t with
    | nil => simp
    | cons c t =>
      simp only
      split
      · exact h0
      · split
        · have h1 := ih ((t.dropWhile (· != '`')).drop 1)
          have h2 := List.length_dropWhile_le (· != '`') t
          simp only [List.length_drop, List.length_cons] at h1 h0 ⊢
          omega
        · exact (ih _).trans ((List.length_dropWhile_le _ _).trans h0)

/-- One round of the walk consumes at least the identifier. -/
theorem walk_fuel (total n m : ℕ) (s : List Char) (out : ParsedRule) (hn : s.length ≤ n)
    (hm : s.length ≤ m) : walk total n s out = walk total m s out := by
  induction n generalizing m s out with
  | zero =>
    have hs : s = [] := List.eq_nil_of_length_eq_zero (by omega)
    subst hs
    cases m <;> simp [walk]
  | succ n ih =>
    cases m with
    | zero =>
      have hs : s = [] := List.eq_nil_of_length_eq_zero (by omega)
      subst hs
      simp [walk]
    | succ m =>
      have h0 := List.length_dropWhile_le (fun c => Str.isWhitespace c || c == '&' || c == '|') s
      simp only [walk]
      generalize s.dropWhile (fun c => Str.isWhitespace c || c == '&' || c == '|') = t at h0
      cases t with
      | nil => rfl
      | cons c t =>
        simp only
        split
        · rfl
        · have h1 := List.length_dropWhile_le isIdentChar (c :: t)
          have h2 := List.length_dropWhile_le Str.isWhitespace ((c :: t).dropWhile isIdentChar)
          split
          · next u hu =>
            have h3 := readArgs_length u.length u
            rw [hu] at h2
            simp only [List.length_cons] at h0 h1 h2
            have h4 : ∀ l : List Char, (if l.head? = some ')' then l.drop 1 else l).length ≤
                l.length := by
              intro l
              split
              · simp
              · exact le_rfl
            have h5 := h4 (readArgs u.length u).2
            exact ih _ _ _ (by omega) (by omega)
          · rfl

example : (parse "Host(`a.com`, `b.com`) && PathPrefix(`/api`)") =
    ⟨["a.com", "b.com"], some ⟨.pathPrefix, "/api"⟩, false, [], false, false⟩ := by decide

end PangolinGateway
