import PangolinGateway.Transform.RuleSlips

/-! # What the parser makes of a conjunction

A conjunction is read predicate by predicate, whatever its arguments hold: the hosts in order, and the
path match of the last predicate that gives one. -/
namespace PangolinGateway
set_option autoImplicit false

/-- What `parse` makes of a conjunction. -/
theorem parse_conjunction {ps : List Predicate} {rule : String}
    (h : ConjunctionText ps rule.toList) : parse rule = ps.foldl handle .empty := by
  have hstart : isBefore true ['&', '&'] [] = true := rfl
  obtain ⟨r, hvalid, hrender, hcalls, _⟩ := h.reading hstart
  have hscan := h.quiet [] .empty
  rw [List.append_nil] at hscan
  rw [(parse_read rule).1 r hvalid hrender, hcalls, List.foldl_map, hscan]
  rfl

theorem parse_hosts {ps : List Predicate} {rule : String} (h : ConjunctionText ps rule.toList) :
    (parse rule).hosts = ps.flatMap Predicate.hosts := by
  rw [parse_conjunction h, foldl_handle]
  rfl

/-- The last path predicate with an argument decides the path match. -/
theorem parse_path {ps : List Predicate} {rule : String} (h : ConjunctionText ps rule.toList) :
    (parse rule).path = (ps.filterMap Predicate.pathMatch).getLast? := by
  rw [parse_conjunction h, foldl_handle]
  simp [ParsedRule.empty]

/-! ## A usable conjunction -/

/-- A predicate whose arguments become hosts. -/
def NamesHost (ps : List Predicate) : Prop := ∃ p ∈ ps, p.kind = .host ∧ p.args ≠ []

theorem flatMap_hosts_ne_nil {ps : List Predicate} :
    ps.flatMap Predicate.hosts ≠ [] ↔ NamesHost ps := by
  rw [ne_eq, List.flatMap_eq_nil_iff, Classical.not_forall]
  refine exists_congr fun p => ?_
  by_cases hkind : p.kind = .host
  · simp [Predicate.hosts, hkind]
  · simp [Predicate.hosts, hkind]

/-- Whatever its arguments hold, a conjunction that names a host is read as it was written. -/
theorem parse_usable (ps : List Predicate) (rule : String) (h : ConjunctionText ps rule.toList)
    (hhost : NamesHost ps) :
    parse rule = ⟨ps.flatMap Predicate.hosts, (ps.filterMap Predicate.pathMatch).getLast?, false, [],
        false, false⟩ ∧
      (parse rule).isUsable = true := by
  have hparse : parse rule = ⟨ps.flatMap Predicate.hosts,
      (ps.filterMap Predicate.pathMatch).getLast?, false, [], false, false⟩ := by
    rw [parse_conjunction h, foldl_handle]
    simp [ParsedRule.empty]
  refine ⟨hparse, ?_⟩
  rw [hparse]
  simpa [ParsedRule.isUsable] using flatMap_hosts_ne_nil.mpr hhost

/-- A connector, a negation, a closing parenthesis and a comma inside the backticks. -/
def oddPredicates : List Predicate :=
  [⟨.pathPrefix, ["a||!b"]⟩, ⟨.host, ["a), && é", "x.y"]⟩, ⟨.path, []⟩]

theorem parse_usable_odd :
    parse (String.ofList (renderRule oddPredicates)) =
        ⟨["a), && é", "x.y"], some ⟨.pathPrefix, normalizePath "a||!b"⟩, false, [], false, false⟩ ∧
      (parse (String.ofList (renderRule oddPredicates))).isUsable = true :=
  parse_usable oddPredicates _
    (by
      rw [String.toList_ofList]
      exact renderRule_text (List.cons_ne_nil _ _) (by decide))
    ⟨⟨.host, ["a), && é", "x.y"]⟩, by decide, rfl, List.cons_ne_nil _ _⟩

/-- A host and a regular expression for the path. -/
def regexpPredicates : List Predicate := [⟨.host, ["a.b"]⟩, ⟨.pathRegexp, ["^x"]⟩]

def regexpRule : String := "Host(`a.b`) && PathRegexp(`^x`)"

/-- The argument of `PathRegexp` stays as it is, without the slash that a path would get. -/
theorem regexp_not_normalized :
    ConjunctionText regexpPredicates regexpRule.toList ∧ NamesHost regexpPredicates ∧
      (parse regexpRule).path = some ⟨.regex, "^x"⟩ ∧
      (parse regexpRule).path ≠ some ⟨.regex, normalizePath "^x"⟩ := by
  have htext : ConjunctionText regexpPredicates regexpRule.toList := by
    have hrender : renderRule regexpPredicates = regexpRule.toList := by decide
    rw [← hrender]
    exact renderRule_text (List.cons_ne_nil _ _) (by decide)
  have hpath := parse_path htext
  refine ⟨htext, ⟨_, List.mem_cons_self, rfl, List.cons_ne_nil _ _⟩, hpath, ?_⟩
  rw [hpath]
  decide

end PangolinGateway
