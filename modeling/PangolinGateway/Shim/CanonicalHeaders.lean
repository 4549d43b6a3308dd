import PangolinGateway.Maps.FirstWins
import PangolinGateway.Shim.Check
import PangolinGateway.Text.AsciiCase
import PangolinGateway.Text.Split

/-! # The headers sent to pangolin

Names are cased word by word, which lower-casing undoes: lower-case names keep apart, and the map of
headers has one entry for each name with a readable value. -/
namespace PangolinGateway
set_option autoImplicit false

/-! ## Canonical casing -/

theorem canonicalHeader_toList (name : String) : (canonicalHeader name).toList =
    ['-'].intercalate ((name.toList.splitOn '-').map canonicalSegment) := by
  rw [canonicalHeader, String.toList_ofList]

theorem map_lower_canonicalSegment (segment : List Char) :
    (canonicalSegment segment).map Str.toAsciiLowercase = segment.map Str.toAsciiLowercase := by
  cases segment with
  | nil => rfl
  | cons first rest =>
    simp only [canonicalSegment, List.map_cons, Str.toAsciiLowercase_upper, List.map_map]
    congr 1
    exact List.map_congr_left fun c _ => Str.toAsciiLowercase_idem c

theorem canonicalSegment_idem (segment : List Char) :
    canonicalSegment (canonicalSegment segment) = canonicalSegment segment := by
  cases segment with
  | nil => rfl
  | cons first rest =>
    simp only [canonicalSegment, Str.toAsciiUppercase_idem, List.map_map]
    congr 1
    exact List.map_congr_left fun c _ => Str.toAsciiLowercase_idem c

theorem dash_not_mem_canonicalSegment {segment : List Char} (h : '-' ∉ segment) :
    '-' ∉ canonicalSegment segment := by
  cases segment with
  | nil => exact h
  | cons first rest =>
    rw [List.mem_cons, not_or] at h
    rw [canonicalSegment, List.mem_cons, not_or]
    constructor
    · exact (Str.toAsciiUppercase_dash (Ne.symm h.1)).symm
    · intro hmem
      obtain ⟨c, hc, hdash⟩ := List.mem_map.mp hmem
      exact Str.toAsciiLowercase_dash (fun heq => h.2 (heq ▸ hc)) hdash

theorem canonicalHeader_splitOn (name : String) : (canonicalHeader name).toList.splitOn '-' =
    (name.toList.splitOn '-').map canonicalSegment := by
  rw [canonicalHeader_toList]
  apply List.splitOn_intercalate
  · rw [List.forall_mem_map]
    intro segment hsegment
    exact dash_not_mem_canonicalSegment (Split.not_mem_of_mem_splitOn hsegment)
  · rw [ne_eq, List.map_eq_nil_iff]
    exact List.splitOn_ne_nil '-' _

theorem canonicalHeader_idem (name : String) :
    canonicalHeader (canonicalHeader name) = canonicalHeader name := by
  rw [← String.toList_inj, canonicalHeader_toList (canonicalHeader name), canonicalHeader_splitOn,
    List.map_map, canonicalHeader_toList]
  congr 1
  exact List.map_congr_left fun segment _ => canonicalSegment_idem segment

theorem map_intercalate_dash (f : Char → Char) (segments : List (List Char)) :
    (['-'].intercalate segments).map f = [f '-'].intercalate (segments.map (List.map f)) := by
  induction segments with
  | nil => rfl
  | cons segment segments ih =>
    cases segments with
    | nil => simp [List.intercalate_singleton]
    | cons next segments =>
      rw [List.intercalate_cons_cons, List.map_append, List.map_append, ih]
      simp only [List.map_cons, List.map_nil, List.intercalate_cons_cons]

theorem map_lower_canonicalHeader (name : String) :
    (canonicalHeader name).toList.map Str.toAsciiLowercase =
      name.toList.map Str.toAsciiLowercase := by
  have hsegments : ((name.toList.splitOn '-').map canonicalSegment).map
      (List.map Str.toAsciiLowercase) =
        (name.toList.splitOn '-').map (List.map Str.toAsciiLowercase) := by
    rw [List.map_map]
    exact List.map_congr_left fun segment _ => map_lower_canonicalSegment segment
  rw [canonicalHeader_toList, map_intercalate_dash, hsegments, ← map_intercalate_dash,
    List.intercalate_splitOn]

/-- Lower-casing undoes the casing of a lower-case name. -/
theorem canonicalHeader_injective {name name' : String} (hname : Str.IsLowercase name.toList)
    (hname' : Str.IsLowercase name'.toList) (h : canonicalHeader name = canonicalHeader name') :
    name = name' := by
  have hlower := map_lower_canonicalHeader name
  rw [h, map_lower_canonicalHeader, hname.map_lower, hname'.map_lower] at hlower
  exact (String.toList_inj.mp hlower).symm

/-! ## The collected headers -/

section Headers
variable [HttpCrate]

/-- The first value of a header that is readable as text. -/
def Request.firstReadable (req : Request) (name : String) : Option String :=
  (req.values name).findSome? HttpCrate.toStr

/-- What a header contributes to the map. -/
def headerEntry (header : String × Bytes) : Option (String × String) :=
  if header.1 = "cookie" then none
  else (HttpCrate.toStr header.2).map fun v => (canonicalHeader header.1, v)

theorem collectHeaders_eq (req : Request) :
    collectHeaders req = FirstWins.insertNew (req.headers.filterMap headerEntry) ∅ := by
  rw [FirstWins.insertNew, List.foldl_filterMap, collectHeaders]
  congr 1
  funext out header
  unfold headerEntry
  split
  · rfl
  · cases HttpCrate.toStr header.2 <;> rfl

theorem lookup_headerEntry {headers : List (String × Bytes)}
    (hlower : ∀ header ∈ headers, Str.IsLowercase header.1.toList) {name : String}
    (hname : Str.IsLowercase name.toList) (hcookie : name ≠ "cookie") :
    (headers.filterMap headerEntry).lookup (canonicalHeader name) =
      ((headers.filter fun header => header.1 == name).map Prod.snd).findSome? HttpCrate.toStr := by
  induction headers with
  | nil => rfl
  | cons header headers ih =>
    have ih := ih fun other hother => hlower other (List.mem_cons_of_mem _ hother)
    by_cases heq : header.1 = name
    · rw [List.filter_cons_of_pos (by simpa using heq), List.map_cons, List.findSome?_cons]
      have hentry : headerEntry header =
          (HttpCrate.toStr header.2).map fun v => (canonicalHeader name, v) := by
        rw [headerEntry, heq, if_neg hcookie]
      cases hread : HttpCrate.toStr header.2 with
      | none =>
        rw [hread] at hentry
        rw [List.filterMap_cons_none hentry, ih]
      | some v =>
        rw [hread] at hentry
        rw [List.filterMap_cons_some hentry, List.lookup_cons_self]
    · rw [List.filter_cons_of_neg (by simpa using heq), ← ih]
      cases hentry : headerEntry header with
      | none => rw [List.filterMap_cons_none hentry]
      | some entry =>
        have hkey : canonicalHeader name ≠ entry.1 := by
          unfold headerEntry at hentry
          split at hentry
          · cases hentry
          · obtain ⟨v, _, rfl⟩ := Option.map_eq_some_iff.mp hentry
            intro hcanonical
            exact heq (canonicalHeader_injective (hlower header List.mem_cons_self) hname
              hcanonical.symm)
        rw [List.filterMap_cons_some hentry, List.lookup_cons, beq_false_of_ne hkey]

/-- Each name other than `cookie` stands for its first readable value, in its canonical casing, and
casing keeps lower-case names apart. -/
theorem collectHeaders_spec (req : Request)
    (hlower : ∀ header ∈ req.headers, Str.IsLowercase header.1.toList) :
    (∀ key v, (collectHeaders req)[key]? = some v ↔
      ∃ name, name ≠ "cookie" ∧ canonicalHeader name = key ∧ req.firstReadable name = some v) ∧
    (∀ name name' : String, Str.IsLowercase name.toList → Str.IsLowercase name'.toList →
      canonicalHeader name = canonicalHeader name' → name = name') ∧
    ∀ name : String, canonicalHeader (canonicalHeader name) = canonicalHeader name := by
  refine ⟨?_, fun _ _ => canonicalHeader_injective, canonicalHeader_idem⟩
  intro key v
  rw [collectHeaders_eq, FirstWins.lookup_insertNew]
  constructor
  · intro hlookup
    obtain ⟨front, back, hsplit, _⟩ := List.lookup_eq_some_iff.mp hlookup
    have hentry : (key, v) ∈ req.headers.filterMap headerEntry := by
      rw [hsplit]
      exact List.mem_append_right _ List.mem_cons_self
    obtain ⟨header, hmem, hheader⟩ := List.mem_filterMap.mp hentry
    unfold headerEntry at hheader
    split at hheader
    · cases hheader
    · next hcookie =>
      obtain ⟨_, _, hpair⟩ := Option.map_eq_some_iff.mp hheader
      obtain ⟨rfl, _⟩ := Prod.mk.inj hpair
      rw [lookup_headerEntry hlower (hlower header hmem) hcookie] at hlookup
      exact ⟨header.1, hcookie, rfl, hlookup⟩
  · rintro ⟨name, hcookie, rfl, hfirst⟩
    obtain ⟨value, hvalue, _⟩ := List.exists_of_findSome?_eq_some hfirst
    obtain ⟨header, hheader, rfl⟩ := List.mem_map.mp hvalue
    obtain ⟨hmem, hname⟩ := List.mem_filter.mp hheader
    have hname : header.1 = name := by simpa using hname
    rw [lookup_headerEntry hlower (hname ▸ hlower header hmem) hcookie]
    exact hfirst

end Headers

section Sample
attribute [local instance] sampleHttpCrate

/-- The second value is the first that can be read. -/
theorem collectHeaders_second : (collectHeaders (sampleRequest "/verify/x"
    [("x-a", [200]), ("cookie", jsonBytes "a=1"), ("x-a", jsonBytes "b")]))["X-A"]? = some "b" := by
  refine ((collectHeaders_spec (sampleRequest "/verify/x"
    [("x-a", [200]), ("cookie", jsonBytes "a=1"), ("x-a", jsonBytes "b")]) ?_).1 "X-A" "b").mpr ?_
  · decide
  · exact ⟨"x-a", by decide, by decide, by decide⟩

end Sample

end PangolinGateway
