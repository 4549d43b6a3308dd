import PangolinGateway.Json
import PangolinGateway.Maps.InsertLoop
import PangolinGateway.Text.Decimal

/-! # Documents that are written and read back

`record` is what a derived serializer writes of a struct, and the readers are what a derived
deserializer does with its fields. Each reader gets back what the writer of its type wrote. -/
namespace PangolinGateway.Value
set_option autoImplicit false

variable {α : Type}

/-! ## Readers and writers -/

/-- The members that are there: `skip_serializing_if = "Option::is_none"`. -/
def present (entries : List (String × Option Value)) : List (String × Value) :=
  entries.filterMap fun entry => entry.2.map (entry.1, ·)

def record (entries : List (String × Option Value)) : Value := object (present entries)

/-- A member without a default. -/
def required (members : List (String × Value)) (name : String) (read : Value → Option α) :
    Option α := (members.lookup name).bind read

/-- A member of type `Option`, which a null leaves out. -/
def maybe (members : List (String × Value)) (name : String) (read : Value → Option α) :
    Option (Option α) := fieldOr members name (nullable read) none

def asList (read : Value → Option α) : Value → Option (List α)
  | array items => items.mapM read
  | _ => none

def list (write : α → Value) (l : List α) : Value := array (l.map write)

/-- A member of the same name as an earlier one replaces it. -/
def asMap (read : Value → Option α) : Value → Option (Map α)
  | object members =>
    (members.mapM fun member => (read member.2).map (member.1, ·)).map fun decoded =>
      InsertLoop.insertAll some decoded ∅
  | _ => none

def map (write : α → Value) (m : Map α) : Value :=
  object (m.toList.map fun member => (member.1, write member.2))

def asInt (range : ℤ → Prop) [DecidablePred range] : Value → Option ℤ
  | number literal => (Str.jsonInteger literal.toList).filter range
  | _ => none

def int (n : ℤ) : Value := number (String.ofList (Str.printInt n))

/-! ## Members -/

@[simp] theorem present_nil : present [] = [] := rfl

@[simp] theorem present_none (key : String) (entries : List (String × Option Value)) :
    present ((key, none) :: entries) = present entries := rfl

@[simp] theorem present_some (key : String) (v : Value) (entries : List (String × Option Value)) :
    present ((key, some v) :: entries) = (key, v) :: present entries := rfl

theorem present_keys (entries : List (String × Option Value)) :
    ((present entries).map Prod.fst).Sublist (entries.map Prod.fst) := by
  induction entries with
  | nil => exact List.Sublist.refl _
  | cons entry entries ih =>
    obtain ⟨key, _ | v⟩ := entry
    · exact ih.cons key
    · exact ih.cons_cons key

theorem lookup_present {entries : List (String × Option Value)}
    (h : (entries.map Prod.fst).Nodup) (name : String) :
    (present entries).lookup name = (entries.lookup name).join := by
  induction entries with
  | nil => rfl
  | cons entry entries ih =>
    rw [List.map_cons, List.nodup_cons] at h
    obtain ⟨key, v⟩ := entry
    rw [List.lookup_cons]
    by_cases hname : name = key
    · subst hname
      cases v with
      | none =>
        have hlate : (present entries).lookup name = none :=
          List.lookup_eq_none_iff.mpr fun member hmem => by
            have hkey := (present_keys entries).subset (List.mem_map_of_mem hmem)
            rw [bne_iff_ne]
            rintro rfl
            exact h.1 hkey
        simpa using hlate
      | some v => simp
    · have hbeq : (name == key) = false := beq_false_of_ne hname
      cases v with
      | none => simp [hbeq, ih h.2]
      | some v => simp [hbeq, ih h.2, List.lookup_cons]

theorem fields_record {names : List String} {entries : List (String × Option Value)}
    (hnames : entries.map Prod.fst = names) (h : names.Nodup) :
    (record entries).fields names = some (present entries) := by
  have hknown : (present entries).filter (fun member => names.contains member.1) =
      present entries := by
    rw [List.filter_eq_self]
    intro member hmem
    rw [List.contains_iff_mem, ← hnames]
    exact (present_keys entries).subset (List.mem_map_of_mem hmem)
  have hnodup : ((present entries).map Prod.fst).Nodup := (hnames ▸ h).sublist (present_keys entries)
  simp only [record, fields, hknown, hnodup, if_true]

theorem record_ne_null (entries : List (String × Option Value)) : record entries ≠ null := by
  simp [record]

/-! ## What is written is read -/

/-- The reader gets the value back, and not from a null. -/
structure Reads (read : Value → Option α) (write : α → Value) (a : α) : Prop where
  back : read (write a) = some a
  notNull : write a ≠ null

theorem reads_str (s : String) : Reads asStr string s := ⟨rfl, by simp⟩

theorem reads_bool (b : Bool) : Reads asBool bool b := ⟨rfl, by simp⟩

theorem reads_int {range : ℤ → Prop} [DecidablePred range] {n : ℤ} (h : range n) :
    Reads (asInt range) int n := by
  refine ⟨?_, by simp [int]⟩
  rw [int, asInt, String.toList_ofList, Str.jsonInteger_printInt]
  simp [h]

theorem reads_list {read : Value → Option α} {write : α → Value} {l : List α}
    (h : ∀ a ∈ l, read (write a) = some a) : Reads (asList read) (list write) l := by
  refine ⟨?_, by simp [list]⟩
  rw [list, asList]
  induction l with
  | nil => rfl
  | cons a l ih =>
    rw [List.map_cons, List.mapM_cons, h a List.mem_cons_self,
      ih fun b hb => h b (List.mem_cons_of_mem _ hb)]
    rfl

theorem insertAll_toList (m : Map α) : InsertLoop.insertAll some m.toList ∅ = m := by
  refine Std.ExtTreeMap.ext_getElem? fun k => Option.ext fun a => ?_
  refine @InsertLoop.getElem?_insertAll_iff _ _ _ _ _ some _ _ _ (fun k a => m[k]? = some a)
    (fun k a => ?_) (fun k a b ha hb => Option.some.inj (ha.symm.trans hb)) k a
  simp [Std.ExtTreeMap.mem_toList_iff_getElem?_eq_some]

theorem reads_map {read : Value → Option α} {write : α → Value} {m : Map α}
    (h : ∀ (k : String) a, m[k]? = some a → read (write a) = some a) :
    Reads (asMap read) (map write) m := by
  refine ⟨?_, by simp [map]⟩
  have hdecoded : ∀ l : List (String × α), (∀ member ∈ l, read (write member.2) = some member.2) →
      (l.map fun member => (member.1, write member.2)).mapM
        (fun member => (read member.2).map (member.1, ·)) = some l := by
    intro l hl
    induction l with
    | nil => rfl
    | cons member l ih =>
      rw [List.map_cons, List.mapM_cons, hl member List.mem_cons_self,
        ih fun other hother => hl other (List.mem_cons_of_mem _ hother)]
      rfl
  rw [map, asMap, hdecoded m.toList fun member hmem =>
    h member.1 member.2 (Std.ExtTreeMap.mem_toList_iff_getElem?_eq_some.mp hmem), Option.map_some]
  rw [insertAll_toList]

variable {read : Value → Option α} {write : α → Value}

theorem nullable_reads {a : α} (h : Reads read write a) : nullable read (write a) = some (some a) := by
  unfold nullable
  split
  · next hnull => exact absurd hnull h.notNull
  · rw [h.back]
    rfl

variable (entries : List (String × Option Value)) (hnodup : (entries.map Prod.fst).Nodup)
  {name : String}
include hnodup

theorem required_reads {a : α} (hentry : entries.lookup name = some (some (write a)))
    (h : Reads read write a) : required (present entries) name read = some a := by
  rw [required, lookup_present hnodup, hentry, Option.join_some, Option.bind_some, h.back]

theorem fieldOr_reads {a : α} (absent : α) (hentry : entries.lookup name = some (some (write a)))
    (h : Reads read write a) : fieldOr (present entries) name read absent = some a := by
  rw [fieldOr, lookup_present hnodup, hentry]
  exact h.back

theorem maybe_reads {o : Option α} (hentry : entries.lookup name = some (o.map write))
    (h : ∀ a, o = some a → Reads read write a) :
    maybe (present entries) name read = some o := by
  rw [maybe, fieldOr, lookup_present hnodup, hentry]
  cases o with
  | none => rfl
  | some a => exact nullable_reads (h a rfl)

omit hnodup in
variable {entries} in
/-- A struct is read field by field. -/
theorem record_reads {β : Type} {names : List String} {build : List (String × Value) → Option β}
    {b : β} (hnames : entries.map Prod.fst = names) (h : names.Nodup)
    (hbuild : build (present entries) = some b) :
    ((record entries).fields names >>= build) = some b := by
  rw [fields_record hnames h]
  exact hbuild

omit hnodup in
theorem bind_reads {β γ : Type} {x : Option β} {f : β → Option γ} {b : β} {c : γ} (hx : x = some b)
    (hf : f b = some c) : (x >>= f) = some c := by
  rw [hx]
  exact hf

/-! ## What can be read -/

section
omit hnodup

variable {members : List (String × Value)} {v : Value}

theorem fieldOr_some {absent a : α} (h : fieldOr members name read absent = some a) :
    a = absent ∨ ∃ v, read v = some a := by
  unfold fieldOr at h
  split at h
  · next v _ => exact Or.inr ⟨v, h⟩
  · exact Or.inl (Option.some.inj h).symm

theorem maybe_some {a : α} (h : maybe members name read = some (some a)) :
    ∃ v, v ≠ null ∧ read v = some a := by
  rcases fieldOr_some h with habsent | ⟨v, hv⟩
  · cases habsent
  · unfold nullable at hv
    split at hv
    · cases hv
    · next hnull =>
      obtain ⟨b, hb, hsome⟩ := Option.map_eq_some_iff.mp hv
      exact ⟨v, hnull, by rw [hb, hsome]⟩

theorem asInt_range {range : ℤ → Prop} [DecidablePred range] {n : ℤ}
    (h : asInt range v = some n) : range n := by
  cases v with
  | number literal => simpa using (Option.filter_eq_some_iff.mp h).2
  | _ => cases h

theorem exists_of_mem_mapM {β γ : Type} {f : β → Option γ} {l : List β} {out : List γ}
    (h : l.mapM f = some out) {c : γ} (hc : c ∈ out) : ∃ b ∈ l, f b = some c := by
  induction l generalizing out with
  | nil =>
    obtain rfl := Option.some.inj h
    cases hc
  | cons b l ih =>
    rw [List.mapM_cons] at h
    obtain ⟨first, hfirst, h⟩ := Option.bind_eq_some_iff.mp h
    obtain ⟨rest, hrest, hout⟩ := Option.bind_eq_some_iff.mp h
    obtain rfl := Option.some.inj hout
    rcases List.mem_cons.mp hc with rfl | hc
    · exact ⟨b, List.mem_cons_self, hfirst⟩
    · obtain ⟨d, hd, hread⟩ := ih hrest hc
      exact ⟨d, List.mem_cons_of_mem _ hd, hread⟩

theorem asMap_some {m : Map α} (h : asMap read v = some m) {k : String} {a : α}
    (hk : m[k]? = some a) : ∃ v, read v = some a := by
  cases v with
  | object members =>
    obtain ⟨decoded, hdecoded, rfl⟩ := Option.map_eq_some_iff.mp h
    rcases InsertLoop.insertAll_entry some hk with hempty | ⟨entry, hentry, hsame⟩
    · simp at hempty
    · obtain rfl := Option.some.inj hsame
      obtain ⟨member, _, hread⟩ := exists_of_mem_mapM hdecoded hentry
      obtain ⟨b, hb, hpair⟩ := Option.map_eq_some_iff.mp hread
      exact ⟨member.2, by rw [hb, (Prod.mk.inj hpair).2]⟩
  | _ => cases h

end

end PangolinGateway.Value
