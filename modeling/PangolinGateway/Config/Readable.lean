import PangolinGateway.Config.KeyValues

/-! # What the variables can say

For each reader, the values that some content of its variable is read as: which it is decides what
a configuration can hold. Every such value has a text that is read back as it. -/
namespace PangolinGateway
set_option autoImplicit false

/-- Some content of the variable is read as the value. -/
def ReadAs {E A : Type} (read : Vars → Except E A) (a : A) : Prop :=
  ∃ o : Option String, read (fun _ => o) = .ok a

theorem readAs_required (key v : String) : ReadAs (requiredEnv · key) v := ⟨some v, rfl⟩

theorem exists_optional (key : String) {v : Option String} :
    (∃ o : Option String, optionalEnv (fun _ => o) key = v) ↔ v ≠ some "" := by
  constructor
  · rintro ⟨o, ho⟩ rfl
    simpa using (Option.filter_eq_some_iff.mp ho).2
  · intro h
    refine ⟨v, ?_⟩
    cases v with
    | none => rfl
    | some v =>
      have hne : v ≠ "" := fun heq => h (by rw [heq])
      simp [optionalEnv, Option.filter_some, hne]

/-- A value that is read is the default or comes from a text that is not empty. -/
theorem readAs_iff {E A : Type} {key : String} {default : A} {parse : String → Except E A} {a : A} :
    ReadAs (fun env => readEnv env key default parse) a ↔
      a = default ∨ ∃ v, v ≠ "" ∧ parse v = .ok a := by
  unfold ReadAs readEnv
  constructor
  · rintro ⟨o, ho⟩
    beta_reduce at ho
    cases hset : optionalEnv (fun _ => o) key with
    | none =>
      rw [hset] at ho
      exact Or.inl (Except.ok.inj ho).symm
    | some v =>
      rw [hset] at ho
      refine Or.inr ⟨v, ?_, ho⟩
      rintro rfl
      exact (exists_optional key).mp ⟨o, hset⟩ rfl
  · rintro (rfl | ⟨v, hne, hv⟩)
    · exact ⟨none, rfl⟩
    · obtain ⟨o, ho⟩ := (exists_optional key).mpr fun h => hne (Option.some.inj h)
      refine ⟨o, ?_⟩
      beta_reduce
      rw [ho]
      exact hv

theorem ofList_ne_empty {s : List Char} (h : s ≠ []) : String.ofList s ≠ "" :=
  fun heq => h (by simpa using congrArg String.toList heq)

theorem orError_ok {E A : Type} {e : E} {o : Option A} {a : A} :
    orError e o = .ok a ↔ o = some a := by
  cases o <;> simp [orError]

theorem readAs_bool (key : String) (default b : Bool) : ReadAs (boolEnv · key default) b := by
  refine readAs_iff.mpr (Or.inr ?_)
  cases b with
  | true =>
    refine ⟨"true", by decide, ?_⟩
    rw [parseBool, show toLowercase "true" = "true" by decide]
    rfl
  | false =>
    refine ⟨"false", by decide, ?_⟩
    rw [parseBool, show toLowercase "false" = "false" by decide]
    rfl

theorem readAs_duration [HumantimeCrate] {key : String} {default n : ℕ} :
    ReadAs (durationEnv · key default) n ↔
      n = default ∨ ∃ v, v ≠ "" ∧ HumantimeCrate.parseDuration v = some n := by
  refine readAs_iff.trans ?_
  simp only [orError_ok]

theorem readAs_u64 {key : String} {default n : ℕ} (hdefault : default < 18446744073709551616) :
    ReadAs (u64Env · key default) n ↔ n < 18446744073709551616 := by
  refine readAs_iff.trans ?_
  simp only [orError_ok]
  constructor
  · rintro (rfl | ⟨v, _, hv⟩)
    · exact hdefault
    · exact Str.parseU64_lt hv
  · intro h
    refine Or.inr ⟨_, ofList_ne_empty (Nat.toDigits_ne_nil (b := 10) (n := n)), ?_⟩
    rw [String.toList_ofList, Str.parseU64_toDigits h]

theorem readAs_i32 {key : String} {default n : ℤ} (hdefault : Str.InI32 default) :
    ReadAs (i32Env · key default) n ↔ Str.InI32 n := by
  refine readAs_iff.trans ?_
  simp only [orError_ok]
  constructor
  · rintro (rfl | ⟨v, _, hv⟩)
    · exact hdefault
    · exact Str.parseI32_range hv
  · intro h
    refine Or.inr ⟨_, ofList_ne_empty (Str.printInt_ne_nil n), ?_⟩
    rw [String.toList_ofList, Str.parseI32_printInt h]

/-! ## Lists -/

/-- Items are what some content of the variable holds; a lone comma says that there are none. -/
theorem exists_items (key : String) {ws : List (List Char)} (h : ∀ w ∈ ws, Str.Item ',' w) :
    ∃ (o : Option String) (raw : String), optionalEnv (fun _ => o) key = some raw ∧
      Str.items ',' raw.toList = ws := by
  obtain ⟨raw, hraw, hread⟩ : ∃ raw : List Char, raw ≠ [] ∧ Str.items ',' raw = ws := by
    cases ws with
    | nil => exact ⟨[','], by decide, by decide⟩
    | cons w ws =>
      refine ⟨_, ?_, Str.items_intercalate h⟩
      intro hnil
      have hread := Str.items_intercalate h
      rw [hnil, show Str.items ',' [] = [] by decide] at hread
      cases hread
  obtain ⟨o, ho⟩ := (exists_optional key).mpr
    fun h => ofList_ne_empty hraw (Option.some.inj h)
  exact ⟨o, _, ho, by rw [String.toList_ofList, hread]⟩

/-- Words without a comma or white space around. -/
def CsvWords (ws : List String) : Prop := ∀ w ∈ ws, Str.Item ',' w.toList

theorem exists_csv (key : String) {default ws : List String} :
    (∃ o : Option String, csvEnv (fun _ => o) key default = ws) ↔ ws = default ∨ CsvWords ws := by
  constructor
  · rintro ⟨o, rfl⟩
    unfold csvEnv
    cases optionalEnv (fun _ => o) key with
    | none => exact Or.inl rfl
    | some raw =>
      refine Or.inr fun w hw => ?_
      obtain ⟨item, hitem, rfl⟩ := List.mem_map.mp hw
      rw [String.toList_ofList]
      exact Str.item_of_mem hitem
  · rintro (rfl | hwords)
    · exact ⟨none, rfl⟩
    · obtain ⟨o, raw, ho, hread⟩ := exists_items key (List.forall_mem_map.mpr hwords)
      refine ⟨o, ?_⟩
      rw [csvEnv, ho]
      simp [hread, Function.comp_def]

/-- Keys and values that a list of annotations can hold. -/
abbrev Annotation (k v : String) : Prop := Str.Pair ',' k.toList v.toList

theorem annotation_of_pair {entry : List Char} (hitem : Str.Item ',' entry) {k v : String}
    (h : IsPair entry k v) : Annotation k v := by
  obtain ⟨before, after, rfl, hfirst, hk, hne, hv⟩ := h
  have hapart := hitem.apart
  simp only [List.mem_append, List.mem_cons, not_or] at hapart
  refine ⟨⟨fun hnil => hne (String.toList_inj.mp hnil), ?_, ?_⟩, ?_, ?_, ?_⟩
  · rw [← hk]
    exact fun h => hapart.1 (Str.trim_subset _ h)
  · rw [← hk, Str.trim_trim]
  · rw [← hk]
    exact fun h => hfirst (Str.trim_subset _ h)
  · rw [← hv, Str.trim_trim]
  · rw [← hv]
    exact fun h => hapart.2.2 (Str.trim_subset _ h)

theorem isPair_iff {k v : String} (h : Annotation k v) {k' v' : String} :
    IsPair (Str.pairText (k, v)) k' v' ↔ k = k' ∧ v = v' := by
  have hself : IsPair (Str.pairText (k, v)) k v :=
    ⟨k.toList, v.toList, rfl, h.plain, h.key.trimmed,
      fun hempty => h.key.nonempty (by rw [hempty]; rfl), h.value⟩
  constructor
  · intro hpair
    have hsame := ((parseKv_iff "").mpr hself).symm.trans ((parseKv_iff "").mpr hpair)
    exact Prod.mk.inj (Except.ok.inj hsame)
  · rintro ⟨rfl, rfl⟩
    exact hself

theorem readAs_kv {key : String} {m : Map String} :
    ReadAs (parseKvEnv · key) m ↔ ∀ k v, m[k]? = some v → Annotation k v := by
  constructor
  · rintro ⟨o, ho⟩ k v hkv
    rcases parseKvEnv_spec (fun _ => o) key with ⟨_, hread⟩ | ⟨_, _, _, _, hread⟩
    · obtain rfl := Except.ok.inj (hread.symm.trans ho)
      rcases InsertLoop.insertAll_entry (kvOf key) hkv with hempty | ⟨entry, hentry, hpair⟩
      · simp at hempty
      · exact annotation_of_pair (kvEntries_item hentry) ((kvOf_eq key).mp hpair)
    · cases hread.symm.trans ho
  · intro h
    have hpairs : ∀ entry ∈ m.toList.map Str.pairText, ∃ k v, m[k]? = some v ∧ entry = Str.pairText (k, v) := by
      rw [List.forall_mem_map]
      rintro ⟨k, v⟩ hmem
      exact ⟨k, v, Std.ExtTreeMap.mem_toList_iff_getElem?_eq_some.mp hmem, rfl⟩
    have hitems : ∀ entry ∈ m.toList.map Str.pairText, Str.Item ',' entry := by
      intro entry hentry
      obtain ⟨k, v, hkv, rfl⟩ := hpairs entry hentry
      exact (h k v hkv).item (by decide)
    obtain ⟨o, ho⟩ : ∃ o : Option String, kvEntries (fun _ => o) key = m.toList.map Str.pairText := by
      obtain ⟨o, raw, ho, hread⟩ := exists_items key hitems
      exact ⟨o, by rw [kvEntries, ho, Option.elim_some, hread]⟩
    refine ⟨o, ?_⟩
    rcases parseKvEnv_spec (fun _ => o) key with ⟨_, hread⟩ | ⟨bad, _, hfirst, _, _⟩
    · refine hread.trans (congrArg Except.ok ?_)
      refine Std.ExtTreeMap.ext_getElem? fun k => Option.ext fun v => ?_
      rw [ho]
      refine @InsertLoop.getElem?_insertAll_iff _ _ _ _ _ (kvOf key) _ _ _ (fun k v => m[k]? = some v)
        (fun k v => ?_) (fun k v w hv hw => Option.some.inj (hv.symm.trans hw)) k v
      constructor
      · intro hkv
        refine ⟨Str.pairText (k, v), ?_, (kvOf_eq key).mpr ((isPair_iff (h k v hkv)).mpr ⟨rfl, rfl⟩)⟩
        exact List.mem_map_of_mem (Std.ExtTreeMap.mem_toList_iff_getElem?_eq_some.mpr hkv)
      · rintro ⟨entry, hentry, hpair⟩
        obtain ⟨k', v', hkv, rfl⟩ := hpairs entry hentry
        obtain ⟨rfl, rfl⟩ := (isPair_iff (h k' v' hkv)).mp ((kvOf_eq key).mp hpair)
        exact hkv
    · rw [ho] at hfirst
      obtain ⟨k, v, hkv, rfl⟩ := hpairs bad hfirst.holds.1
      exact absurd ((isPair_iff (h k v hkv)).mpr ⟨rfl, rfl⟩) (hfirst.holds.2 k v)

/-! ## Several variables -/

/-- A condition that some of the variables can meet, whatever the others are. -/
structure Setting where
  keys : List String
  holds : Vars → Prop
  settable : ∃ o : Vars, ∀ env : Vars, (∀ key ∈ keys, env key = o key) → holds env

/-- Conditions on different variables can be met together. -/
theorem exists_vars {settings : List Setting} (hapart : (settings.flatMap Setting.keys).Nodup) :
    ∃ o : Vars, ∀ env : Vars, (∀ key ∈ settings.flatMap Setting.keys, env key = o key) →
      ∀ setting ∈ settings, setting.holds env := by
  induction settings with
  | nil => exact ⟨fun _ => none, fun _ _ => by simp⟩
  | cons setting settings ih =>
    rw [List.flatMap_cons, List.nodup_append] at hapart
    obtain ⟨_, hrest, hdisjoint⟩ := hapart
    obtain ⟨o, ho⟩ := setting.settable
    obtain ⟨o', ho'⟩ := ih hrest
    refine ⟨fun key => if key ∈ setting.keys then o key else o' key, fun env henv => ?_⟩
    refine List.forall_mem_cons.mpr ⟨?_, ?_⟩
    · refine ho env fun key hkey => ?_
      exact (henv key (List.mem_append_left _ hkey)).trans (if_pos hkey)
    · refine ho' env fun key hkey => ?_
      exact (henv key (List.mem_append_right _ hkey)).trans
        (if_neg fun hmem => hdisjoint key hmem key hkey rfl)

/-- A reader of one variable returns the value. -/
def Setting.of {A : Type} (read : Vars → A) (key : String) (a : A)
    (hread : ∀ env, read env = read fun _ => env key)
    (h : ∃ o : Option String, read (fun _ => o) = a) : Setting where
  keys := [key]
  holds env := read env = a
  settable := by
    obtain ⟨o, ho⟩ := h
    refine ⟨fun _ => o, fun env henv => ?_⟩
    rw [hread, henv key (List.mem_singleton_self key), ho]

def Setting.required (key v : String) : Setting :=
  .of (requiredEnv · key) key (.ok v) (fun _ => rfl) (readAs_required key v)

def Setting.optional (key : String) (v : Option String) (h : v ≠ some "") : Setting :=
  .of (optionalEnv · key) key v (fun _ => rfl) ((exists_optional key).mpr h)

def Setting.text (key default v : String) (h : v ≠ "") : Setting :=
  .of (fun env => (optionalEnv env key).getD default) key v (fun _ => rfl) <| by
    obtain ⟨o, ho⟩ := (exists_optional key).mpr fun heq => h (Option.some.inj heq)
    exact ⟨o, congrArg (Option.getD · default) ho⟩

def Setting.bool (key : String) (default b : Bool) : Setting :=
  .of (boolEnv · key default) key (.ok b) (fun _ => rfl) (readAs_bool key default b)

def Setting.u64 (key : String) (default n : ℕ) (hdefault : default < 18446744073709551616)
    (h : n < 18446744073709551616) : Setting :=
  .of (u64Env · key default) key (.ok n) (fun _ => rfl) ((readAs_u64 hdefault).mpr h)

def Setting.i32 (key : String) (default n : ℤ) (hdefault : Str.InI32 default) (h : Str.InI32 n) : Setting :=
  .of (i32Env · key default) key (.ok n) (fun _ => rfl) ((readAs_i32 hdefault).mpr h)

def Setting.csv (key : String) (default ws : List String) (h : ws = default ∨ CsvWords ws) :
    Setting :=
  .of (csvEnv · key default) key ws (fun _ => rfl) ((exists_csv key).mpr h)

def Setting.kv (key : String) (m : Map String) (h : ∀ k v, m[k]? = some v → Annotation k v) :
    Setting :=
  .of (parseKvEnv · key) key (.ok m) (fun _ => rfl) (readAs_kv.mpr h)

end PangolinGateway
