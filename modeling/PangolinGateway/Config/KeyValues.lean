import PangolinGateway.Config.Env
import PangolinGateway.Maps.FirstClaim

/-! # Lists of annotations

A list is read entry by entry. It is accepted when every entry has an `=` behind a key, the last
entry of a key decides its value, and the error is that of the first entry that is not accepted. -/
namespace PangolinGateway
set_option autoImplicit false

/-- The entries of a list: none when the variable is not set. -/
def kvEntries (env : Vars) (key : String) : List (List Char) :=
  (optionalEnv env key).elim [] fun raw => Str.items ',' raw.toList

theorem kvEntries_item {env : Vars} {key : String} {entry : List Char}
    (h : entry ∈ kvEntries env key) : Str.Item ',' entry := by
  unfold kvEntries at h
  cases hset : optionalEnv env key with
  | none => simp [hset] at h
  | some raw =>
    rw [hset] at h
    exact Str.item_of_mem h

/-- The entry has the key before its first `=` and the value behind it, with white space around. -/
def IsPair (entry : List Char) (k v : String) : Prop :=
  ∃ before after, entry = before ++ '=' :: after ∧ '=' ∉ before ∧ Str.trim before = k.toList ∧
    k ≠ "" ∧ Str.trim after = v.toList

/-- What is wrong with an entry. -/
inductive Faulty (key : String) (entry : List Char) : EnvError → Prop
  | noEquals (missing : '=' ∉ entry) : Faulty key entry (.notKeyValue key (String.ofList entry))
  | blankKey {before after : List Char} (split : entry = before ++ '=' :: after)
      (first : '=' ∉ before) (blank : Str.trim before = []) :
      Faulty key entry (.emptyKey key (String.ofList entry))

/-- The last of the entries with this key has the value. -/
def LastPair (entries : List (List Char)) (k v : String) : Prop :=
  ∃ front entry back, entries = front ++ entry :: back ∧ IsPair entry k v ∧
    ∀ other ∈ back, ∀ w, ¬IsPair other k w

/-! ## One entry -/

theorem parseKv_none {key : String} {entry : List Char} (h : '=' ∉ entry) :
    parseKv key entry = .error (.notKeyValue key (String.ofList entry)) := by
  rw [parseKv, Str.splitOnce_singleton, if_neg h]

theorem parseKv_split {key : String} {before after : List Char} (h : '=' ∉ before) :
    parseKv key (before ++ '=' :: after) =
      if (Str.trim before).isEmpty then
        .error (.emptyKey key (String.ofList (before ++ '=' :: after)))
      else .ok (String.ofList (Str.trim before), String.ofList (Str.trim after)) := by
  rw [parseKv, Str.splitOnce_singleton_iff.mpr ⟨rfl, h⟩]

/-- An entry is a pair, or something is wrong with it. -/
theorem parseKv_spec (key : String) (entry : List Char) :
    (∃ k v, parseKv key entry = .ok (k, v) ∧ IsPair entry k v) ∨
      ∃ e, parseKv key entry = .error e ∧ Faulty key entry e := by
  by_cases hmem : '=' ∈ entry
  · obtain ⟨before, after, rfl, hfirst⟩ := List.eq_append_cons_of_mem hmem
    rw [parseKv_split hfirst]
    by_cases hblank : Str.trim before = []
    · exact Or.inr ⟨_, by rw [hblank]; rfl, .blankKey rfl hfirst hblank⟩
    · refine Or.inl
        ⟨_, _, if_neg (by simpa using hblank), before, after, rfl, hfirst, by simp, ?_, by simp⟩
      intro hempty
      exact hblank (by simpa using congrArg String.toList hempty)
  · exact Or.inr ⟨_, parseKv_none hmem, .noEquals hmem⟩

theorem parseKv_iff (key : String) {entry : List Char} {k v : String} :
    parseKv key entry = .ok (k, v) ↔ IsPair entry k v := by
  constructor
  · intro h
    rcases parseKv_spec key entry with ⟨k', v', hok, hpair⟩ | ⟨e, herror, _⟩
    · obtain ⟨rfl, rfl⟩ := Prod.mk.inj (Except.ok.inj (hok.symm.trans h))
      exact hpair
    · rw [herror] at h
      cases h
  · rintro ⟨before, after, rfl, hfirst, hk, hne, hv⟩
    have hkey : Str.trim before ≠ [] := by
      rw [hk]
      exact fun h => hne (String.toList_inj.mp h)
    rw [parseKv_split hfirst, if_neg (by simpa using hkey), hk, hv, String.ofList_toList,
      String.ofList_toList]

theorem parseKv_error_iff {key : String} {entry : List Char} {e : EnvError} :
    parseKv key entry = .error e ↔ Faulty key entry e := by
  constructor
  · intro h
    rcases parseKv_spec key entry with ⟨k, v, hok, _⟩ | ⟨e', herror, hfaulty⟩
    · rw [hok] at h
      cases h
    · rw [herror] at h
      exact Except.error.inj h ▸ hfaulty
  · intro h
    cases h with
    | noEquals missing => exact parseKv_none missing
    | blankKey split first blank =>
      subst split
      rw [parseKv_split first, blank]
      rfl

/-! ## The loop -/

def kvOf (key : String) (entry : List Char) : Option (String × String) :=
  (parseKv key entry).toOption

theorem kvOf_eq (key : String) {entry : List Char} {k v : String} :
    kvOf key entry = some (k, v) ↔ IsPair entry k v := by
  rw [← parseKv_iff key, kvOf]
  cases parseKv key entry <;> simp [Except.toOption]

/-- The entry has no value to be read. -/
def NoPair (entry : List Char) : Prop := ∀ k v, ¬IsPair entry k v

theorem Faulty.noPair {key : String} {entry : List Char} {e : EnvError} (h : Faulty key entry e) :
    NoPair entry := by
  intro k v hpair
  have hok := (parseKv_iff key).mpr hpair
  rw [parseKv_error_iff.mpr h] at hok
  cases hok

/-- Whatever the loop has read before, it goes through the items that are left. -/
theorem parseKvs_spec (key : String) (pieces : List (List Char)) (out : Map String) :
    ((∀ entry ∈ (pieces.map Str.trim).filter fun w => !w.isEmpty, ¬NoPair entry) ∧
        parseKvs key pieces out = .ok (InsertLoop.insertAll (kvOf key)
          ((pieces.map Str.trim).filter fun w => !w.isEmpty) out)) ∨
      ∃ bad e, FirstClaim.First NoPair ((pieces.map Str.trim).filter fun w => !w.isEmpty) bad ∧
        Faulty key bad e ∧ parseKvs key pieces out = .error e := by
  induction pieces generalizing out with
  | nil => exact Or.inl ⟨by simp, rfl⟩
  | cons piece rest ih =>
    rw [parseKvs]
    by_cases hblank : (Str.trim piece).isEmpty = true
    · rw [if_pos hblank, List.map_cons, List.filter_cons_of_neg (by simpa using hblank)]
      exact ih out
    · rw [if_neg hblank, List.map_cons, List.filter_cons_of_pos (by simpa using hblank)]
      rcases parseKv_spec key (Str.trim piece) with ⟨k, v, hok, hpair⟩ | ⟨e, herror, hfaulty⟩
      · have hgood : ¬NoPair (Str.trim piece) := fun h => h k v hpair
        rw [hok]
        rcases ih (out.insert k v) with ⟨hrest, hread⟩ | ⟨bad, e, hfirst, hfaulty, hread⟩
        · refine Or.inl ⟨List.forall_mem_cons.mpr ⟨hgood, hrest⟩, hread.trans ?_⟩
          rw [InsertLoop.insertAll, InsertLoop.insertAll, List.foldl_cons,
            (kvOf_eq key).mpr hpair]
        · obtain ⟨front, back, hsplit, hbad, hfront⟩ := hfirst
          exact Or.inr ⟨bad, e, ⟨Str.trim piece :: front, back, by rw [hsplit]; rfl, hbad,
            List.forall_mem_cons.mpr ⟨hgood, hfront⟩⟩, hfaulty, hread⟩
      · rw [herror]
        exact Or.inr ⟨_, e, ⟨[], _, rfl, hfaulty.noPair, by simp⟩, hfaulty, rfl⟩

theorem lastPair_concat {entries : List (List Char)} {entry : List Char} {k v : String} :
    LastPair (entries ++ [entry]) k v ↔
      IsPair entry k v ∨ (∀ w, ¬IsPair entry k w) ∧ LastPair entries k v := by
  constructor
  · rintro ⟨front, last, back, hsplit, hlast, hlater⟩
    rcases List.eq_nil_or_concat back with rfl | ⟨back, b, rfl⟩
    · obtain ⟨-, hsame⟩ := List.append_inj' hsplit rfl
      exact Or.inl (List.singleton_inj.mp hsame ▸ hlast)
    · rw [List.concat_eq_append, ← List.cons_append, ← List.append_assoc] at hsplit
      obtain ⟨hfront, hsame⟩ := List.append_inj' hsplit rfl
      obtain rfl := List.singleton_inj.mp hsame
      exact Or.inr ⟨hlater entry (by simp), front, last, back, hfront, hlast,
        fun other hother => hlater other (by simp [hother])⟩
  · rintro (hpair | ⟨hnone, front, last, back, rfl, hlast, hlater⟩)
    · exact ⟨entries, entry, [], rfl, hpair, by simp⟩
    · refine ⟨front, last, back ++ [entry], by simp, hlast, ?_⟩
      rw [List.forall_mem_append]
      exact ⟨hlater, by simpa using hnone⟩

/-- A key has the value of its last entry. -/
theorem lastPair_iff (key : String) {entries : List (List Char)} {k v : String} :
    (InsertLoop.insertAll (kvOf key) entries ∅)[k]? = some v ↔ LastPair entries k v := by
  induction entries using List.reverseRecOn with
  | nil => simp [LastPair]
  | append_singleton entries entry ih =>
    rw [InsertLoop.insertAll_concat, lastPair_concat, ← ih]
    cases hkv : kvOf key entry with
    | none =>
      have hnone : ∀ k w, ¬IsPair entry k w := fun k w hw => by simp [(kvOf_eq key).mpr hw] at hkv
      simp [hnone]
    | some pair =>
      obtain ⟨k', w⟩ := pair
      have hpair : ∀ k v, IsPair entry k v ↔ k' = k ∧ w = v := by
        intro k v
        rw [← kvOf_eq key, hkv, Option.some.injEq, Prod.mk.injEq]
      simp only [hpair, Std.ExtTreeMap.getElem?_insert]
      by_cases hk : k' = k
      · simp [hk]
      · simp [hk]

theorem parseKvEnv_spec (env : Vars) (key : String) :
    ((∀ entry ∈ kvEntries env key, ¬NoPair entry) ∧
        parseKvEnv env key = .ok (InsertLoop.insertAll (kvOf key) (kvEntries env key) ∅)) ∨
      ∃ bad e, FirstClaim.First NoPair (kvEntries env key) bad ∧ Faulty key bad e ∧
        parseKvEnv env key = .error e := by
  unfold kvEntries parseKvEnv
  cases optionalEnv env key with
  | none => exact Or.inl ⟨by simp, rfl⟩
  | some raw => exact parseKvs_spec key (raw.toList.splitOn ',') ∅

/-- A list is read when every entry is a pair, and then each key has its last value; otherwise the
error is that of the first entry that is none. -/
theorem parse_kv_env_reads (env : Vars) (key : String) :
    (∀ m, parseKvEnv env key = .ok m ↔ (∀ entry ∈ kvEntries env key, ¬NoPair entry) ∧
      ∀ k v, m[k]? = some v ↔ LastPair (kvEntries env key) k v) ∧
    ∀ e, parseKvEnv env key = .error e ↔
      ∃ bad, FirstClaim.First NoPair (kvEntries env key) bad ∧ Faulty key bad e := by
  rcases parseKvEnv_spec env key with ⟨hgood, hread⟩ | ⟨bad, e, hfirst, hfaulty, hread⟩
  · rw [hread]
    constructor
    · intro m
      simp only [Except.ok.injEq, ← lastPair_iff key]
      constructor
      · rintro rfl
        exact ⟨hgood, fun _ _ => Iff.rfl⟩
      · rintro ⟨_, hlookup⟩
        exact Std.ExtTreeMap.ext_getElem? fun k => Option.ext fun v => (hlookup k v).symm
    · intro e
      refine iff_of_false (by simp) ?_
      rintro ⟨bad, hfirst, hfaulty⟩
      exact hgood bad hfirst.holds.1 hfaulty.noPair
  · rw [hread]
    constructor
    · intro m
      refine iff_of_false (by simp) ?_
      rintro ⟨hgood, _⟩
      exact hgood bad hfirst.holds.1 hfaulty.noPair
    · intro e'
      constructor
      · intro h
        exact ⟨bad, hfirst, Except.error.inj h ▸ hfaulty⟩
      · rintro ⟨bad', hfirst', hfaulty'⟩
        obtain rfl := hfirst.unique hfirst'
        have hsame := (parseKv_error_iff.mpr hfaulty).symm.trans (parseKv_error_iff.mpr hfaulty')
        rw [Except.error.inj hsame]

end PangolinGateway
