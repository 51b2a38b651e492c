/-!
# Keyed tables

A small finite map, kept as the list of its bindings in the order in which
they were last set.  Looking a key up after a change gives the changed binding
for that key and the earlier binding for every other key.
-/

namespace DemandPaging

/-- A finite map from keys to values. -/
structure KeyedTable (Key Value : Type) where
  entries : List (Key × Value) := []

namespace KeyedTable

variable {Key Value : Type}

def size (table : KeyedTable Key Value) : Nat :=
  table.entries.length

/-- The bound keys, in the order in which they were last set. -/
def keys (table : KeyedTable Key Value) : List Key :=
  table.entries.map Prod.fst

def values (table : KeyedTable Key Value) : List Value :=
  table.entries.map Prod.snd

variable [DecidableEq Key]

def find? (table : KeyedTable Key Value) (key : Key) : Option Value :=
  (table.entries.find? fun entry => entry.1 = key).map Prod.snd

def contains (table : KeyedTable Key Value) (key : Key) : Bool :=
  (table.find? key).isSome

/-- Remove the binding of `key`, if there is one. -/
def erase (table : KeyedTable Key Value) (key : Key) : KeyedTable Key Value where
  entries := table.entries.filter fun entry => entry.1 ≠ key

/-- Bind `key` to `value`, whatever it was bound to before. -/
def set (table : KeyedTable Key Value) (key : Key) (value : Value) :
    KeyedTable Key Value where
  entries := (table.erase key).entries ++ [(key, value)]

/-- Replace the value bound to `key`, if there is one, by its image under
`change`. -/
def modify (table : KeyedTable Key Value) (key : Key) (change : Value → Value) :
    KeyedTable Key Value where
  entries := table.entries.map fun entry =>
    if entry.1 = key then (entry.1, change entry.2) else entry

@[simp]
theorem find?_empty (key : Key) :
    ({} : KeyedTable Key Value).find? key = none :=
  rfl

@[simp]
theorem find?_erase_self (table : KeyedTable Key Value) (key : Key) :
    (table.erase key).find? key = none := by
  simp [find?, erase, List.find?_filter]

theorem find?_erase_of_ne (table : KeyedTable Key Value) {key other : Key}
    (different : other ≠ key) :
    (table.erase key).find? other = table.find? other := by
  simp only [find?, erase, List.find?_filter]
  congr 2
  funext entry
  by_cases same : entry.1 = other
  · simp [same, different]
  · simp [same]

@[simp]
theorem find?_set_self (table : KeyedTable Key Value) (key : Key) (value : Value) :
    (table.set key value).find? key = some value := by
  have absent := find?_erase_self table key
  simp only [find?, Option.map_eq_none_iff] at absent
  simp [find?, set, List.find?_append, absent]

theorem find?_set_of_ne (table : KeyedTable Key Value) {key other : Key}
    (value : Value) (different : other ≠ key) :
    (table.set key value).find? other = table.find? other := by
  rw [← find?_erase_of_ne table different]
  simp [find?, set, List.find?_append, Ne.symm different]

theorem find?_erase (table : KeyedTable Key Value) (key other : Key) :
    (table.erase key).find? other = if other = key then none else table.find? other := by
  split
  · rename_i same
    rw [same, find?_erase_self]
  · rename_i different
    exact find?_erase_of_ne table different

theorem find?_set (table : KeyedTable Key Value) (key other : Key) (value : Value) :
    (table.set key value).find? other =
      if other = key then some value else table.find? other := by
  split
  · rename_i same
    rw [same, find?_set_self]
  · rename_i different
    exact find?_set_of_ne table value different

theorem find?_erase_eq_some_iff {table : KeyedTable Key Value} {key other : Key} {value : Value} :
    (table.erase key).find? other = some value ↔
      other ≠ key ∧ table.find? other = some value := by
  rw [find?_erase]
  by_cases same : other = key
  · simp [same]
  · simp [same]

/-- A key that was not bound before is bound beside the others. -/
theorem find?_set_eq_some_iff {table : KeyedTable Key Value} {key other : Key}
    {value found : Value} (unbound : table.find? key = none) :
    (table.set key value).find? other = some found ↔
      other = key ∧ found = value ∨ table.find? other = some found := by
  rw [find?_set]
  by_cases same : other = key
  · simp [same, unbound, eq_comm]
  · simp [same]

theorem find?_modify (table : KeyedTable Key Value) (key other : Key)
    (change : Value → Value) :
    (table.modify key change).find? other =
      if other = key then (table.find? other).map change else table.find? other := by
  obtain ⟨entries⟩ := table
  simp only [find?, modify]
  induction entries with
  | nil => simp
  | cons entry rest ih =>
    simp only [List.map_cons, List.find?_cons]
    by_cases touched : entry.1 = key
    · by_cases found : key = other
      · simp [touched, found]
      · simpa [touched, found, Ne.symm found] using ih
    · by_cases found : entry.1 = other
      · have untouched : other ≠ key := fun same => touched (found.trans same)
        simp [found, untouched]
      · simpa [touched, found] using ih

theorem find?_filter (table : KeyedTable Key Value) (kept : Key → Bool) (key : Key) :
    (⟨table.entries.filter fun entry => kept entry.1⟩ : KeyedTable Key Value).find? key =
      if kept key then table.find? key else none := by
  simp only [find?, List.find?_filter]
  by_cases keeps : kept key
  · rw [if_pos keeps]
    congr 2
    funext entry
    by_cases same : entry.1 = key
    · simp [same, keeps]
    · simp [same]
  · rw [if_neg keeps, Option.map_eq_none_iff, List.find?_eq_none]
    intro entry _
    by_cases same : entry.1 = key
    · simp [same, keeps]
    · simp [same]

theorem mem_keys_iff (table : KeyedTable Key Value) (key : Key) :
    key ∈ table.keys ↔ ∃ value, table.find? key = some value := by
  rw [← Option.isSome_iff_exists]
  simp [keys, find?, List.find?_isSome]

/-- A table in which no key is bound is empty. -/
theorem entries_eq_nil {table : KeyedTable Key Value}
    (unbound : ∀ key, table.find? key = none) : table.entries = [] := by
  cases table with
  | mk entries =>
    cases entries with
    | nil => rfl
    | cons entry rest =>
      have bound := unbound entry.1
      simp [find?] at bound

@[simp]
theorem keys_modify (table : KeyedTable Key Value) (key : Key) (change : Value → Value) :
    (table.modify key change).keys = table.keys := by
  simp only [keys, modify, List.map_map]
  apply List.map_congr_left
  intro entry _
  simp only [Function.comp_apply]
  split <;> rfl

omit [DecidableEq Key] in
theorem nodup_keys_filter {table : KeyedTable Key Value} (distinct : table.keys.Nodup)
    (kept : Key × Value → Bool) :
    (⟨table.entries.filter kept⟩ : KeyedTable Key Value).keys.Nodup :=
  List.Nodup.sublist (List.filter_sublist.map Prod.fst) distinct

theorem keys_erase_sublist (table : KeyedTable Key Value) (key : Key) :
    (table.erase key).keys.Sublist table.keys :=
  List.filter_sublist.map Prod.fst

theorem keys_set (table : KeyedTable Key Value) (key : Key) (value : Value) :
    (table.set key value).keys = (table.erase key).keys ++ [key] := by
  simp [keys, set]

theorem nodup_keys_erase {table : KeyedTable Key Value} (distinct : table.keys.Nodup)
    (key : Key) : (table.erase key).keys.Nodup :=
  nodup_keys_filter distinct _

theorem nodup_keys_set {table : KeyedTable Key Value} (distinct : table.keys.Nodup)
    (key : Key) (value : Value) : (table.set key value).keys.Nodup := by
  simp only [set, keys, List.map_append, List.map_cons, List.map_nil]
  refine List.nodup_append.mpr ⟨nodup_keys_erase distinct key, by simp, ?_⟩
  intro first firstMem last lastMem
  rw [List.mem_singleton.mp lastMem]
  rintro rfl
  simp [erase] at firstMem

/-- If every key is bound once, the bindings are what looking keys up shows. -/
theorem mem_entries_iff {table : KeyedTable Key Value} (distinct : table.keys.Nodup)
    (key : Key) (value : Value) :
    (key, value) ∈ table.entries ↔ table.find? key = some value := by
  cases table with
  | mk entries =>
    simp only [keys] at distinct
    simp only [find?]
    induction entries with
    | nil => simp
    | cons entry rest ih =>
      rw [List.map_cons, List.nodup_cons] at distinct
      by_cases same : entry.1 = key
      · have absent : (key, value) ∉ rest := fun member =>
          distinct.1 (same ▸ List.mem_map_of_mem (f := Prod.fst) member)
        simp only [List.mem_cons, absent, or_false, same, decide_true, List.find?_cons_of_pos,
          Option.map_some, Option.some.injEq]
        constructor
        · intro equal
          rw [← equal]
        · intro equal
          rw [← equal, ← same]
      · have differs : (key, value) ≠ entry := fun equal => same (by rw [← equal])
        simp only [List.mem_cons, differs, false_or, same, decide_false, Bool.false_eq_true,
          not_false_eq_true, List.find?_cons_of_neg]
        exact ih distinct.2

/-- If every key is bound once, the bindings of one key are what looking it up
shows. -/
theorem filter_entries_eq {table : KeyedTable Key Value} (distinct : table.keys.Nodup)
    (key : Key) :
    table.entries.filter (fun entry => entry.1 = key) =
      ((table.find? key).map fun value => (key, value)).toList := by
  cases table with
  | mk entries =>
    simp only [keys] at distinct
    simp only [find?]
    induction entries with
    | nil => rfl
    | cons entry rest ih =>
      rw [List.map_cons, List.nodup_cons] at distinct
      by_cases same : entry.1 = key
      · have alone : rest.filter (fun entry => entry.1 = key) = [] := by
          rw [List.filter_eq_nil_iff]
          intro other member isKey
          apply distinct.1
          rw [same, ← of_decide_eq_true isKey]
          exact List.mem_map_of_mem member
        obtain ⟨entryKey, value⟩ := entry
        obtain rfl : entryKey = key := same
        simp [alone]
      · simpa [same] using ih distinct.2

omit [DecidableEq Key] in
/-- Replace every value by its image under `change`. -/
def mapValues {Other : Type} (change : Value → Other) (table : KeyedTable Key Value) :
    KeyedTable Key Other where
  entries := table.entries.map (Prod.map id change)

section Mapped

variable {Other : Type} (change : Value → Other) (table : KeyedTable Key Value) (key : Key)

theorem find?_mapValues : (table.mapValues change).find? key = (table.find? key).map change := by
  obtain ⟨entries⟩ := table
  simp only [find?, mapValues, List.find?_map, Option.map_map]
  rfl

theorem erase_mapValues :
    (table.mapValues change).erase key = (table.erase key).mapValues change := by
  simp only [erase, mapValues, List.filter_map]
  rfl

theorem set_mapValues (value : Value) :
    (table.mapValues change).set key (change value) = (table.set key value).mapValues change := by
  rw [set, erase_mapValues, set]
  simp only [mapValues, List.map_append, List.map_cons, List.map_nil]
  rfl

theorem modify_mapValues {alter : Value → Value} {altered : Other → Other}
    (commutes : ∀ value, altered (change value) = change (alter value)) :
    (table.mapValues change).modify key altered = (table.modify key alter).mapValues change := by
  simp only [modify, mapValues, List.map_map]
  congr 1
  apply List.map_congr_left
  intro entry _
  simp only [Function.comp_apply, Prod.map_fst, id]
  split
  · simp only [Prod.map, commutes, id]
  · rfl

end Mapped

end KeyedTable

end DemandPaging
