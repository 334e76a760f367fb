import Mathlib.Algebra.GroupWithZero.Nat
import Mathlib.Data.List.AList

/-!
Finite maps with one entry for each key, as association lists.

The order of the entries is the order in which an iteration meets them; no
result below depends on it.
-/

universe u v

/-- A finite map from `Key` to `Value`. -/
abbrev Table (Key : Type u) (Value : Type v) := AList (fun _ : Key => Value)

namespace Table

variable {Key : Type u} {Value : Type v} [DecidableEq Key]

/-- The entries, in iteration order. -/
def pairs (table : Table Key Value) : List (Key × Value) :=
  table.entries.map (fun entry => (entry.1, entry.2))

/-- Keep exactly the entries a test admits. -/
def retain (table : Table Key Value) (keep : Key → Value → Bool) :
    Table Key Value :=
  { entries := table.entries.filter (fun entry => keep entry.1 entry.2)
    nodupKeys := table.nodupKeys.sublist List.filter_sublist }

/-- Update every entry. -/
def mapValues (table : Table Key Value) (update : Key → Value → Value) :
    Table Key Value :=
  { entries := table.entries.map (fun entry => ⟨entry.1, update entry.1 entry.2⟩)
    nodupKeys := by
      have keys : (table.entries.map (fun entry =>
          (⟨entry.1, update entry.1 entry.2⟩ : Sigma fun _ : Key => Value))).keys =
          table.entries.keys := by
        unfold List.keys
        rw [List.map_map]
        rfl
      unfold List.NodupKeys
      rw [keys]
      exact table.nodupKeys }

/-- Update the value at a key, and nothing where the key is absent. -/
def modify (table : Table Key Value) (key : Key) (update : Value → Value) :
    Table Key Value :=
  match table.lookup key with
  | none => table
  | some value => table.insert key (update value)

variable {key : Key} {table : Table Key Value} {value : Value}

theorem mem_entries_iff_lookup :
    (⟨key, value⟩ : Sigma fun _ : Key => Value) ∈ table.entries ↔
      table.lookup key = some value := by
  rw [← AList.mem_lookup_iff, Option.mem_def]

theorem mem_pairs_iff_lookup :
    (key, value) ∈ table.pairs ↔ table.lookup key = some value := by
  rw [← mem_entries_iff_lookup]
  unfold pairs
  constructor
  · intro member
    obtain ⟨⟨key', value'⟩, present, same⟩ := List.mem_map.mp member
    cases same
    exact present
  · intro present
    exact List.mem_map.mpr ⟨⟨key, value⟩, present, rfl⟩

omit [DecidableEq Key] in
theorem pairs_keys_nodup (table : Table Key Value) :
    (table.pairs.map Prod.fst).Nodup := by
  have keys : table.pairs.map Prod.fst = table.entries.keys := by
    unfold pairs List.keys
    rw [List.map_map]
    rfl
  rw [keys]
  exact table.nodupKeys

@[simp] theorem lookup_retain (table : Table Key Value)
    (keep : Key → Value → Bool) (key : Key) :
    (table.retain keep).lookup key = (table.lookup key).filter (keep key) := by
  ext value
  rw [← mem_entries_iff_lookup, Option.filter_eq_some_iff,
    ← mem_entries_iff_lookup]
  unfold retain
  rw [List.mem_filter]

@[simp] theorem lookup_mapValues (table : Table Key Value)
    (update : Key → Value → Value) (key : Key) :
    (table.mapValues update).lookup key = (table.lookup key).map (update key) := by
  ext value
  rw [← mem_entries_iff_lookup, Option.map_eq_some_iff]
  unfold mapValues
  rw [List.mem_map]
  constructor
  · rintro ⟨⟨key', value'⟩, present, same⟩
    cases same
    exact ⟨value', mem_entries_iff_lookup.mp present, rfl⟩
  · rintro ⟨value', present, same⟩
    exact ⟨⟨key, value'⟩, mem_entries_iff_lookup.mpr present, by rw [same]⟩

theorem lookup_modify_self (table : Table Key Value) (key : Key)
    (update : Value → Value) :
    (table.modify key update).lookup key = (table.lookup key).map update := by
  unfold modify
  cases found : table.lookup key with
  | none => rw [found]; rfl
  | some value => rw [AList.lookup_insert]; rfl

theorem lookup_modify_of_ne (table : Table Key Value) {other : Key} (update : Value → Value)
    (different : other ≠ key) :
    (table.modify key update).lookup other = table.lookup other := by
  unfold modify
  cases table.lookup key with
  | none => rfl
  | some value => exact AList.lookup_insert_ne different

theorem modify_modify (table : Table Key Value) (key : Key)
    (first second : Value → Value) :
    (table.modify key first).modify key second =
      table.modify key (fun value => second (first value)) := by
  unfold modify
  cases found : table.lookup key with
  | none =>
      dsimp only
      rw [found]
  | some value =>
      dsimp only
      rw [AList.lookup_insert]
      exact AList.insert_insert table

theorem lookup_modify (table : Table Key Value) (key other : Key)
    (update : Value → Value) :
    (table.modify key update).lookup other =
      if other = key then (table.lookup key).map update
      else table.lookup other := by
  by_cases same : other = key
  · rw [if_pos same, same, lookup_modify_self]
  · rw [if_neg same, lookup_modify_of_ne table update same]

theorem lookup_insert_eq (table : Table Key Value) (key other : Key)
    (value : Value) :
    (table.insert key value).lookup other =
      if other = key then some value else table.lookup other := by
  by_cases same : other = key
  · rw [if_pos same, same, AList.lookup_insert]
  · rw [if_neg same, AList.lookup_insert_ne same]

theorem lookup_erase_eq (table : Table Key Value) (key other : Key) :
    (table.erase key).lookup other =
      if other = key then none else table.lookup other := by
  by_cases same : other = key
  · rw [if_pos same, same, AList.lookup_erase]
  · rw [if_neg same, AList.lookup_erase_ne same]

@[simp] theorem lookup_empty (key : Key) :
    (∅ : Table Key Value).lookup key = none :=
  AList.lookup_empty key

/-- The sum of what the entries weigh. -/
def total (weigh : Value → Nat) (table : Table Key Value) : Nat :=
  (table.entries.map (fun entry => weigh entry.2)).sum

private theorem entries_split (present : table.lookup key = some value) :
    ∃ early late, table.entries = early ++ ⟨key, value⟩ :: late ∧
      table.entries.kerase key = early ++ late := by
  have listed : key ∈ table.entries.keys :=
    List.mem_keys_of_mem (mem_entries_iff_lookup.mpr present)
  obtain ⟨held, early, late, _, split, erased⟩ := List.exists_of_kerase listed
  have same : held = value := by
    have found : table.lookup key = some held := by
      rw [← mem_entries_iff_lookup, split]
      exact List.mem_append_right early (List.mem_cons_self ..)
    exact Option.some.inj (found.symm.trans present)
  exact ⟨early, late, same ▸ split, erased⟩

theorem total_insert (weigh : Value → Nat) {old : Value} (present : table.lookup key = some old)
    (value : Value) :
    total weigh (table.insert key value) + weigh old = total weigh table + weigh value := by
  obtain ⟨early, late, split, erased⟩ := entries_split present
  unfold total
  rw [AList.entries_insert, erased, split]
  simp only [List.map_append, List.map_cons, List.sum_append, List.sum_cons]
  omega

theorem total_insert_new (weigh : Value → Nat) (absent : table.lookup key = none) (value : Value) :
    total weigh (table.insert key value) = weigh value + total weigh table := by
  have unlisted : key ∉ table.keys := by
    rw [← AList.mem_keys, ← AList.lookup_eq_none]
    exact absent
  unfold total
  rw [AList.entries_insert_of_notMem unlisted, List.map_cons, List.sum_cons]

theorem total_erase (weigh : Value → Nat) (present : table.lookup key = some value) :
    total weigh (table.erase key) + weigh value = total weigh table := by
  obtain ⟨early, late, split, erased⟩ := entries_split present
  unfold total
  change ((table.entries.kerase key).map _).sum + _ = _
  rw [erased, split]
  simp only [List.map_append, List.map_cons, List.sum_append, List.sum_cons]
  omega

theorem weigh_le_total (weigh : Value → Nat) (present : table.lookup key = some value) :
    weigh value ≤ total weigh table := by
  have erased := total_erase weigh present
  omega

end Table
