import Mathlib.Data.List.AList

/-!
# Hash tables with an unspecified iteration order

A hash table is Mathlib's association list with distinct keys.  Lookup,
insertion and removal do not depend on the order of its entries; an iteration
does, and a program may not rely on it.  `IterationOrder` stands for one order
that the table might choose: an arbitrary rearrangement of the stored values.
-/

namespace HermesAtrust.Collections

universe u v

variable {K : Type u} {V : Type v}

/-- A finite map with distinct keys. -/
abbrev HashTable (K : Type u) (V : Type v) :=
  AList fun _ : K => V

namespace HashTable

/-- Stored values, one per key. -/
def values (table : HashTable K V) : List V :=
  table.entries.map Sigma.snd

/-- The number of entries. -/
def len (table : HashTable K V) : Nat :=
  table.entries.length

/-- The entries as pairs. -/
def pairs (table : HashTable K V) : List (K × V) :=
  table.entries.map fun entry => (entry.1, entry.2)

/-- Change every entry, and drop those for which there is no value. -/
def filterMapEntries (change : K → V → Option V) (table : HashTable K V) :
    HashTable K V where
  entries :=
    table.entries.filterMap fun entry =>
      (change entry.1 entry.2).map fun value => ⟨entry.1, value⟩
  nodupKeys := by
    have distinct := List.nodupKeys_iff_pairwise.mp table.nodupKeys
    rw [List.nodupKeys_iff_pairwise, List.pairwise_filterMap]
    refine distinct.imp ?_
    intro first second different changedFirst firstIs changedSecond secondIs
    obtain ⟨value, -, rfl⟩ := Option.map_eq_some_iff.mp firstIs
    obtain ⟨other, -, rfl⟩ := Option.map_eq_some_iff.mp secondIs
    exact different

/-- Change every value, and drop the entries for which there is none. -/
def filterMapValues (change : V → Option V) (table : HashTable K V) :
    HashTable K V :=
  filterMapEntries (fun _ => change) table

theorem len_filterMapValues_le (change : V → Option V)
    (table : HashTable K V) :
    len (filterMapValues change table) ≤ len table :=
  List.length_filterMap_le _ _

variable [DecidableEq K]

theorem mem_values {table : HashTable K V} {value : V} :
    value ∈ values table ↔ ∃ key, table.lookup key = some value := by
  constructor
  · intro member
    obtain ⟨⟨key, stored⟩, entry, equal⟩ := List.mem_map.mp member
    refine ⟨key, ?_⟩
    change stored = value at equal
    subst stored
    exact AList.mem_lookup_iff.mpr entry
  · rintro ⟨key, found⟩
    have entry : (⟨key, value⟩ : Sigma fun _ : K => V) ∈ table.entries :=
      AList.mem_lookup_iff.mp found
    exact List.mem_map.mpr ⟨⟨key, value⟩, entry, rfl⟩

theorem lookup_insert_eq_if (table : HashTable K V) (key other : K)
    (value : V) :
    (table.insert key value).lookup other =
      if other = key then some value else table.lookup other := by
  by_cases same : other = key
  · subst other
    simp
  · rw [if_neg same, AList.lookup_insert_ne same]

theorem lookup_erase_eq_if (table : HashTable K V) (key other : K) :
    (table.erase key).lookup other =
      if other = key then none else table.lookup other := by
  by_cases same : other = key
  · subst other
    simp
  · rw [if_neg same, AList.lookup_erase_ne same]

theorem mem_pairs {table : HashTable K V} {key : K} {value : V} :
    (key, value) ∈ pairs table ↔ table.lookup key = some value := by
  rw [pairs, List.mem_map]
  constructor
  · intro found
    obtain ⟨⟨stored, held⟩, entry, same⟩ := found
    cases same
    exact AList.mem_lookup_iff.mpr entry
  · intro found
    exact ⟨⟨key, value⟩, AList.mem_lookup_iff.mp found, rfl⟩

theorem lookup_filterMapEntries (change : K → V → Option V)
    (table : HashTable K V) (key : K) :
    (filterMapEntries change table).lookup key =
      (table.lookup key).bind (change key) := by
  ext value
  rw [← Option.mem_def, AList.mem_lookup_iff]
  simp only [filterMapEntries, List.mem_filterMap]
  constructor
  · intro found
    obtain ⟨⟨stored, held⟩, entry, changed⟩ := found
    obtain ⟨result, isResult, same⟩ := Option.map_eq_some_iff.mp changed
    cases same
    have lookedUp : table.lookup stored = some held :=
      AList.mem_lookup_iff.mpr entry
    rw [lookedUp, Option.bind_some]
    exact isResult
  · intro found
    obtain ⟨held, lookedUp, isResult⟩ := Option.bind_eq_some_iff.mp found
    exact ⟨⟨key, held⟩, AList.mem_lookup_iff.mp lookedUp, by simp [isResult]⟩

theorem lookup_filterMapValues (change : V → Option V) (table : HashTable K V)
    (key : K) :
    (filterMapValues change table).lookup key =
      (table.lookup key).bind change :=
  lookup_filterMapEntries (fun _ => change) table key

theorem len_insert_le (table : HashTable K V) (key : K) (value : V) :
    len (table.insert key value) ≤ len table + 1 := by
  rw [len, AList.entries_insert, List.length_cons]
  exact Nat.succ_le_succ (List.kerase_sublist key table.entries).length_le

/-- A key that is already there takes no more room. -/
theorem len_insert_of_lookup {table : HashTable K V} {key : K} {held : V}
    (found : table.lookup key = some held) (value : V) :
    len (table.insert key value) ≤ len table := by
  have present : key ∈ table.entries.keys :=
    AList.mem_keys.mp (AList.lookup_isSome.mp (by rw [found]; rfl))
  obtain ⟨stored, before, after, -, split, erased⟩ :=
    List.exists_of_kerase present
  rw [len, AList.entries_insert, erased, len, split]
  simp only [List.length_cons, List.length_append]
  omega

/-- Erasing a key takes exactly its value away. -/
theorem values_perm_of_lookup {table : HashTable K V} {key : K} {held : V}
    (found : table.lookup key = some held) :
    (values table).Perm (held :: values (table.erase key)) := by
  have present : key ∈ table.entries.keys :=
    AList.mem_keys.mp (AList.lookup_isSome.mp (by rw [found]; rfl))
  obtain ⟨stored, before, after, -, split, erased⟩ :=
    List.exists_of_kerase present
  have entry : (⟨key, stored⟩ : Sigma fun _ : K => V) ∈ table.entries := by
    rw [split]
    simp
  have same : table.lookup key = some stored := AList.mem_lookup_iff.mpr entry
  rw [found] at same
  cases same
  have left : (table.erase key).entries = before ++ after := erased
  rw [values, values, left, split]
  simp

end HashTable

/-- One order in which an iteration may visit the stored values. -/
structure IterationOrder (V : Type v) where
  arrange : List V → List V
  perm : ∀ values, (arrange values).Perm values

namespace IterationOrder

/-- The order of insertion, latest first. -/
def stored : IterationOrder V where
  arrange := id
  perm := List.Perm.refl

theorem mem_arrange (order : IterationOrder V) {values : List V}
    {value : V} : value ∈ order.arrange values ↔ value ∈ values :=
  (order.perm values).mem_iff

/-- The given value first, and the others as they are stored. -/
def foremost [DecidableEq V] (first : V) : IterationOrder V where
  arrange values :=
    if first ∈ values then first :: values.erase first else values
  perm values := by
    split
    · rename_i member
      exact (List.perm_cons_erase member).symm
    · exact List.Perm.refl values

theorem arrange_foremost [DecidableEq V] {first : V} {values : List V}
    (member : first ∈ values) :
    (foremost first).arrange values = first :: values.erase first :=
  if_pos member

end IterationOrder

end HermesAtrust.Collections
