import Offscreen.ByteMap
import Mathlib.Data.List.Nodup

/-!
# Maps through what they hold

A map is known by the value that it holds under each key (`ByteMap.ext`): since keys increase, two
maps that hold the same values have the same entries. Of entries that are put in one after the other
the last one of each key is held (`get?_insertAll`).
-/

namespace Offscreen.ByteMap
set_option autoImplicit false

variable {α : Type}

theorem keys_increasing (map : ByteMap α) : map.keys.Pairwise (· < ·) :=
  List.pairwise_map.2 map.increasing

theorem nodup_keys (map : ByteMap α) : map.keys.Nodup := by
  refine map.keys_increasing.imp fun {a b} lt same => ?_
  subst same
  exact List.lt_irrefl _ lt

theorem nodup_entries (map : ByteMap α) : map.entries.Nodup :=
  map.nodup_keys.of_map _

/-- A key holds a value if it is entered with it. -/
theorem get?_eq_some_iff {map : ByteMap α} {key : Bytes} {value : α} :
    map.get? key = some value ↔ (key, value) ∈ map.entries := by
  obtain ⟨entries, increasing⟩ := map
  simp only [get?]
  induction entries with
  | nil => simp
  | cons e rest ih =>
    obtain ⟨first, later⟩ := List.pairwise_cons.1 increasing
    by_cases same : e.1 = key
    · -- no later entry has the key of the first
      have absent : (key, value) ∉ rest := fun mem => List.lt_irrefl _ (same ▸ first _ mem)
      obtain ⟨k, v⟩ := e
      obtain rfl : k = key := same
      simp [absent, eq_comm]
    · have other : (key, value) ≠ e := fun k => same (k ▸ rfl)
      simpa [List.find?_cons, same, other] using ih later

theorem mem_keys_iff {map : ByteMap α} {key : Bytes} : key ∈ map.keys ↔ ∃ value, map.get? key = some value := by
  simp [get?_eq_some_iff, keys]

/-- Maps that hold the same values are the same. -/
theorem ext {a b : ByteMap α} (h : ∀ key, a.get? key = b.get? key) : a = b := by
  have members : ∀ entry, entry ∈ a.entries ↔ entry ∈ b.entries := by
    intro entry
    rw [← a.get?_eq_some_iff, ← b.get?_eq_some_iff, h]
  have perm := (List.perm_ext_iff_of_nodup a.nodup_entries b.nodup_entries).2 members
  have same : a.entries = b.entries := by
    refine List.Perm.eq_of_pairwise ?_ a.increasing b.increasing perm
    intro x y _ _ lt gt
    exact absurd (List.lt_trans lt gt) (List.lt_irrefl _)
  obtain ⟨entries, _⟩ := a
  obtain ⟨entries', _⟩ := b
  cases same
  rfl

/-- Where no key stands twice, whatever is entered is found. -/
theorem lookup_eq_some_of_mem {entries : List (Bytes × α)} (distinct : (entries.map Prod.fst).Nodup) {key : Bytes}
    {value : α} (h : (key, value) ∈ entries) : entries.lookup key = some value := by
  obtain ⟨front, back, rfl⟩ := List.append_of_mem h
  refine List.lookup_eq_some_iff.2 ⟨front, back, rfl, ?_⟩
  rintro ⟨other, held⟩ mem
  rw [List.map_append, List.nodup_append] at distinct
  obtain ⟨-, -, apart⟩ := distinct
  apply bne_iff_ne.2
  exact (apart other (List.mem_map_of_mem mem) key List.mem_cons_self).symm

/-- The entries of a map are found in either order. -/
theorem lookup_reverse_entries (map : ByteMap α) (key : Bytes) : map.entries.reverse.lookup key = map.get? key := by
  have distinct : (map.entries.reverse.map Prod.fst).Nodup := by
    rw [List.map_reverse]
    exact List.nodup_reverse.2 map.nodup_keys
  apply Option.ext
  intro value
  rw [get?_eq_some_iff, ← List.mem_reverse]
  constructor
  · intro found
    obtain ⟨front, back, whole, -⟩ := List.lookup_eq_some_iff.1 found
    rw [whole]
    exact List.mem_append_right front List.mem_cons_self
  · exact lookup_eq_some_of_mem distinct

/-! ## Entries that are put in one after the other -/

theorem lookup_singleton (entry : Bytes × α) (key : Bytes) :
    [entry].lookup key = if entry.1 = key then some entry.2 else none := by
  obtain ⟨name, value⟩ := entry
  by_cases same : name = key
  · simp [same]
  · have other : (key == name) = false := beq_eq_false_iff_ne.2 (Ne.symm same)
    simp [List.lookup_cons, same, other]

/-- The last entry of a key counts, and where there is none the map holds what it held before. -/
theorem get?_insertAll (map : ByteMap α) (entries : List (Bytes × α)) (key : Bytes) :
    (map.insertAll entries).get? key = (entries.reverse.lookup key).or (map.get? key) := by
  induction entries generalizing map with
  | nil => rfl
  | cons entry rest ih =>
    have step : (map.insert entry.1 entry.2).get? key = ([entry].lookup key).or (map.get? key) := by
      rw [get?_insert, lookup_singleton]
      split <;> rfl
    calc (map.insertAll (entry :: rest)).get? key
        = ((map.insert entry.1 entry.2).insertAll rest).get? key := rfl
      _ = (rest.reverse.lookup key).or (([entry].lookup key).or (map.get? key)) := by rw [ih, step]
      _ = ((entry :: rest).reverse.lookup key).or (map.get? key) := by
        rw [List.reverse_cons, List.lookup_append, Option.or_assoc]

theorem insertAll_entries (map : ByteMap α) : (empty : ByteMap α).insertAll map.entries = map := by
  apply ext
  intro key
  rw [get?_insertAll, lookup_reverse_entries, get?_empty, Option.or_none]

end Offscreen.ByteMap
