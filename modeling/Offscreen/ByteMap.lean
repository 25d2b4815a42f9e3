import Offscreen.Bytes

/-!
# Maps with byte strings as keys

Entries stand in increasing order of their keys, byte by byte, and no key stands twice. So two maps
with the same entries are equal, and entries are listed in the order of their keys.
-/

namespace Offscreen
set_option autoImplicit false

/-- Of two byte strings that differ, one stands before the other. -/
theorem Bytes.lt_of_not_lt {a b : Bytes} (h : ¬ a < b) (ne : a ≠ b) : b < a :=
  Decidable.byContradiction fun k =>
    ne (List.le_antisymm (List.not_lt.1 k) (List.not_lt.1 h))

/-- Whether entries stand in increasing order of their keys. -/
def Increasing {α : Type} (entries : List (Bytes × α)) : Prop :=
  entries.Pairwise fun x y => x.1 < y.1

/-- Puts a value under a key and keeps the order. -/
def insertSorted {α : Type} (key : Bytes) (value : α) : List (Bytes × α) → List (Bytes × α)
  | [] => [(key, value)]
  | (k, v) :: rest =>
    if key < k then (key, value) :: (k, v) :: rest
    else if key = k then (key, value) :: rest
    else (k, v) :: insertSorted key value rest

theorem fst_mem_insertSorted {α : Type} {key : Bytes} {value : α} {entries : List (Bytes × α)}
    {x : Bytes × α} (h : x ∈ insertSorted key value entries) : x.1 = key ∨ x ∈ entries := by
  induction entries with
  | nil => simp_all [insertSorted]
  | cons e rest ih =>
    simp only [insertSorted] at h
    split at h
    · rcases List.mem_cons.1 h with rfl | h
      · exact .inl rfl
      · exact .inr h
    · split at h
      · rcases List.mem_cons.1 h with rfl | h
        · exact .inl rfl
        · exact .inr (List.mem_cons_of_mem _ h)
      · rcases List.mem_cons.1 h with rfl | h
        · exact .inr List.mem_cons_self
        · exact (ih h).imp_right (List.mem_cons_of_mem _)

theorem Increasing.insertSorted {α : Type} {key : Bytes} {value : α} {entries : List (Bytes × α)}
    (h : Increasing entries) : Increasing (insertSorted key value entries) := by
  induction entries with
  | nil => simp [Offscreen.insertSorted, Increasing]
  | cons e rest ih =>
    obtain ⟨first, later⟩ := List.pairwise_cons.1 h
    simp only [Offscreen.insertSorted]
    split
    · rename_i lt
      refine List.pairwise_cons.2 ⟨fun x mem => ?_, h⟩
      rcases List.mem_cons.1 mem with rfl | mem
      · exact lt
      · exact List.lt_trans lt (first x mem)
    · split
      · rename_i eq
        exact List.pairwise_cons.2 ⟨fun x mem => eq ▸ first x mem, later⟩
      · rename_i nlt ne
        refine List.pairwise_cons.2 ⟨fun x mem => ?_, ih later⟩
        rcases fst_mem_insertSorted mem with eq | mem
        · exact eq ▸ Bytes.lt_of_not_lt nlt ne
        · exact first x mem

/-- A map from byte strings. -/
structure ByteMap (α : Type) where
  /-- The entries in increasing order of their keys. -/
  entries : List (Bytes × α)
  /-- Keys increase, so none stands twice. -/
  increasing : Increasing entries
  deriving DecidableEq

namespace ByteMap
variable {α : Type}

/-- The map without entries. -/
def empty : ByteMap α := ⟨[], List.Pairwise.nil⟩

instance : EmptyCollection (ByteMap α) := ⟨empty⟩
instance : Inhabited (ByteMap α) := ⟨empty⟩

/-- The map with a value under a key, in place of the one that stood there. -/
def insert (map : ByteMap α) (key : Bytes) (value : α) : ByteMap α :=
  ⟨insertSorted key value map.entries, map.increasing.insertSorted⟩

/-- The value under a key. -/
def get? (map : ByteMap α) (key : Bytes) : Option α :=
  (map.entries.find? fun entry => entry.1 == key).map (·.2)

/-- The keys in increasing order. -/
def keys (map : ByteMap α) : List Bytes :=
  map.entries.map (·.1)

/-- How many keys have a value. -/
def size (map : ByteMap α) : Nat :=
  map.entries.length

/-- The map with further entries, put in one after the other. -/
def insertAll (map : ByteMap α) (entries : List (Bytes × α)) : ByteMap α :=
  entries.foldl (fun map entry => map.insert entry.1 entry.2) map

theorem get?_empty (key : Bytes) : (empty : ByteMap α).get? key = none := rfl

theorem find?_insertSorted (key other : Bytes) (value : α) (entries : List (Bytes × α)) :
    (insertSorted key value entries).find? (fun entry => entry.1 == other) =
      if key = other then some (key, value)
      else entries.find? fun entry => entry.1 == other := by
  induction entries with
  | nil => by_cases h : key = other <;> simp [insertSorted, h]
  | cons e rest ih =>
    simp only [insertSorted]
    split
    · by_cases h : key = other <;> simp [h]
    · split
      · rename_i eq
        by_cases h : key = other <;> simp [h, ← eq]
      · rename_i ne
        simp only [List.find?_cons, ih]
        by_cases h : key = other
        · have : (e.1 == other) = false := by simpa using fun k => ne (h.trans k.symm)
          simp [h, this]
        · simp [h]

/-- A map holds what was put in last under a key, and all else as before. -/
theorem get?_insert (map : ByteMap α) (key other : Bytes) (value : α) :
    (map.insert key value).get? other = if key = other then some value else map.get? other := by
  simp only [get?, insert, find?_insertSorted]
  split <;> rfl

end ByteMap
end Offscreen
