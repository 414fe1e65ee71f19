/-!
# Tables

A finite map from texts to values, kept as the list of its writes with the latest first: the value of a
key is the one written last.

* `get?_insert`: what a write does to every look-up.
* `writes_insertAll`: the writes of a list of entries, the last of them first.
-/

namespace StructuralDiff

/-- A finite map from texts to values. -/
structure Table (β : Type) where
  writes : List (String × β)
  deriving Repr

namespace Table

variable {β : Type}

/-- The table without any key. -/
def empty : Table β := ⟨[]⟩

instance : Inhabited (Table β) := ⟨empty⟩

/-- The value of a key. -/
def get? (table : Table β) (key : String) : Option β :=
  table.writes.lookup key

/-- Gives a key a value, in place of the one it had. -/
def insert (table : Table β) (key : String) (value : β) : Table β :=
  ⟨(key, value) :: table.writes⟩

/-- Removes a key. -/
def erase (table : Table β) (key : String) : Table β :=
  ⟨table.writes.filter (·.1 != key)⟩

/-- Writes the entries one after the other, so that of a repeated key the last value counts. -/
def insertAll (table : Table β) (entries : List (String × β)) : Table β :=
  entries.foldl (fun table entry => table.insert entry.1 entry.2) table

/-- The table of a list of entries; of a repeated key the last value counts. -/
def ofList (entries : List (String × β)) : Table β :=
  empty.insertAll entries

/-- The keys, each of them once. -/
def keys (table : Table β) : List String :=
  (table.writes.map (·.1)).eraseDups

/-- The keys with their values. -/
def toList (table : Table β) : List (String × β) :=
  table.keys.filterMap fun key => (table.get? key).map (key, ·)

@[simp]
theorem get?_empty (key : String) : (empty : Table β).get? key = none := rfl

theorem get?_insert (table : Table β) (key other : String) (value : β) :
    (table.insert key value).get? other = if other = key then some value else table.get? other := by
  by_cases h : other = key
  · simp [get?, insert, h]
  · have : (other == key) = false := by simpa using h
    simp [get?, insert, List.lookup_cons, h, this]

/-- The writes of a list of entries stand before the earlier ones, the last of them first. -/
theorem writes_insertAll (table : Table β) (entries : List (String × β)) :
    (table.insertAll entries).writes = entries.reverse ++ table.writes := by
  unfold insertAll
  induction entries generalizing table with
  | nil => rfl
  | cons entry entries ih =>
    rw [List.foldl_cons, ih]
    simp [insert]

end Table

end StructuralDiff
