import StructuralDiff.Table

/-!
# A bounded cache

Values under text keys, with room for a fixed number of them. When a new key does not fit, the oldest one
is dropped; a key that is written again keeps its age. Look-ups are counted.
-/

namespace StructuralDiff

/-- A cache with room for `capacity` values. -/
structure Cache (β : Type) where
  entries : Table β
  /-- The keys, oldest first. -/
  queue : List String
  capacity : Nat
  hits : Nat
  misses : Nat

namespace Cache

variable {β : Type}

/-- How many values a cache keeps unless told otherwise. -/
def defaultCapacity : Nat := 64

/-- An empty cache; there is always room for one value. -/
def ofCapacity (capacity : Nat) : Cache β :=
  { entries := Table.empty, queue := [], capacity := max capacity 1, hits := 0, misses := 0 }

/-- How many values are kept. -/
def size (cache : Cache β) : Nat :=
  cache.entries.keys.length

/-- Looks a key up, and counts whether it was there. -/
def get (cache : Cache β) (key : String) : Option β × Cache β :=
  match cache.entries.get? key with
  | some value => (some value, { cache with hits := cache.hits + 1 })
  | none => (none, { cache with misses := cache.misses + 1 })

/-- Gives a key a value; beyond the capacity the oldest keys are dropped. -/
def insert (cache : Cache β) (key : String) (value : β) : Cache β :=
  let queue := if (cache.entries.get? key).isSome then cache.queue else cache.queue ++ [key]
  let excess := queue.length - cache.capacity
  { cache with
    entries := (queue.take excess).foldl Table.erase (cache.entries.insert key value)
    queue := queue.drop excess }

/-- The value of a key, which is put there first if there is none; says whether that was so. -/
def getOrInsert (cache : Cache β) (key : String) (value : β) : (β × Bool) × Cache β :=
  match cache.get key with
  | (some found, cache) => ((found, false), cache)
  | (none, cache) => ((value, true), cache.insert key value)

/-- Forgets all values; the counts stay. -/
def clear (cache : Cache β) : Cache β :=
  { cache with entries := Table.empty, queue := [] }

end Cache

end StructuralDiff
