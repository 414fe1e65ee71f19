import Mathlib.Data.List.Basic
import StructuralDiff.Cache
import StructuralDiff.Proofs.Repetition
import StructuralDiff.Proofs.Table

/-!
# What a cache keeps

A cache holds its values in a table and the age of its keys in a queue, and each of its operations changes the
two on its own. Together they stand for one list of pairs, the oldest first.

* `Ledger`: the list of pairs, with the operations of a cache.
* `Table.Shows`: a table stands for a list of pairs, and it does so again after any change of both.
* `Cache.Mirrors.perform`: a cache that stands for a ledger answers a call like it, and stands for it again.
* `Cache.wellKept_replay`: so a cache answers every sequence of calls like a ledger, and its queue never drifts
  away from its table.
-/

namespace StructuralDiff

variable {β : Type}

/-! ### A list of pairs -/

/-- Values under keys, in the order in which the keys came. -/
structure Ledger (β : Type) where
  pairs : List (String × β)
  capacity : Nat
  hits : Nat
  misses : Nat

namespace Ledger

/-- An empty ledger; there is always room for one pair. -/
def ofCapacity (capacity : Nat) : Ledger β :=
  { pairs := [], capacity := max capacity 1, hits := 0, misses := 0 }

/-- Looks a key up, and counts whether it was there. -/
def get (ledger : Ledger β) (key : String) : Option β × Ledger β :=
  match ledger.pairs.lookup key with
  | some value => (some value, { ledger with hits := ledger.hits + 1 })
  | none => (none, { ledger with misses := ledger.misses + 1 })

/-- The pairs with another value in the place of a key. -/
def replace (pairs : List (String × β)) (key : String) (value : β) : List (String × β) :=
  pairs.map fun pair => if pair.1 = key then (key, value) else pair

/-- A key that is there gets the value in its place. A new key comes last, and the oldest pair is dropped when
there is one too many then. -/
def insert (ledger : Ledger β) (key : String) (value : β) : Ledger β :=
  if key ∈ ledger.pairs.map (·.1) then { ledger with pairs := replace ledger.pairs key value }
  else
    let pairs := ledger.pairs ++ [(key, value)]
    { ledger with pairs := if ledger.capacity < pairs.length then pairs.tail else pairs }

/-- The value of a key, which is put there first if there is none; says whether that was so. -/
def getOrInsert (ledger : Ledger β) (key : String) (value : β) : (β × Bool) × Ledger β :=
  match ledger.get key with
  | (some found, ledger) => ((found, false), ledger)
  | (none, ledger) => ((value, true), ledger.insert key value)

/-- Forgets all pairs; the counts stay. -/
def clear (ledger : Ledger β) : Ledger β :=
  { ledger with pairs := [] }

theorem map_fst_replace (pairs : List (String × β)) (key : String) (value : β) :
    (replace pairs key value).map (·.1) = pairs.map (·.1) := by
  rw [replace, List.map_map]
  refine List.map_congr_left fun pair _ => ?_
  show (if pair.1 = key then (key, value) else pair).1 = pair.1
  split
  · next h => exact h.symm
  · rfl

theorem lookup_cons_eq_ite (pair : String × β) (rest : List (String × β)) (key : String) :
    (pair :: rest).lookup key = if key = pair.1 then some pair.2 else rest.lookup key :=
  Table.get?_insert ⟨rest⟩ pair.1 key pair.2

theorem lookup_replace (pairs : List (String × β)) (key : String) (value : β) (other : String) :
    (replace pairs key value).lookup other =
      if other = key then (pairs.lookup key).map fun _ => value else pairs.lookup other := by
  induction pairs with
  | nil => simp [replace]
  | cons pair rest ih =>
    rw [replace] at ih
    rw [replace, List.map_cons, lookup_cons_eq_ite, lookup_cons_eq_ite, lookup_cons_eq_ite, ih]
    by_cases hfirst : pair.1 = key
    · by_cases hother : other = key
      · simp [hfirst, hother]
      · simp [hfirst, hother]
    · have hne : key ≠ pair.1 := fun heq => hfirst heq.symm
      by_cases hother : other = key
      · simp [hfirst, hother, hne]
      · simp [hfirst, hother]

end Ledger

/-! ### Tables and lists of pairs -/

namespace Table

/-- A table stands for a list of pairs in which no key is repeated. -/
structure Shows (table : Table β) (pairs : List (String × β)) : Prop where
  nodup : (pairs.map (·.1)).Nodup
  get?_eq : ∀ key, table.get? key = pairs.lookup key

namespace Shows

variable {table : Table β} {pairs : List (String × β)} {key : String}

theorem empty : (Table.empty : Table β).Shows [] :=
  ⟨List.nodup_nil, fun _ => rfl⟩

theorem isSome_get?_iff (h : table.Shows pairs) : (table.get? key).isSome ↔ key ∈ pairs.map (·.1) := by
  rw [h.get?_eq]
  exact get?_isSome_iff ⟨pairs⟩ key

/-- The keys of the table are those of the pairs, so there are as many of them. -/
theorem length_keys (h : table.Shows pairs) : table.keys.length = pairs.length := by
  have hperm : table.keys.Perm (pairs.map (·.1)) := by
    refine (List.perm_ext_iff_of_nodup (nodup_eraseDups _) h.nodup).2 fun key => ?_
    exact (mem_keys table key).trans h.isSome_get?_iff
  rw [hperm.length_eq, List.length_map]

/-- A key that is there gets another value in its place. -/
theorem replace (h : table.Shows pairs) (hkey : key ∈ pairs.map (·.1)) (value : β) :
    (table.insert key value).Shows (Ledger.replace pairs key value) := by
  refine ⟨?_, fun other => ?_⟩
  · rw [Ledger.map_fst_replace]
    exact h.nodup
  · obtain ⟨found, hfound⟩ := Option.isSome_iff_exists.1 (h.isSome_get?_iff.2 hkey)
    rw [get?_insert, Ledger.lookup_replace, ← h.get?_eq key, hfound, h.get?_eq other]
    rfl

/-- A new key comes last. -/
theorem concat (h : table.Shows pairs) (hkey : key ∉ pairs.map (·.1)) (value : β) :
    (table.insert key value).Shows (pairs ++ [(key, value)]) := by
  refine ⟨?_, fun other => ?_⟩
  · rw [List.map_append, List.map_singleton]
    refine List.nodup_append.2 ⟨h.nodup, List.nodup_singleton _, fun old hold new hnew heq => ?_⟩
    have hsame : old = key := heq.trans (List.mem_singleton.1 hnew)
    exact hkey (hsame ▸ hold)
  · rw [get?_insert, List.lookup_append, Ledger.lookup_cons_eq_ite, h.get?_eq]
    by_cases hother : other = key
    · have hnone : pairs.lookup key = none := by
        rw [← h.get?_eq, ← Option.not_isSome_iff_eq_none, h.isSome_get?_iff]
        exact hkey
      simp [hother, hnone]
    · simp [hother]

/-- The oldest key is dropped. -/
theorem tail {oldest : String × β} (h : table.Shows (oldest :: pairs)) :
    (table.erase oldest.1).Shows pairs := by
  obtain ⟨hfirst, hrest⟩ := List.nodup_cons.1 h.nodup
  refine ⟨hrest, fun other => ?_⟩
  rw [get?_erase]
  by_cases hother : other = oldest.1
  · rw [if_pos hother, hother, eq_comm, ← Option.not_isSome_iff_eq_none]
    exact fun hsome => hfirst ((get?_isSome_iff ⟨pairs⟩ oldest.1).1 hsome)
  · rw [if_neg hother, h.get?_eq, Ledger.lookup_cons_eq_ite, if_neg hother]

end Shows

end Table

/-! ### Calls -/

namespace Cache

/-- A call of a cache. -/
inductive Call (β : Type) where
  | get (key : String)
  | insert (key : String) (value : β)
  | getOrInsert (key : String) (value : β)
  | clear

/-- What a call answers: the value that it found or put there, and whether this had to be made for it. -/
structure Answer (β : Type) where
  value? : Option β
  made : Bool

/-- What a call answers, and the cache after it. -/
def perform (cache : Cache β) : Call β → Answer β × Cache β
  | .get key => (⟨(cache.get key).1, false⟩, (cache.get key).2)
  | .insert key value => (⟨some value, false⟩, cache.insert key value)
  | .getOrInsert key value =>
    let ((found, made), cache) := cache.getOrInsert key value
    (⟨some found, made⟩, cache)
  | .clear => (⟨none, false⟩, cache.clear)

end Cache

/-- What a call answers, and the ledger after it. -/
def Ledger.perform (ledger : Ledger β) : Cache.Call β → Cache.Answer β × Ledger β
  | .get key => (⟨(ledger.get key).1, false⟩, (ledger.get key).2)
  | .insert key value => (⟨some value, false⟩, ledger.insert key value)
  | .getOrInsert key value =>
    let ((found, made), ledger) := ledger.getOrInsert key value
    (⟨some found, made⟩, ledger)
  | .clear => (⟨none, false⟩, ledger.clear)

namespace Cache

/-- What calls answer one after another, and the state after them. -/
def replay {σ : Type} (perform : σ → Call β → Answer β × σ) : σ → List (Call β) → List (Answer β) × σ
  | state, [] => ([], state)
  | state, call :: rest =>
    let (answer, next) := perform state call
    let (answers, last) := replay perform next rest
    (answer :: answers, last)

/-- A cache with room for so many values stands for a ledger: its table for the pairs, and its queue for their
order. -/
structure Mirrors (capacity : Nat) (cache : Cache β) (ledger : Ledger β) : Prop where
  entries : cache.entries.Shows ledger.pairs
  queue : cache.queue = ledger.pairs.map (·.1)
  room : ledger.pairs.length ≤ capacity
  cache_capacity : cache.capacity = capacity
  ledger_capacity : ledger.capacity = capacity
  hits : cache.hits = ledger.hits
  misses : cache.misses = ledger.misses

namespace Mirrors

theorem ofCapacity (capacity : Nat) :
    Mirrors (max capacity 1) (Cache.ofCapacity capacity : Cache β) (.ofCapacity capacity) where
  entries := .empty
  queue := rfl
  room := Nat.zero_le _
  cache_capacity := rfl
  ledger_capacity := rfl
  hits := rfl
  misses := rfl

variable {capacity : Nat} {cache : Cache β} {ledger : Ledger β} (h : Mirrors capacity cache ledger)

include h

/-! ### One call -/

protected theorem get (key : String) :
    (cache.get key).1 = (ledger.get key).1 ∧ Mirrors capacity (cache.get key).2 (ledger.get key).2 := by
  rw [Cache.get, Ledger.get, h.entries.get?_eq]
  cases ledger.pairs.lookup key with
  | some value => exact ⟨rfl, { h with hits := congrArg (· + 1) h.hits }⟩
  | none => exact ⟨rfl, { h with misses := congrArg (· + 1) h.misses }⟩

/-- A write of a key that is there: nothing is dropped, and the queue stays as it is. -/
theorem insert_of_mem {key : String} (hkey : key ∈ ledger.pairs.map (·.1)) (value : β) :
    Mirrors capacity (cache.insert key value) (ledger.insert key value) := by
  have hexcess : cache.queue.length - cache.capacity = 0 := by
    rw [h.queue, List.length_map, h.cache_capacity]
    exact Nat.sub_eq_zero_of_le h.room
  have hsome := h.entries.isSome_get?_iff.2 hkey
  rw [Ledger.insert, if_pos hkey]
  simp only [Cache.insert, hsome, if_true, hexcess, List.take_zero, List.foldl_nil, List.drop_zero]
  exact { h with
    entries := h.entries.replace hkey value
    queue := by
      rw [h.queue, Ledger.map_fst_replace]
    room := by
      rw [Ledger.replace, List.length_map]
      exact h.room }

/-- A write of a new key: it comes last, and the oldest key is dropped when there was no room left. -/
theorem insert_of_notMem (hcapacity : 0 < capacity) {key : String} (hkey : key ∉ ledger.pairs.map (·.1))
    (value : β) : Mirrors capacity (cache.insert key value) (ledger.insert key value) := by
  have hnone : (cache.entries.get? key).isSome = false := by
    rw [Bool.eq_false_iff, ne_eq, h.entries.isSome_get?_iff]
    exact hkey
  have hshows := h.entries.concat hkey value
  have hqueue : cache.queue ++ [key] = (ledger.pairs ++ [(key, value)]).map (·.1) := by
    rw [h.queue, List.map_append, List.map_singleton]
  have hgrown : (ledger.pairs ++ [(key, value)]).length = ledger.pairs.length + 1 := List.length_append
  have hexcess : (cache.queue ++ [key]).length - cache.capacity = ledger.pairs.length + 1 - capacity := by
    rw [hqueue, List.length_map, hgrown, h.cache_capacity]
  have hroom := h.room
  rw [Ledger.insert, if_neg hkey]
  simp only [Cache.insert, hnone, Bool.false_eq_true, if_false, hexcess, hgrown, h.ledger_capacity]
  by_cases hfull : capacity < ledger.pairs.length + 1
  · -- the ledger was full, so exactly one key is dropped, and there is an oldest one
    have hone : ledger.pairs.length + 1 - capacity = 1 := by omega
    obtain ⟨oldest, rest, hpairs⟩ : ∃ oldest rest, ledger.pairs = oldest :: rest :=
      List.exists_cons_of_length_pos (by omega)
    rw [hpairs] at hshows hqueue hroom
    rw [if_pos hfull, hone, hqueue, hpairs]
    exact { h with
      entries := hshows.tail
      queue := rfl
      room := by
        show (rest ++ [(key, value)]).length ≤ capacity
        rw [List.length_append]
        exact hroom
      ledger_capacity := rfl }
  · have hzero : ledger.pairs.length + 1 - capacity = 0 := by omega
    rw [if_neg hfull, hzero, hqueue]
    exact { h with
      entries := hshows
      queue := rfl
      room := by
        show (ledger.pairs ++ [(key, value)]).length ≤ capacity
        omega
      ledger_capacity := rfl }

protected theorem insert (hcapacity : 0 < capacity) (key : String) (value : β) :
    Mirrors capacity (cache.insert key value) (ledger.insert key value) := by
  by_cases hkey : key ∈ ledger.pairs.map (·.1)
  · exact h.insert_of_mem hkey value
  · exact h.insert_of_notMem hcapacity hkey value

protected theorem getOrInsert (hcapacity : 0 < capacity) (key : String) (value : β) :
    (cache.getOrInsert key value).1 = (ledger.getOrInsert key value).1 ∧
      Mirrors capacity (cache.getOrInsert key value).2 (ledger.getOrInsert key value).2 := by
  obtain ⟨hanswer, hnext⟩ := h.get key
  rw [Cache.getOrInsert, Ledger.getOrInsert]
  revert hanswer hnext
  obtain ⟨found, cache'⟩ := cache.get key
  obtain ⟨found', ledger'⟩ := ledger.get key
  rintro rfl hnext
  cases found with
  | some value => exact ⟨rfl, hnext⟩
  | none => exact ⟨rfl, hnext.insert hcapacity key value⟩

protected theorem clear : Mirrors capacity cache.clear ledger.clear :=
  { h with entries := .empty, queue := rfl, room := Nat.zero_le _ }

/-- **One call**: the cache answers like the ledger, and stands for it again. -/
protected theorem perform (hcapacity : 0 < capacity) (call : Call β) :
    (cache.perform call).1 = (ledger.perform call).1 ∧
      Mirrors capacity (cache.perform call).2 (ledger.perform call).2 := by
  cases call with
  | get key =>
    obtain ⟨hanswer, hnext⟩ := h.get key
    exact ⟨congrArg (Answer.mk · false) hanswer, hnext⟩
  | insert key value => exact ⟨rfl, h.insert hcapacity key value⟩
  | getOrInsert key value =>
    obtain ⟨hanswer, hnext⟩ := h.getOrInsert hcapacity key value
    exact ⟨congrArg (fun found => Answer.mk (some found.1) found.2) hanswer, hnext⟩
  | clear => exact ⟨rfl, h.clear⟩

/-! ### All calls -/

/-- What a run of calls preserves. -/
protected theorem replay (hcapacity : 0 < capacity) (calls : List (Call β)) :
    (replay Cache.perform cache calls).1 = (replay Ledger.perform ledger calls).1 ∧
      Mirrors capacity (replay Cache.perform cache calls).2 (replay Ledger.perform ledger calls).2 := by
  induction calls generalizing cache ledger with
  | nil => exact ⟨rfl, h⟩
  | cons call rest ih =>
    obtain ⟨hanswer, hnext⟩ := h.perform hcapacity call
    obtain ⟨hanswers, hlast⟩ := ih hnext
    exact ⟨congrArg₂ List.cons hanswer hanswers, hlast⟩

end Mirrors

/-- What holds of a cache that was made with the capacity, next to the ledger with the same history. -/
structure WellKept (capacity : Nat) (cache : Cache β) (ledger : Ledger β) : Prop where
  /-- No key is in the queue twice. -/
  queue_nodup : cache.queue.Nodup
  /-- The keys in the queue are those that have a value. -/
  mem_queue : ∀ key, key ∈ cache.queue ↔ (cache.entries.get? key).isSome
  /-- The queue has them in the order of the ledger. -/
  queue_eq : cache.queue = ledger.pairs.map (·.1)
  /-- They have the values of the ledger. -/
  get?_eq : ∀ key, cache.entries.get? key = ledger.pairs.lookup key
  size_eq : cache.size = ledger.pairs.length
  size_le : cache.size ≤ max capacity 1
  hits : cache.hits = ledger.hits
  misses : cache.misses = ledger.misses

/-- **A cache of any capacity answers every sequence of calls like a ledger**, and its queue and its table say
the same about it at any time. -/
theorem wellKept_replay (capacity : Nat) (calls : List (Call β)) :
    let cache := replay perform (ofCapacity capacity) calls
    let ledger := replay Ledger.perform (.ofCapacity capacity) calls
    cache.1 = ledger.1 ∧ WellKept capacity cache.2 ledger.2 := by
  intro cache ledger
  have hcapacity : 0 < max capacity 1 := by omega
  obtain ⟨hanswers, hmirrors⟩ := (Mirrors.ofCapacity capacity).replay hcapacity calls
  have hsize : cache.2.size = ledger.2.pairs.length := hmirrors.entries.length_keys
  refine ⟨hanswers, ?_⟩
  exact {
    queue_nodup := by
      rw [hmirrors.queue]
      exact hmirrors.entries.nodup
    mem_queue := fun key => by
      rw [hmirrors.queue]
      exact hmirrors.entries.isSome_get?_iff.symm
    queue_eq := hmirrors.queue
    get?_eq := hmirrors.entries.get?_eq
    size_eq := hsize
    size_le := hsize ▸ hmirrors.room
    hits := hmirrors.hits
    misses := hmirrors.misses }

/-- Two keys fit. The first one keeps its age when it is written again, so it is dropped for the third one. -/
example :
    let calls := [Call.insert "a" 1, .insert "b" 2, .insert "a" 3, .get "a", .insert "c" 4, .get "a",
      .getOrInsert "b" 5, .getOrInsert "a" 6, .clear, .get "b"]
    let cache := replay perform (ofCapacity 2) calls
    cache.1.map (fun answer => (answer.value?, answer.made)) = [(some 1, false), (some 2, false),
      (some 3, false), (some 3, false), (some 4, false), (none, false), (some 2, false), (some 6, true),
      (none, false), (none, false)] ∧ cache.2.queue = [] ∧ (cache.2.hits, cache.2.misses) = (2, 3) := by
  decide

end Cache

end StructuralDiff
