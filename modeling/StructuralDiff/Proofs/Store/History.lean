import Mathlib.Data.List.Basic
import StructuralDiff.Proofs.Table
import StructuralDiff.Store.Basic

/-!
# Histories of a store

Calls of a store one after another, and what they should answer: a load finds what was saved last under the
same key since the store was cleared. The key of a snapshot need not be all of its ids.

* `Store.answers`: what the calls of a history answer.
* `Store.expected`: what they should answer.
* `Store.answers_eq_expected`: if every call keeps an invariant and answers as it should, so do all.
* `Store.answers_memory`: the store in memory answers as it should, by the ids themselves.
* `Store.expected_congr`: keys that differ where ids differ are as good as the ids.
-/

namespace StructuralDiff

/-- The ids under which a snapshot is saved. -/
def Snapshot.ids (snapshot : Snapshot) : String × String :=
  (snapshot.repoId, snapshot.snapshotId)

namespace Store

/-- A call of a store. -/
inductive Operation where
  | save (snapshot : Snapshot)
  | load (repoId snapshotId : String)
  | clear

/-- The ids that a call is about. -/
def Operation.ids : Operation → List (String × String)
  | .save snapshot => [snapshot.ids]
  | .load repoId snapshotId => [(repoId, snapshotId)]
  | .clear => []

/-- What a call answers: the snapshot that it found, if there is one. -/
abbrev Answer := Except StoreError (Option Snapshot)

/-- The disk failed. -/
def DiskFailed {α : Type} (answer : Except StoreError α) : Prop :=
  ∃ path cause, answer = .error (.io path cause)

theorem not_diskFailed_ok {α : Type} (found : α) : ¬DiskFailed (.ok found) := by
  rintro ⟨path, cause, h⟩
  cases h

theorem diskFailed_map {α β : Type} {f : α → β} {answer : Except StoreError α} :
    DiskFailed (answer.map f) ↔ DiskFailed answer := by
  cases answer <;> simp [DiskFailed, Except.map]

section Runs

variable {σ κ : Type}

/-- Calls a store. -/
def perform (store : Store σ) : Operation → σ → Answer × σ
  | .save snapshot, state =>
    let (answer, state) := store.save snapshot state
    (answer.map fun _ => none, state)
  | .load repoId snapshotId, state => (store.load repoId snapshotId state, state)
  | .clear, state =>
    let (answer, state) := store.clear state
    (answer.map fun _ => none, state)

theorem perform_save (store : Store σ) (snapshot : Snapshot) (state : σ) :
    store.perform (.save snapshot) state =
      ((store.save snapshot state).1.map fun _ => none, (store.save snapshot state).2) := rfl

theorem perform_load (store : Store σ) (repoId snapshotId : String) (state : σ) :
    store.perform (.load repoId snapshotId) state = (store.load repoId snapshotId state, state) := rfl

theorem perform_clear (store : Store σ) (state : σ) :
    store.perform .clear state = ((store.clear state).1.map fun _ => none, (store.clear state).2) := rfl

/-- The answers of calls one after another; each call has its moment. -/
def answers (store : String → Store σ) : List (String × Operation) → σ → List Answer
  | [], _ => []
  | call :: rest, state =>
    let (answer, state) := (store call.1).perform call.2 state
    answer :: answers store rest state

variable [DecidableEq κ] (key : String × String → κ)

/-- What was saved last under a key; the latest call is the first one. -/
def lastSaved : List Operation → κ → Option Snapshot
  | [], _ => none
  | .save snapshot :: past, k => if key snapshot.ids = k then some snapshot else lastSaved past k
  | .load _ _ :: past, k => lastSaved past k
  | .clear :: _, _ => none

/-- What a call should answer after others. -/
def expectedAnswer (past : List Operation) : Operation → Answer
  | .load repoId snapshotId => .ok (lastSaved key past (key (repoId, snapshotId)))
  | .save _ | .clear => .ok none

/-- What calls should answer after others. -/
def expected : (past calls : List Operation) → List Answer
  | _, [] => []
  | past, call :: rest => expectedAnswer key past call :: expected (call :: past) rest

variable {key} {store : String → Store σ} {calls : List (String × Operation)}

/-- What holds of every answer, if each call keeps an invariant. -/
theorem forall_mem_answers {Keeps : σ → Prop} {Good : Answer → Prop}
    (hstep : ∀ call ∈ calls, ∀ state, Keeps state →
      Good ((store call.1).perform call.2 state).1 ∧ Keeps ((store call.1).perform call.2 state).2)
    {state : σ} (h : Keeps state) : ∀ answer ∈ answers store calls state, Good answer := by
  induction calls generalizing state with
  | nil => exact List.forall_mem_nil _
  | cons call rest ih =>
    rw [List.forall_mem_cons] at hstep
    obtain ⟨hgood, hkeeps⟩ := hstep.1 state h
    exact List.forall_mem_cons.2 ⟨hgood, ih hstep.2 hkeeps⟩

/-- **If each call answers as it should and keeps an invariant, all do.** The invariant ties the state to the
calls that led to it, and only good answers have to keep it. -/
theorem answers_eq_expected {Keeps : List Operation → σ → Prop} {Good : Answer → Prop}
    (hstep : ∀ call ∈ calls, ∀ past state, Keeps past state → Good ((store call.1).perform call.2 state).1 →
      ((store call.1).perform call.2 state).1 = expectedAnswer key past call.2 ∧
        Keeps (call.2 :: past) ((store call.1).perform call.2 state).2)
    {past : List Operation} {state : σ} (h : Keeps past state)
    (hgood : ∀ answer ∈ answers store calls state, Good answer) :
    answers store calls state = expected key past (calls.map Prod.snd) := by
  induction calls generalizing past state with
  | nil => rfl
  | cons call rest ih =>
    rw [List.forall_mem_cons] at hstep
    obtain ⟨hfirst, hrest⟩ := List.forall_mem_cons.1 hgood
    obtain ⟨hanswer, hkeeps⟩ := hstep.1 past state h hfirst
    exact congrArg₂ List.cons hanswer (ih hstep.2 hkeeps hrest)

/-! ### Keys -/

theorem lastSaved_congr {past : List Operation} {ids : String × String}
    (h : ∀ other ∈ past.flatMap Operation.ids, key other = key ids → other = ids) :
    lastSaved key past (key ids) = lastSaved id past ids := by
  induction past with
  | nil => rfl
  | cons call past ih =>
    rw [List.flatMap_cons, List.forall_mem_append] at h
    cases call with
    | save snapshot =>
      have hkey : key snapshot.ids = key ids ↔ snapshot.ids = ids :=
        ⟨h.1 _ (List.mem_singleton_self _), congrArg key⟩
      simp only [lastSaved, hkey, ih h.2, id]
    | load => exact ih h.2
    | clear => rfl

/-- **Keys that differ where ids differ are as good as the ids.** -/
theorem expected_congr {past rest : List Operation}
    (h : ∀ ids ∈ (past ++ rest).flatMap Operation.ids, ∀ other ∈ (past ++ rest).flatMap Operation.ids,
      key other = key ids → other = ids) : expected key past rest = expected id past rest := by
  induction rest generalizing past with
  | nil => rfl
  | cons call rest ih =>
    have hanswer : expectedAnswer key past call = expectedAnswer id past call := by
      cases call with
      | save snapshot => rfl
      | load repoId snapshotId =>
        refine congrArg Except.ok (lastSaved_congr fun other hother => ?_)
        refine h (repoId, snapshotId) ?_ other ?_
        · simp [Operation.ids]
        · rw [List.flatMap_append]
          exact List.mem_append_left _ hother
      | clear => rfl
    have hmem {ids : String × String} (hids : ids ∈ (call :: past ++ rest).flatMap Operation.ids) :
        ids ∈ (past ++ call :: rest).flatMap Operation.ids :=
      (List.perm_middle.flatMap_right _).mem_iff.2 hids
    rw [expected, expected, hanswer, ih fun ids hids other hother => h ids (hmem hids) other (hmem hother)]

end Runs

/-! ### The store in memory -/

theorem get?_insert (memory : MemoryStore) (snapshot : Snapshot) (ids : String × String) :
    (memory.insert snapshot).get? ids.1 ids.2 =
      if snapshot.ids = ids then some snapshot else memory.get? ids.1 ids.2 := by
  have h := Table.lookup_replace memory.saved snapshot.ids ids snapshot
  simp only [beq_iff_eq, eq_comm (a := ids)] at h
  exact h

/-- **The store in memory answers as it should**, by the ids themselves. -/
theorem answers_memory (calls : List (String × Operation)) :
    answers (fun _ => memory) calls MemoryStore.empty = expected id [] (calls.map Prod.snd) := by
  have hstep (call : String × Operation) (past : List Operation) (kept : MemoryStore)
      (h : ∀ ids : String × String, kept.get? ids.1 ids.2 = lastSaved id past ids) :
      (memory.perform call.2 kept).1 = expectedAnswer id past call.2 ∧
        ∀ ids : String × String,
          (memory.perform call.2 kept).2.get? ids.1 ids.2 = lastSaved id (call.2 :: past) ids := by
    obtain ⟨moment, operation⟩ := call
    cases operation with
    | save snapshot => exact ⟨rfl, fun ids => by rw [lastSaved, ← h]; exact get?_insert kept snapshot ids⟩
    | load repoId snapshotId => exact ⟨congrArg Except.ok (h (repoId, snapshotId)), h⟩
    | clear => exact ⟨rfl, fun _ => rfl⟩
  exact answers_eq_expected (fun call _ past kept h _ => hstep call past kept h) (fun _ => rfl)
    fun _ _ => trivial

end Store

end StructuralDiff
