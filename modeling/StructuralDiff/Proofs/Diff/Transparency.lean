import StructuralDiff.Proofs.Diff.Registry
import StructuralDiff.Proofs.Diff.Revision

/-!
# Comparisons and stores

A comparison is made from snapshots that a store has, or else from analyzed ones. Whether the store has them, has
lost or damaged them or cannot be reached makes no difference, and neither does whether it keeps what it is given.

* `Store.MayAnswer`: the answers of a store that has nothing wrong under the ids of a snapshot.
* `Store.obtainedDelta_unrevised`: the delta is that of the analyzed snapshots, up to revisions.
* `Registry.create_transparent`: comparisons are the same with every such store.
-/

namespace StructuralDiff

/-- The answers that a store may give for a snapshot: none, an error, a graph with a defect, or what the analysis
gives up to revisions. -/
def Store.MayAnswer (analyzed : Snapshot) : Except StoreError (Option Snapshot) → Prop
  | .ok (some snapshot) => snapshot.defect?.isSome = true ∨ snapshot.unrevised = analyzed.unrevised
  | .ok none => True
  | .error _ => True

/-- Two records show the same. -/
structure DiffRecord.ShowsSame (a b : DiffRecord) : Prop where
  nodeStatus : a.delta.nodeStatus = b.delta.nodeStatus
  edgeStatus : a.delta.edgeStatus = b.delta.edgeStatus
  counterparts : a.delta.counterparts = b.delta.counterparts
  views : a.views = b.views
  symbols : a.symbols = b.symbols
  files : a.files = b.files

theorem DiffRecord.ShowsSame.of_unrevised {a b : DiffRecord} (h : a.unrevised = b.unrevised) :
    a.ShowsSame b where
  nodeStatus := congrArg (·.delta.nodeStatus) h
  edgeStatus := congrArg (·.delta.edgeStatus) h
  counterparts := congrArg (·.delta.counterparts) h
  views := congrArg (·.views) h
  symbols := congrArg (·.symbols) h
  files := congrArg (·.files) h

namespace Store

variable {σ : Type} {store : Store σ} {state : σ}

/-- What a store has is sound only if it is what the analysis gives. -/
theorem sound?_unrevised {repoId snapshotId : String} {analyzed : Snapshot}
    (h : MayAnswer analyzed (store.load repoId snapshotId state)) :
    ((store.sound? repoId snapshotId state).getD analyzed).unrevised = analyzed.unrevised := by
  unfold sound?
  cases hload : store.load repoId snapshotId state with
  | error error => rfl
  | ok found =>
    cases found with
    | none => rfl
    | some snapshot =>
      rw [hload] at h
      dsimp only
      split
      · next hsound =>
        refine h.resolve_left fun hdefect => ?_
        rw [Option.isNone_iff_eq_none.1 hsound] at hdefect
        exact nomatch hdefect
      · rfl

variable {config : AnalysisConfig} {request : DiffRequest}

/-- **The delta is that of the analyzed snapshots**, up to revisions. -/
theorem obtainedDelta_unrevised
    (hold : MayAnswer (request.old.analyzed config request.repoId)
      (store.load request.repoId request.old.snapshotId state))
    (hnew : MayAnswer (request.new.analyzed config request.repoId)
      (store.load request.repoId request.new.snapshotId state)) :
    (store.obtainedDelta config request state).unrevised = (request.analyzedDelta config).unrevised := by
  have hfirst : (store.obtain config request state).1.1.unrevised =
      (request.old.analyzed config request.repoId).unrevised := sound?_unrevised hold
  have hsecond : (store.obtain config request state).1.2.unrevised =
      (request.new.analyzed config request.repoId).unrevised := sound?_unrevised hnew
  rw [obtainedDelta, ← Delta.between_unrevised, hfirst, hsecond, Delta.between_unrevised]
  rfl

end Store

namespace Registry

variable {σ : Type} {store : Store σ} {config : AnalysisConfig} {request : DiffRequest} {registry : Registry σ}

/-- A registry is as it was when there is no comparison. -/
theorem diffs_create_of_error {error : DiffError} (h : (create store config request registry).1 = .error error) :
    (create store config request registry).2.diffs = registry.diffs := by
  revert h
  rw [create_eq]
  dsimp only
  split
  · exact fun _ => rfl
  · exact nofun

/-- A comparison is registered under its own id. -/
theorem eq_id_of_create {id : String} (h : (create store config request registry).1 = .ok id) :
    id = request.id := by
  revert h
  rw [create_eq]
  dsimp only
  split
  · exact nofun
  · exact fun h => (Except.ok.inj h).symm

/-- The other comparisons of a registry stay as they are. -/
theorem diff?_create_of_ne {other : String} (hne : other ≠ request.id) :
    (create store config request registry).2.diff? other = registry.diff? other := by
  rw [create_eq]
  dsimp only
  split
  · rfl
  · rw [diff?, Table.get?_insert, if_neg hne, diff?]

/-- **Comparisons are the same with every store** that has nothing wrong under the ids of the two snapshots, even
if it fails: the same outcome, and a record that shows the same under the same id. Nothing else in the registry
changes. -/
theorem create_transparent
    (hold : Store.MayAnswer (request.old.analyzed config request.repoId)
      (store.load request.repoId request.old.snapshotId registry.state))
    (hnew : Store.MayAnswer (request.new.analyzed config request.repoId)
      (store.load request.repoId request.new.snapshotId registry.state)) :
    let result := create store config request registry
    let plain := create Store.memory config request { state := MemoryStore.empty, diffs := registry.diffs }
    result.1 = plain.1 ∧
      (∀ error, result.1 = .error error → result.2.diffs = registry.diffs) ∧
      ∀ id, result.1 = .ok id →
        id = diffId request.repoId request.old.snapshotId request.new.snapshotId ∧
        (∃ record plainRecord, result.2.diff? id = some record ∧ plain.2.diff? id = some plainRecord ∧
          record.ShowsSame plainRecord) ∧
        ∀ other, other ≠ id → result.2.diff? other = registry.diff? other := by
  have hdelta := Store.obtainedDelta_unrevised hold hnew
  -- the empty store has nothing, so it leads to the analyzed snapshots
  have hplain : Store.memory.obtainedDelta config request MemoryStore.empty = request.analyzedDelta config :=
    rfl
  intro result plain
  have houtcome : result.1 = plain.1 := by
    have hempty : (store.obtainedDelta config request registry.state).isEmpty =
        (request.analyzedDelta config).isEmpty := by
      rw [← Delta.isEmpty_unrevised, hdelta, Delta.isEmpty_unrevised]
    simp only [result, plain, create_eq, hempty, hplain]
    split <;> rfl
  refine ⟨houtcome, fun error => diffs_create_of_error, fun id hok => ?_⟩
  obtain rfl := eq_id_of_create hok
  refine ⟨rfl, ⟨_, _, diff?_create hok, diff?_create (houtcome ▸ hok), .of_unrevised ?_⟩,
    fun other hne => diff?_create_of_ne hne⟩
  rw [hplain, DiffRequest.record, DiffRequest.record, ← DiffRecord.ofDelta_unrevised, hdelta,
    DiffRecord.ofDelta_unrevised]

/-! ### A store that fails -/

/-- A store that keeps nothing, has one snapshot under another revision and cannot read any other. -/
def staleStore (snapshot : Snapshot) : Store Unit where
  save _ state := (.error (.malformed "graphs"), state)
  load _ snapshotId _ :=
    if snapshotId = snapshot.snapshotId then .ok (some { snapshot with revision := "tag" })
    else .error (.malformed snapshotId)
  clear state := (.ok (), state)

theorem create_transparent_stale :
    let store := staleStore (sharedImport.old.analyzed {} "r")
    let result := create store {} sharedImport (ofState ())
    let plain := create Store.memory {} sharedImport (ofState .empty)
    Store.MayAnswer (sharedImport.old.analyzed {} "r") (store.load "r" "v1" ()) ∧
      Store.MayAnswer (sharedImport.new.analyzed {} "r") (store.load "r" "v2" ()) ∧
      plain.1 = .ok "r:v1..v2" ∧ result.1 = plain.1 ∧
      (∀ error, result.1 = .error error → result.2.diffs = Table.empty) ∧
      ∀ id, result.1 = .ok id → id = "r:v1..v2" ∧
        (∃ record plainRecord, result.2.diff? id = some record ∧ plain.2.diff? id = some plainRecord ∧
          record.ShowsSame plainRecord) ∧
        ∀ other, other ≠ id → result.2.diff? other = none := by
  intro store result plain
  have hold : Store.MayAnswer (sharedImport.old.analyzed {} "r") (store.load "r" "v1" ()) := .inr rfl
  have hnew : Store.MayAnswer (sharedImport.new.analyzed {} "r") (store.load "r" "v2" ()) := trivial
  exact ⟨hold, hnew, create_of_changedAt changedAt_sharedImport, create_transparent hold hnew⟩

end Registry

end StructuralDiff
