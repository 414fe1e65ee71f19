import StructuralDiff.Proofs.Store.Room

/-!
# Files against memory

The store in files answers like the store in memory on every history in which ids with the same file names are
the same, as long as the disk does its work. Other ids tell the two apart: a slash and an underscore have the
same file name.

* `FileStore.not_diskFailed_answers`: in a directory of its own, and with names that fit, the disk does its work.
* `FileStore.answers_eq_expected`: a load finds what was saved last under ids with the same file names.
* `FileStore.answers_file`: the two stores agree where file names tell ids apart.
* `FileStore.answers_ne_of_clash`: they differ where file names do not.
-/

namespace StructuralDiff

namespace Store

/-- A call that can be made: now is a moment, the line numbers of what is saved are proper ones, and no
repository goes without a name. -/
structure Operation.Proper (call : String × Operation) : Prop where
  moment : (Moment.ofText? call.1).isSome
  lines : ∀ graph, call.2 = .save graph → graph.LinesFit
  named : ∀ ids ∈ call.2.ids, ids.1 ≠ ""

theorem proper_load {moment repoId snapshotId : String} (hmoment : (Moment.ofText? moment).isSome)
    (hrepo : repoId ≠ "") : Operation.Proper (moment, .load repoId snapshotId) where
  moment := hmoment
  lines _ h := by cases h
  named := List.forall_mem_singleton.2 hrepo

theorem proper_clear {moment : String} (hmoment : (Moment.ofText? moment).isSome) :
    Operation.Proper (moment, .clear) where
  moment := hmoment
  lines _ h := by cases h
  named := List.forall_mem_nil _

end Store

namespace FileStore

open StructuralDiff.Path StructuralDiff.Disk StructuralDiff.Store

variable {store : FileStore} {disk : Disk} {calls : List (String × Operation)}

/-- **In a directory of its own, and with names that fit, the disk does its work.** -/
theorem not_diskFailed_answers (hready : store.Ready disk)
    (hids : ∀ call ∈ calls, ∀ ids ∈ call.2.ids, ids.1 ≠ "" ∧ NamesFit (fileNames ids)) :
    ∀ answer ∈ answers (Store.file store) calls disk, ¬DiskFailed answer := by
  refine forall_mem_answers (fun call hcall state hlaid => ?_) hready.laid
  obtain ⟨moment, operation⟩ := call
  have hnames := hids _ hcall
  cases operation with
  | save graph =>
    obtain ⟨hrepo, hfit⟩ := hnames graph.ids (List.mem_singleton_self _)
    simp only [perform_save, Store.file, diskFailed_map]
    exact laid_save hlaid hready.toProper moment hrepo hfit
  | load repoId snapshotId =>
    obtain ⟨hrepo, hfit⟩ := hnames (repoId, snapshotId) (List.mem_singleton_self _)
    simp only [perform_load, Store.file]
    exact ⟨not_diskFailed_load hlaid hready.toProper (repoId, snapshotId) hrepo hfit, hlaid⟩
  | clear =>
    simp only [perform_clear, Store.file, diskFailed_map]
    exact laid_clear hlaid hready.toProper

/-- **As long as the disk does its work, a load finds what was saved last** under ids with the same file
names. -/
theorem answers_eq_expected (hcalls : ∀ call ∈ calls, Operation.Proper call) (hdirectory : store.directory ≠ "")
    (hempty : store.NoFiles disk)
    (hdisk : ∀ answer ∈ answers (Store.file store) calls disk, ¬DiskFailed answer) :
    answers (Store.file store) calls disk = expected fileNames [] (calls.map Prod.snd) := by
  refine Store.answers_eq_expected (fun call hcall past state hkeeps hgood => ?_) (hempty.keeps fun _ => rfl) hdisk
  obtain ⟨moment, operation⟩ := call
  have hproper := hcalls _ hcall
  cases operation with
  | save graph =>
    simp only [perform_save, Store.file, diskFailed_map] at hgood
    have hrepo := hproper.named graph.ids (List.mem_singleton_self _)
    obtain ⟨hdone, hkept⟩ := keeps_save hkeeps hproper.moment (hproper.lines graph rfl) hrepo hgood
    simp only [perform_save, Store.file, hdone]
    exact ⟨rfl, hkept⟩
  | load repoId snapshotId =>
    simp only [perform_load, Store.file] at hgood ⊢
    have hrepo := hproper.named (repoId, snapshotId) (List.mem_singleton_self _)
    exact ⟨load_eq_lastSaved hkeeps (repoId, snapshotId) hrepo hgood, keeps_load hkeeps repoId snapshotId⟩
  | clear =>
    simp only [perform_clear, Store.file, diskFailed_map] at hgood
    obtain ⟨hdone, hkept⟩ := keeps_clear hkeeps hdirectory hgood
    simp only [perform_clear, Store.file, hdone]
    exact ⟨rfl, hkept⟩

/-- **Files against memory.** As long as the disk does its work, which it does in a directory of its own when
names fit, a load from files finds what was saved last under ids with the same file names. So where file names
tell the ids of a history apart, the store in files answers like the one in memory. -/
theorem answers_file (hcalls : ∀ call ∈ calls, Operation.Proper call) (hdirectory : store.directory ≠ "")
    (hempty : store.NoFiles disk) :
    ((store.Ready disk ∧ ∀ call ∈ calls, ∀ ids ∈ call.2.ids, NamesFit (fileNames ids)) →
      ∀ answer ∈ answers (Store.file store) calls disk, ¬DiskFailed answer) ∧
    ((∀ answer ∈ answers (Store.file store) calls disk, ¬DiskFailed answer) →
      answers (Store.file store) calls disk = expected fileNames [] (calls.map Prod.snd) ∧
      ((∀ ids ∈ (calls.map Prod.snd).flatMap Operation.ids,
          ∀ other ∈ (calls.map Prod.snd).flatMap Operation.ids, fileNames other = fileNames ids → other = ids) →
        answers (Store.file store) calls disk = answers (fun _ => Store.memory) calls MemoryStore.empty)) := by
  refine ⟨fun ⟨hready, hfit⟩ => ?_, fun hdisk => ?_⟩
  · exact not_diskFailed_answers hready fun call hcall ids hids =>
      ⟨(hcalls call hcall).named ids hids, hfit call hcall ids hids⟩
  · have hexpected := answers_eq_expected hcalls hdirectory hempty hdisk
    refine ⟨hexpected, fun hdistinct => ?_⟩
    rw [hexpected, answers_memory, expected_congr hdistinct]

/-! ### Where names tell ids apart -/

/-- A directory in the working directory. -/
def ownDirectory : FileStore :=
  { here := [], directory := "store" }

/-- A disk on which it is there, with nothing in it. -/
def ownDisk : Disk :=
  ⟨[(["store"], .directory)]⟩

theorem ready_ownDirectory : ownDirectory.Ready ownDisk := by
  have hnames : components ownDirectory.directory = ["store"] := by decide
  refine { named := ?_, plain := ?_, goodPath := by decide, removable := by decide, way := ?_, vacant := ?_ }
  · rw [hnames]
    exact List.cons_ne_nil _ _
  · rw [hnames, List.forall_mem_singleton]
    exact ⟨by decide, by decide⟩
  · intro front hfront
    rw [hnames, List.prefix_cons_iff] at hfront
    rcases hfront with rfl | ⟨rest, rfl, hrest⟩
    · rfl
    · rw [List.prefix_nil.1 hrest]
      rfl
  · intro rest hrest
    have hroot : ownDirectory.root = ["store"] := by
      rw [root, hnames]
      rfl
    obtain ⟨name, more, rfl⟩ := List.exists_cons_of_ne_nil hrest
    rw [hroot]
    rfl

/-- A snapshot of a file with one line. -/
def release (repoId snapshotId : String) : Snapshot where
  repoId := repoId
  snapshotId := snapshotId
  revision := "main"
  nodes := [
    { id := Node.makeId snapshotId .file "a.py" "a.py"
      kind := .file
      name := "a.py"
      qualifiedName := "a.py"
      filePath := "a.py"
      language := .python
      startLine := some 1
      endLine := some 1
      signature := none
      metadata := .empty
      snapshotId := snapshotId
      revision := "main" }]
  edges := []

theorem linesFit_release (repoId snapshotId : String) : (release repoId snapshotId).LinesFit := by
  have hone : ∀ line ∈ some 1, line < Bound.nat32 := by decide
  exact List.forall_mem_singleton.2 ⟨hone, hone⟩

/-- Two snapshots of a repository are saved and loaded, and then removed. -/
def releases : List (String × Operation) :=
  [("2024-05-01T12:00:00Z", .save (release "acme/web" "v1")),
    ("2024-05-01T12:00:01Z", .save (release "acme/web" "v2")),
    ("2024-05-01T12:00:02Z", .load "acme/web" "v1"),
    ("2024-05-01T12:00:03Z", .clear),
    ("2024-05-01T12:00:04Z", .load "acme/web" "v1")]

theorem proper_save_release {moment repoId snapshotId : String} (hmoment : (Moment.ofText? moment).isSome)
    (hrepo : repoId ≠ "") : Operation.Proper (moment, .save (release repoId snapshotId)) where
  moment := hmoment
  lines graph h := by
    obtain rfl := Operation.save.inj h
    exact linesFit_release repoId snapshotId
  named := List.forall_mem_singleton.2 hrepo

theorem proper_releases : ∀ call ∈ releases, Operation.Proper call := by
  have hweb : "acme/web" ≠ "" := by decide
  simp only [releases, List.forall_mem_cons]
  exact ⟨proper_save_release (by decide) hweb, proper_save_release (by decide) hweb,
    proper_load (by decide) hweb, proper_clear (by decide), proper_load (by decide) hweb, List.forall_mem_nil _⟩

theorem namesFit_releases : ∀ call ∈ releases, ∀ ids ∈ call.2.ids, NamesFit (fileNames ids) := by
  decide

theorem answers_file_releases :
    answers (Store.file ownDirectory) releases ownDisk =
      [.ok none, .ok none, .ok (some (release "acme/web" "v1")), .ok none, .ok none] ∧
    answers (Store.file ownDirectory) releases ownDisk =
      answers (fun _ => Store.memory) releases MemoryStore.empty := by
  obtain ⟨hgood, hagree⟩ := answers_file proper_releases (by decide : ownDirectory.directory ≠ "")
    ready_ownDirectory.noFiles
  obtain ⟨hexpected, hmemory⟩ := hagree (hgood ⟨ready_ownDirectory, namesFit_releases⟩)
  exact ⟨hexpected.trans (by rfl), hmemory (by decide)⟩

/-! ### Where they do not -/

/-- **Ids with the same file names tell the stores apart.** What is saved under the one is loaded under the
other from files, and not from memory. -/
theorem answers_of_clash (hready : store.Ready disk) {moment : String} {graph : Snapshot} {ids : String × String}
    (hsave : Operation.Proper (moment, .save graph)) (hids : ids.1 ≠ "") (hfit : NamesFit (fileNames ids))
    (hsame : fileNames graph.ids = fileNames ids) (hne : graph.ids ≠ ids) :
    answers (Store.file store) [(moment, .save graph), (moment, .load ids.1 ids.2)] disk =
      [.ok none, .ok (some graph)] ∧
    answers (fun _ => Store.memory) [(moment, .save graph), (moment, .load ids.1 ids.2)] MemoryStore.empty =
      [.ok none, .ok none] := by
  have hcalls : ∀ call ∈ [(moment, Operation.save graph), (moment, .load ids.1 ids.2)],
      Operation.Proper call := by
    exact List.forall_mem_cons.2 ⟨hsave, List.forall_mem_singleton.2 (proper_load hsave.moment hids)⟩
  have hnames : ∀ call ∈ [(moment, Operation.save graph), (moment, .load ids.1 ids.2)],
      ∀ other ∈ call.2.ids, other.1 ≠ "" ∧ NamesFit (fileNames other) := by
    have hrepo := hsave.named graph.ids (List.mem_singleton_self _)
    refine List.forall_mem_cons.2 ⟨List.forall_mem_singleton.2 ⟨hrepo, hsame ▸ hfit⟩, ?_⟩
    exact List.forall_mem_singleton.2 (List.forall_mem_singleton.2 ⟨hids, hfit⟩)
  constructor
  · rw [answers_eq_expected hcalls hready.directory_ne_empty hready.noFiles
      (not_diskFailed_answers hready hnames)]
    simp [expected, expectedAnswer, lastSaved, hsame]
  · rw [answers_memory]
    simp [expected, expectedAnswer, lastSaved, hne]

/-- A slash and an underscore. -/
theorem answers_file_ne_memory :
    answers (Store.file ownDirectory)
        [("2024-05-01T12:00:00Z", .save (release "a/b" "s")), ("2024-05-01T12:00:00Z", .load "a_b" "s")] ownDisk ≠
      answers (fun _ => Store.memory)
        [("2024-05-01T12:00:00Z", .save (release "a/b" "s")), ("2024-05-01T12:00:00Z", .load "a_b" "s")]
        MemoryStore.empty := by
  have hsave : Operation.Proper ("2024-05-01T12:00:00Z", .save (release "a/b" "s")) :=
    proper_save_release (by decide) (by decide)
  have hclash := answers_of_clash ready_ownDirectory hsave (by decide : ("a_b", "s").1 ≠ "") (by decide)
    (by decide) (by decide)
  rw [hclash.1, hclash.2]
  simp

end FileStore

end StructuralDiff
