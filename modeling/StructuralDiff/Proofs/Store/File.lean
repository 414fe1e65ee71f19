import StructuralDiff.Proofs.Store.Document
import StructuralDiff.Proofs.Store.History
import StructuralDiff.Proofs.Store.Layout

/-!
# What a store keeps in files

As long as the disk does its work, a load from files finds what was saved last under ids with the same file
names.

* `FileStore.save_cases`, `load_cases`, `clear_cases`: what a call does unless the disk fails.
* `FileStore.Keeps`: what the files below the directory of a store are after some calls.
* `FileStore.Keeps.put`, `keeps_save`, `load_eq_lastSaved`, `keeps_clear`: each call keeps it, and answers from it.
-/

namespace StructuralDiff.FileStore

open Disk

variable {store : FileStore} {disk : Disk}

/-- The document in a file. -/
def document? (bytes : ByteArray) : Option StoredDocument :=
  (Text.ofBytes? bytes).bind StoredDocument.ofText?

/-! ### Single calls -/

theorem save_eq {savedAt : String} {graph : Snapshot} {made written : Disk}
    (hmade : disk.makeDirectories store.here (parentPath (store.path (fileNames graph.ids))) = .ok made)
    (hwritten : made.write store.here (store.path (fileNames graph.ids))
      (StoredDocument.ofSnapshot savedAt graph).text.toUTF8 = .ok written) :
    store.save savedAt graph disk = (.ok (), written) := by
  unfold FileStore.save
  rw [graphPath_eq]
  rw [Snapshot.ids] at hmade hwritten
  simp only [hmade, hwritten]

/-- **A save** makes the directories on the way and writes the document, or the disk fails. -/
theorem save_cases (store : FileStore) (disk : Disk) (savedAt : String) (graph : Snapshot) :
    Store.DiskFailed (store.save savedAt graph disk).1 ∨ ∃ made found,
      disk.makeDirectories store.here (parentPath (store.path (fileNames graph.ids))) = .ok made ∧
        made.place store.here (store.path (fileNames graph.ids)) = .ok found ∧
          made.entry? found ≠ some .directory ∧
            store.save savedAt graph disk =
              (.ok (), made.put found (.file (StoredDocument.ofSnapshot savedAt graph).text.toUTF8)) := by
  cases hmade : disk.makeDirectories store.here (parentPath (store.path (fileNames graph.ids))) with
  | error cause =>
    rw [Snapshot.ids] at hmade
    unfold FileStore.save
    rw [graphPath_eq]
    simp only [hmade]
    exact .inl ⟨_, _, rfl⟩
  | ok made =>
    cases hwritten : made.write store.here (store.path (fileNames graph.ids))
        (StoredDocument.ofSnapshot savedAt graph).text.toUTF8 with
    | error cause =>
      rw [Snapshot.ids] at hmade hwritten
      unfold FileStore.save
      rw [graphPath_eq]
      simp only [hmade, hwritten]
      exact .inl ⟨_, _, rfl⟩
    | ok written =>
      have hsaved := save_eq hmade hwritten
      obtain ⟨found, hplace, hentry, rfl⟩ := write_eq_ok.1 hwritten
      exact .inr ⟨made, found, rfl, hplace, hentry, hsaved⟩

/-- **A load** finds no file, or what the file says, or the disk fails. -/
theorem load_cases (store : FileStore) (disk : Disk) (ids : String × String) :
    Store.DiskFailed (store.load ids.1 ids.2 disk) ∨
      (disk.read store.here (store.path (fileNames ids)) = .error .notFound ∧
        store.load ids.1 ids.2 disk = .ok none) ∨
      ∃ bytes, disk.read store.here (store.path (fileNames ids)) = .ok bytes ∧
        ∀ savedAt graph, document? bytes = some (.ofSnapshot savedAt graph) →
          store.load ids.1 ids.2 disk = .ok (some graph) := by
  unfold FileStore.load
  rw [graphPath_eq]
  dsimp only
  cases hread : disk.read store.here (store.path (fileNames (ids.1, ids.2))) with
  | error cause =>
    cases cause with
    | notFound => exact .inr (.inl ⟨rfl, rfl⟩)
    | notDirectory | isDirectory | badName => exact .inl ⟨_, _, rfl⟩
  | ok bytes =>
    refine .inr (.inr ⟨bytes, rfl, fun savedAt graph hdocument => ?_⟩)
    rw [document?] at hdocument
    simp [hdocument, StoredDocument.ofSnapshot]

/-- A load that finds a file, or none, does not fail because of the disk. -/
theorem not_diskFailed_load_of_read {ids : String × String}
    (h : ∀ cause, disk.read store.here (store.path (fileNames ids)) = .error cause → cause = .notFound) :
    ¬Store.DiskFailed (store.load ids.1 ids.2 disk) := by
  unfold FileStore.load
  rw [graphPath_eq]
  dsimp only
  cases hread : disk.read store.here (store.path (fileNames (ids.1, ids.2))) with
  | error cause =>
    obtain rfl := h cause hread
    exact Store.not_diskFailed_ok none
  | ok bytes =>
    dsimp only
    rintro ⟨path, cause, hfailed⟩
    split at hfailed
    · cases hfailed
    · split at hfailed <;> cases hfailed

/-- **A clear** finds no directory, or removes it with everything in it, or the disk fails. -/
theorem clear_cases (store : FileStore) (disk : Disk) : Store.DiskFailed (store.clear disk).1 ∨
    ((∀ found, disk.place store.here store.directory = .ok found → disk.entry? found ≠ some .directory) ∧
      store.clear disk = (.ok (), disk)) ∨
    ∃ found, disk.place store.here store.directory = .ok found ∧
      store.clear disk = (.ok (), disk.removeBelow found) := by
  rw [FileStore.clear, removeDirectory]
  cases hplace : disk.place store.here store.directory with
  | error cause =>
    cases cause with
    | notFound => exact .inr (.inl ⟨fun _ hfound => (by cases hfound), rfl⟩)
    | notDirectory | isDirectory | badName => exact .inl ⟨_, _, rfl⟩
  | ok found =>
    dsimp only
    cases hentry : disk.entry? found with
    | none =>
      refine .inr (.inl ⟨fun other hother => ?_, rfl⟩)
      rw [← Except.ok.inj hother, hentry]
      simp
    | some entry =>
      cases entry with
      | file bytes => exact .inl ⟨_, _, rfl⟩
      | directory =>
        dsimp only
        cases endsHere store.directory with
        | true => exact .inl ⟨_, _, rfl⟩
        | false => exact .inr (.inr ⟨found, rfl, rfl⟩)

/-! ### What the files are -/

/-- The files of a store after some calls: every file below its directory holds something that is still saved,
and what is still saved can be read from its file. -/
structure Keeps (store : FileStore) (past : List Store.Operation) (disk : Disk) : Prop where
  file : ∀ place bytes, store.root <+: place → disk.entry? place = some (.file bytes) →
    ∃ names graph, Store.lastSaved fileNames past names = some graph ∧ place = store.keptAt names
  saved : ∀ names graph, Store.lastSaved fileNames past names = some graph →
    AreFileNames names ∧ ∃ savedAt bytes, disk.read store.here (store.path names) = .ok bytes ∧
      document? bytes = some (.ofSnapshot savedAt graph)

variable {past : List Store.Operation}

/-- There are no files in the directory of a store. -/
def NoFiles (store : FileStore) (disk : Disk) : Prop :=
  ∀ place bytes, store.root <+: place → disk.entry? place ≠ some (.file bytes)

theorem NoFiles.keeps (h : store.NoFiles disk) (hpast : ∀ names, Store.lastSaved fileNames past names = none) :
    store.Keeps past disk where
  file place bytes hprefix hentry := absurd hentry (h place bytes hprefix)
  saved names graph hgraph := by
    rw [hpast names] at hgraph
    cases hgraph

/-- A load changes nothing. -/
theorem keeps_load (h : store.Keeps past disk) (repoId snapshotId : String) :
    store.Keeps (.load repoId snapshotId :: past) disk :=
  ⟨h.file, h.saved⟩

/-- **Unless the disk fails, a load answers with what was saved last** under ids with the same file names. -/
theorem load_eq_lastSaved (h : store.Keeps past disk) (ids : String × String) (hids : ids.1 ≠ "")
    (hload : ¬Store.DiskFailed (store.load ids.1 ids.2 disk)) :
    store.load ids.1 ids.2 disk = .ok (Store.lastSaved fileNames past (fileNames ids)) := by
  rcases load_cases store disk ids with hfailed | ⟨hread, hnone⟩ | ⟨bytes, hread, hfound⟩
  · exact absurd hfailed hload
  · rw [hnone]
    refine congrArg Except.ok (Eq.symm (Option.eq_none_iff_forall_ne_some.2 fun graph hgraph => ?_))
    obtain ⟨-, _, _, hread', -⟩ := h.saved _ graph hgraph
    rw [hread] at hread'
    cases hread'
  · have hnames := areFileNames hids
    obtain ⟨found, hplace, hentry⟩ := read_eq_ok.1 hread
    obtain rfl := store.eq_keptAt_of_place hnames hplace
    obtain ⟨names, graph, hgraph, hplaces⟩ := h.file _ bytes (store.root_prefix_keptAt _) hentry
    obtain rfl := store.keptAt_injective hplaces
    obtain ⟨-, savedAt, bytes', hread', hdocument⟩ := h.saved _ graph hgraph
    rw [hread] at hread'
    obtain rfl := Except.ok.inj hread'
    rw [hfound savedAt graph hdocument, hgraph]

/-- A document that is written at its place, after directories were made, adds one file and touches no other
one. -/
theorem Keeps.put (h : store.Keeps past disk) {made : Disk} {savedAt : String} {graph : Snapshot}
    {found : List String} {bytes : ByteArray} (hnames : AreFileNames (fileNames graph.ids))
    (hgrows : Grows disk made) (hplace : made.place store.here (store.path (fileNames graph.ids)) = .ok found)
    (hentry : made.entry? found ≠ some .directory)
    (hbytes : document? bytes = some (.ofSnapshot savedAt graph)) :
    store.Keeps (.save graph :: past) (made.put found (.file bytes)) := by
  -- the document goes to the one place for these names, and no directory gets lost
  have hkept := store.eq_keptAt_of_place hnames hplace
  have hfound : found ≠ [] := by
    rintro rfl
    exact hentry rfl
  have hput (other : List String) : Disk.entry? (made.put found (.file bytes)) other =
      if other = found then some (.file bytes) else made.entry? other := entry?_put hfound other
  have hdirectories (place : List String) (hdirectory : made.entry? place = some .directory) :
      Disk.entry? (made.put found (.file bytes)) place = some .directory := by
    have hother : place ≠ found := fun hsame => hentry (hsame ▸ hdirectory)
    rw [hput, if_neg hother, hdirectory]
  constructor
  · intro place other hprefix hfile
    rw [hput] at hfile
    by_cases hsame : place = found
    · refine ⟨fileNames graph.ids, graph, ?_, hsame.trans hkept⟩
      rw [Store.lastSaved, if_pos rfl]
    · rw [if_neg hsame] at hfile
      -- making directories adds no file, so this one was there before
      obtain ⟨names, last, hlast, rfl⟩ := h.file place other hprefix (hgrows.file_iff.1 hfile)
      refine ⟨names, last, ?_, rfl⟩
      rw [Store.lastSaved, if_neg, hlast]
      rintro rfl
      exact hsame hkept.symm
  · intro names last hlast
    rw [Store.lastSaved] at hlast
    split at hlast
    · next hsame =>
      obtain rfl := Option.some.inj hlast
      subst hsame
      refine ⟨hnames, savedAt, bytes, read_eq_ok.2 ⟨found, place_mono hdirectories hplace, ?_⟩,
        hbytes⟩
      rw [hput, if_pos rfl]
    · next hother =>
      obtain ⟨hnames', savedAt', bytes', hread, hdocument⟩ := h.saved names last hlast
      obtain ⟨place, hplace', hfile⟩ := read_eq_ok.1 hread
      -- other names have another place, so their file is still the same
      have hplaces : place ≠ found := by
        rw [store.eq_keptAt_of_place hnames' hplace', hkept]
        exact fun heq => hother (store.keptAt_injective heq).symm
      have hmore (other : List String) (hdirectory : disk.entry? other = some .directory) :=
        hdirectories other (hgrows.directory hdirectory)
      refine ⟨hnames', savedAt', bytes',
        read_eq_ok.2 ⟨place, place_mono hmore hplace', ?_⟩, hdocument⟩
      rw [hput, if_neg hplaces]
      exact hgrows.file_iff.2 hfile

/-- **A save that the disk allows** adds its document. -/
theorem keeps_save (h : store.Keeps past disk) {savedAt : String} {graph : Snapshot}
    (hmoment : (Moment.ofText? savedAt).isSome) (hlines : graph.LinesFit) (hrepo : graph.repoId ≠ "")
    (hsave : ¬Store.DiskFailed (store.save savedAt graph disk).1) :
    (store.save savedAt graph disk).1 = .ok () ∧
      store.Keeps (.save graph :: past) (store.save savedAt graph disk).2 := by
  rcases save_cases store disk savedAt graph with
    hfailed | ⟨made, found, hmade, hplace, hentry, hsaved⟩
  · exact absurd hfailed hsave
  · have hdocument := StoredDocument.ofBytes?_text (StoredDocument.proper_ofSnapshot hmoment hlines)
    rw [hsaved]
    exact ⟨rfl, h.put (areFileNames hrepo) (grows_makeDirectories hmade) hplace hentry hdocument⟩

/-- **A clear that the disk allows** leaves no file. -/
theorem keeps_clear (h : store.Keeps past disk) (hdirectory : store.directory ≠ "")
    (hclear : ¬Store.DiskFailed (store.clear disk).1) :
    (store.clear disk).1 = .ok () ∧ store.Keeps (.clear :: past) (store.clear disk).2 := by
  suffices (store.clear disk).1 = .ok () ∧ store.NoFiles (store.clear disk).2 from
    ⟨this.1, this.2.keeps fun _ => rfl⟩
  rcases clear_cases store disk with hfailed | ⟨hmissing, hsame⟩ | ⟨found, hplace, hremoved⟩
  · exact absurd hfailed hclear
  · rw [hsame]
    refine ⟨rfl, fun place bytes hprefix hfile => ?_⟩
    -- the path of a file leads through the directory
    obtain ⟨names, graph, hgraph, -⟩ := h.file place bytes hprefix hfile
    obtain ⟨hnames, _, _, hread, -⟩ := h.saved names graph hgraph
    obtain ⟨_, hplace, -⟩ := read_eq_ok.1 hread
    obtain ⟨hroot, hentry⟩ := store.place_directory hnames hdirectory hplace
    exact hmissing _ hroot hentry
  · rw [hremoved, store.eq_root_of_place hdirectory hplace]
    refine ⟨rfl, fun place bytes hprefix hfile => ?_⟩
    have hplace : place ≠ [] := by
      rintro rfl
      cases hfile
    rw [entry?_removeBelow hplace, if_pos hprefix] at hfile
    cases hfile

end StructuralDiff.FileStore
