import StructuralDiff.Proofs.Disk
import StructuralDiff.Proofs.Path
import StructuralDiff.Store.File

/-!
# Where a store keeps its files

The path of a snapshot depends on its ids through their file names only. A file name may still be `.` or `..`,
which lead out of the directory that the repository should have; every pair of file names has a place of its
own all the same.

* `FileStore.fileNames`, `AreFileNames`: the names of the files for ids, and what they can be.
* `FileStore.keptAt`, `keptAt_injective`: the place of a snapshot, one for each pair of file names.
* `FileStore.components_path_eq`: the names on the way of a path.
* `FileStore.place_path_eq_ok`, `eq_keptAt_of_place`: when the path of a snapshot leads anywhere, it leads to its place.
* `FileStore.place_directory`: it leads through the directory of the store.
-/

namespace StructuralDiff.FileStore

open StructuralDiff.Path StructuralDiff.Disk

/-! ### File names -/

/-- The names of the files for ids. -/
def fileNames (ids : String × String) : String × String :=
  (fileName ids.1, fileName ids.2)

/-- What the names of the files for ids can be. -/
structure AreFileNames (names : String × String) : Prop where
  repo : SlashFree names.1
  snapshot : SlashFree names.2
  ne_empty : names.1 ≠ ""

theorem slashFree_fileName (id : String) : SlashFree (fileName id) := by
  rw [SlashFree, fileName, String.toList_ofList, List.mem_map]
  rintro ⟨c, -, hc⟩
  split at hc
  · exact absurd hc (by decide)
  · next hkept =>
    rw [hc] at hkept
    exact hkept (by decide)

theorem fileName_eq_empty_iff {id : String} : fileName id = "" ↔ id = "" := by
  rw [fileName, ← String.toList_inj, String.toList_ofList, ← String.toList_inj]
  exact List.map_eq_nil_iff

theorem areFileNames {ids : String × String} (h : ids.1 ≠ "") : AreFileNames (fileNames ids) :=
  ⟨slashFree_fileName ids.1, slashFree_fileName ids.2, fun hempty => h (fileName_eq_empty_iff.1 hempty)⟩

/-- The name of the file of a snapshot. -/
def documentName (names : String × String) : String :=
  names.2 ++ ".json"

theorem getLast?_documentName (names : String × String) : (documentName names).toList.getLast? = some 'n' := by
  rw [documentName, String.toList_append]
  exact List.getLast?_append_of_ne_nil _ (by decide)

theorem documentName_ne (names : String × String) :
    documentName names ≠ "" ∧ documentName names ≠ "." ∧ documentName names ≠ ".." := by
  have hlast {name : String} (h : documentName names = name) : name.toList.getLast? = some 'n' :=
    h ▸ getLast?_documentName names
  refine ⟨fun h => ?_, fun h => ?_, fun h => ?_⟩ <;> exact absurd (hlast h) (by decide)

theorem documentName_eq_iff (names other : String × String) :
    documentName names = documentName other ↔ names.2 = other.2 := by
  rw [documentName, documentName, ← String.toList_inj, String.toList_append, String.toList_append,
    List.append_cancel_right_eq, String.toList_inj]

/-- Names that bring no slash into a path. -/
structure AreSlashFree (names : String × String) : Prop where
  repo : SlashFree names.1
  document : SlashFree (documentName names)

theorem areSlashFree_of_snapshot {names : String × String} (hrepo : SlashFree names.1)
    (hsnapshot : SlashFree names.2) : AreSlashFree names where
  repo := hrepo
  document := by
    rw [SlashFree, documentName, String.toList_append, List.mem_append, not_or]
    exact ⟨hsnapshot, by decide⟩

theorem areSlashFree (ids : String × String) : AreSlashFree (fileNames ids) :=
  areSlashFree_of_snapshot (slashFree_fileName ids.1) (slashFree_fileName ids.2)

theorem AreFileNames.areSlashFree {names : String × String} (h : AreFileNames names) : AreSlashFree names :=
  areSlashFree_of_snapshot h.repo h.snapshot

/-! ### Paths and places -/

variable (store : FileStore) {names : String × String} {disk : Disk}

/-- The place where the paths of a store begin. -/
def start : List String :=
  origin store.here store.directory

/-- The place to which the directory of a store leads. -/
def root : List String :=
  resolve store.start (components store.directory)

/-- The path of the snapshot with the file names. -/
def path (names : String × String) : String :=
  join (join (join store.directory "graphs") names.1) (documentName names)

theorem graphPath_eq (repoId snapshotId : String) :
    graphPath store.directory repoId snapshotId = store.path (fileNames (repoId, snapshotId)) := rfl

/-- The names on the way from the directory of the store. -/
def below (names : String × String) : List String :=
  "graphs" :: ((if names.1 = "." then [] else [names.1]) ++ [documentName names])

/-- The directories on the way from the directory of the store. A repository whose file name stands for nothing
has none of its own. -/
def directoriesBelow (names : String × String) : List String :=
  "graphs" :: [names.1].filter fun part => part != "" && part != "."

/-- The place of the snapshot with the file names. -/
def keptAt (names : String × String) : List String :=
  resolve store.root (below names)

theorem keptAt_eq (names : String × String) : store.keptAt names = store.root ++
    if names.1 = ".." then [documentName names] else below names := by
  have hdocument := (documentName_ne names).2.2
  have hgraphs : "graphs" ≠ ".." := by decide
  by_cases hhere : names.1 = "."
  · have hparent : names.1 ≠ ".." := by
      rw [hhere]
      decide
    simp [keptAt, below, resolve, hhere, hdocument]
  · by_cases hparent : names.1 = ".." <;> simp [keptAt, below, resolve, hhere, hparent, hdocument]

theorem root_prefix_keptAt (names : String × String) : store.root <+: store.keptAt names := by
  rw [keptAt_eq]
  exact List.prefix_append _ _

/-- **Every pair of file names has a place of its own.** -/
theorem keptAt_injective : Function.Injective store.keptAt := by
  intro names other h
  rw [keptAt_eq, keptAt_eq, List.append_cancel_left_eq] at h
  -- the number of names on the way tells the three kinds of repositories apart
  have hsplit : names.1 = other.1 ∧ documentName names = documentName other := by
    simp only [below] at h
    by_cases hparent : names.1 = ".." <;> by_cases hparent' : other.1 = ".." <;>
      by_cases hhere : names.1 = "." <;> by_cases hhere' : other.1 = "." <;> simp_all
  exact Prod.ext hsplit.1 ((documentName_eq_iff names other).1 hsplit.2)

/-- The way of a path is that of the directory of the store, and then the one below it. -/
theorem components_path_eq (h : AreSlashFree names) : components (store.path names) =
    components store.directory ++ directoriesBelow names ++ [documentName names] := by
  have hdocument := documentName_ne names
  have hgraphs : SlashFree "graphs" := by decide
  rw [path, components_join h.document, components_join h.repo, components_join hgraphs]
  simp [directoriesBelow, hdocument.1, hdocument.2.1]

theorem components_path (h : AreFileNames names) :
    components (store.path names) = components store.directory ++ below names := by
  have hrepo : [names.1].filter (fun part => part != "" && part != ".") =
      if names.1 = "." then [] else [names.1] := by
    by_cases hhere : names.1 = "." <;> simp [hhere, h.ne_empty]
  rw [store.components_path_eq h.areSlashFree, directoriesBelow, hrepo, List.append_assoc]
  rfl

theorem origin_path (h : AreSlashFree names) : origin store.here (store.path names) = store.start := by
  have hgraphs : SlashFree "graphs" := by decide
  rw [start, origin, origin, path, beginsWith_join h.document, beginsWith_join h.repo, beginsWith_join hgraphs]

theorem path_ne_empty (h : AreSlashFree names) : store.path names ≠ "" := by
  intro hempty
  have hcomponents := store.components_path_eq h
  rw [hempty, components_empty] at hcomponents
  simp at hcomponents

theorem isBadPath_join {name : String} (hname : SlashFree name) (directory : String) :
    isBadPath (join directory name) = (isBadPath directory || isBadPath name) := by
  have hzero : '\x00' ≠ '/' := by decide
  have hmem := mem_join hname hzero directory
  rw [Bool.eq_iff_iff, Bool.or_eq_true]
  simpa only [isBadPath, List.contains_iff_mem] using hmem

/-- A path is as bad as its parts. -/
theorem isBadPath_path (h : AreSlashFree names) : isBadPath (store.path names) =
    (isBadPath store.directory || isBadPath names.1 || isBadPath (documentName names)) := by
  have hgraphs : SlashFree "graphs" := by decide
  have hplain : isBadPath "graphs" = false := by decide
  rw [path, isBadPath_join h.document, isBadPath_join h.repo, isBadPath_join hgraphs, hplain,
    Bool.or_false]

/-- **When the path of a snapshot leads anywhere**, it leads to the place of the snapshot. -/
theorem place_path_eq_ok (h : AreFileNames names) {found : List String} :
    disk.place store.here (store.path names) = .ok found ↔ isBadPath (store.path names) = false ∧
      disk.walk store.start (components store.directory ++ below names) = .ok found := by
  rw [place, if_neg (by simpa using store.path_ne_empty h.areSlashFree), store.origin_path h.areSlashFree,
    store.components_path h]
  cases isBadPath (store.path names) <;> simp

theorem eq_keptAt_of_place (h : AreFileNames names) {found : List String}
    (hplace : disk.place store.here (store.path names) = .ok found) : found = store.keptAt names := by
  have hwalk := ((store.place_path_eq_ok h).1 hplace).2
  rw [eq_resolve_of_walk hwalk, resolve_append]
  rfl

theorem eq_root_of_place (hdirectory : store.directory ≠ "") {found : List String}
    (hplace : disk.place store.here store.directory = .ok found) : found = store.root := by
  rw [place, if_neg (by simpa using hdirectory)] at hplace
  split at hplace
  · cases hplace
  · exact eq_resolve_of_walk hplace

/-- **The path of a snapshot leads through the directory of the store.** -/
theorem place_directory (h : AreFileNames names) (hdirectory : store.directory ≠ "") {found : List String}
    (hplace : disk.place store.here (store.path names) = .ok found) :
    disk.place store.here store.directory = .ok store.root ∧
      disk.entry? store.root = some .directory := by
  obtain ⟨hbad, hwalk⟩ := (store.place_path_eq_ok h).1 hplace
  obtain ⟨hroot, hbelow⟩ := walk_append_eq_ok.1 hwalk
  rw [isBadPath_path store h.areSlashFree, Bool.or_eq_false_iff, Bool.or_eq_false_iff] at hbad
  refine ⟨?_, (walk_cons_eq_ok.1 hbelow).1⟩
  rw [place, if_neg (by simpa using hdirectory), hbad.1.1]
  exact hroot

end StructuralDiff.FileStore
