import StructuralDiff.Proofs.Store.File

/-!
# A directory of its own

Below the directory of a store there are at most two levels of directories, and files on the third. So long as
nothing else is put there and names are short, the disk never fails.

* `FileStore.Proper`: a directory that can be removed and made again.
* `FileStore.NamesFit`: file names with a directory and a file of their own.
* `FileStore.NamesAllowed`: file names that a disk can have, `place_path_eq`, `makeDirectories_eq`: the way of their
  path.
* `FileStore.Laid`, `FileStore.Ready`: how directories and files lie.
* `FileStore.laid_save`, `not_diskFailed_load`, `laid_clear`: the disk does not fail, and leaves them so.
-/

namespace StructuralDiff.FileStore

open StructuralDiff.Path StructuralDiff.Disk

/-- A path of names to a directory that can be removed, and made again when it is missing. -/
structure Proper (store : FileStore) : Prop where
  named : components store.directory ≠ []
  plain : ∀ name ∈ components store.directory, IsPlain name
  goodPath : isBadPath store.directory = false
  removable : endsHere store.directory = false

/-- Names that lead into a directory of the repository, and to a file in it. -/
structure NamesFit (names : String × String) : Prop where
  ne_here : names.1 ≠ "."
  repo : IsPlain names.1
  document : isBadName (documentName names) = false
  goodRepo : isBadPath names.1 = false
  goodDocument : isBadPath (documentName names) = false

instance (names : String × String) : Decidable (NamesFit names) :=
  decidable_of_iff (names.1 ≠ "." ∧ IsPlain names.1 ∧ isBadName (documentName names) = false ∧
      isBadPath names.1 = false ∧ isBadPath (documentName names) = false)
    ⟨fun h => ⟨h.1, h.2.1, h.2.2.1, h.2.2.2.1, h.2.2.2.2⟩, fun h => ⟨h.1, h.2, h.3, h.4, h.5⟩⟩

/-- Names that a disk can have: they are not too long and hold no zero character. -/
structure NamesAllowed (names : String × String) : Prop where
  repo : isBadName names.1 = false
  document : isBadName (documentName names) = false
  goodRepo : isBadPath names.1 = false
  goodDocument : isBadPath (documentName names) = false

instance (names : String × String) : Decidable (NamesAllowed names) :=
  decidable_of_iff (isBadName names.1 = false ∧ isBadName (documentName names) = false ∧
      isBadPath names.1 = false ∧ isBadPath (documentName names) = false)
    ⟨fun h => ⟨h.1, h.2.1, h.2.2.1, h.2.2.2⟩, fun h => ⟨h.1, h.2, h.3, h.4⟩⟩

theorem NamesFit.allowed {names : String × String} (h : NamesFit names) : NamesAllowed names :=
  ⟨h.repo.notBad, h.document, h.goodRepo, h.goodDocument⟩

/-- The directories to the one of the store are there; below it there are no files on the first two levels,
and no directories on the third. -/
structure Laid (store : FileStore) (disk : Disk) : Prop where
  way : ∀ front, front <+: components store.directory → front ≠ components store.directory →
    disk.entry? (store.start ++ front) = some .directory
  notFile : ∀ rest, rest.length ≤ 2 → ∀ bytes, disk.entry? (store.root ++ rest) ≠ some (.file bytes)
  notDirectory : ∀ rest, rest.length = 3 → disk.entry? (store.root ++ rest) ≠ some .directory

variable {store : FileStore} {disk : Disk} {names : String × String}

theorem Proper.directory_ne_empty (h : store.Proper) : store.directory ≠ "" := by
  intro hempty
  exact h.named (by rw [hempty, components_empty])

theorem Proper.root_eq (h : store.Proper) : store.root = store.start ++ components store.directory :=
  resolve_of_plain h.plain

/-- The directory of a store is there, and nothing is in it. -/
structure Ready (store : FileStore) (disk : Disk) : Prop extends store.Proper where
  way : ∀ front, front <+: components store.directory →
    disk.entry? (store.start ++ front) = some .directory
  vacant : ∀ rest, rest ≠ [] → disk.entry? (store.root ++ rest) = none

theorem Ready.noFiles (h : store.Ready disk) : store.NoFiles disk := by
  rintro _ bytes ⟨rest, rfl⟩ hfile
  by_cases hrest : rest = []
  · have hroot := h.way _ (List.prefix_refl _)
    rw [hrest, List.append_nil, h.root_eq, hroot] at hfile
    cases hfile
  · rw [h.vacant rest hrest] at hfile
    cases hfile

theorem Ready.laid (h : store.Ready disk) : store.Laid disk where
  way front hfront _ := h.way front hfront
  notFile rest _ bytes := h.noFiles _ bytes (List.prefix_append _ rest)
  notDirectory rest hlength hdirectory := by
    have hrest : rest ≠ [] := List.ne_nil_of_length_pos (by omega)
    rw [h.vacant rest hrest] at hdirectory
    cases hdirectory

theorem NamesFit.below_eq (h : NamesFit names) : below names = ["graphs", names.1] ++ [documentName names] := by
  simp [below, h.ne_here]

theorem NamesFit.length_below (h : NamesFit names) : (below names).length = 3 := by
  rw [h.below_eq]
  rfl

theorem NamesFit.directoriesBelow_eq (h : NamesFit names) (hnames : AreFileNames names) :
    directoriesBelow names = ["graphs", names.1] := by
  simp [directoriesBelow, h.ne_here, hnames.ne_empty]

theorem NamesAllowed.isPlain_documentName (h : NamesAllowed names) : IsPlain (documentName names) :=
  ⟨(documentName_ne names).2.2, h.document⟩

/-- The names of the directories to a snapshot. -/
theorem NamesFit.isPlain_way (h : NamesFit names) (hstore : store.Proper) :
    ∀ name ∈ components store.directory ++ ["graphs", names.1], IsPlain name := by
  have hgraphs : IsPlain "graphs" := ⟨by decide, by decide⟩
  simp only [List.forall_mem_append, List.forall_mem_cons]
  exact ⟨hstore.plain, hgraphs, h.repo, List.forall_mem_nil _⟩

/-- A way through the directory of the store is free of files, if it is up to there and below. -/
theorem Proper.passable (hstore : store.Proper) {more : List String}
    (hway : ∀ front, front <+: components store.directory → ∀ bytes,
      disk.entry? (store.start ++ front) ≠ some (.file bytes))
    (hmore : ∀ rest, rest <+: more → ∀ bytes, disk.entry? (store.root ++ rest) ≠ some (.file bytes)) :
    disk.Passable store.start (components store.directory ++ more) := by
  intro front hfront bytes
  rcases List.prefix_or_prefix_of_prefix hfront (List.prefix_append _ _) with hbefore | ⟨rest, rfl⟩
  · exact hway front hbefore bytes
  · have hbelow := hmore rest ((List.prefix_append_right_inj _).1 hfront) bytes
    rwa [hstore.root_eq, List.append_assoc] at hbelow

/-- No file is in the way to a snapshot. -/
theorem Laid.passable (h : store.Laid disk) (hstore : store.Proper) (repo : String) :
    disk.Passable store.start (components store.directory ++ ["graphs", repo]) := by
  refine hstore.passable (fun front hfront bytes hfile => ?_) fun rest hrest => h.notFile rest hrest.length_le
  by_cases hall : front = components store.directory
  · refine h.notFile [] (Nat.zero_le 2) bytes ?_
    rw [hstore.root_eq, List.append_nil, ← hall, hfile]
  · rw [h.way front hfront hall] at hfile
    cases hfile

/-! ### The way of a path -/

theorem isBadPath_path_of_allowed (hstore : store.Proper) (hnames : AreSlashFree names)
    (hallowed : NamesAllowed names) : isBadPath (store.path names) = false := by
  rw [isBadPath_path store hnames, hstore.goodPath, hallowed.goodRepo, hallowed.goodDocument]
  rfl

/-- A path leads where its names lead. -/
theorem place_path_eq (hstore : store.Proper) (hnames : AreSlashFree names) (hallowed : NamesAllowed names) :
    disk.place store.here (store.path names) = disk.walk store.start
      (components store.directory ++ directoriesBelow names ++ [documentName names]) := by
  rw [place, if_neg (by simpa using store.path_ne_empty hnames),
    isBadPath_path_of_allowed hstore hnames hallowed, store.origin_path hnames, store.components_path_eq hnames]
  rfl

/-- The directories to a snapshot are made along the way to it. -/
theorem makeDirectories_eq (hstore : store.Proper) (hnames : AreSlashFree names) (hallowed : NamesAllowed names) :
    disk.makeDirectories store.here (parentPath (store.path names)) =
      disk.makeWay store.start (components store.directory ++ directoriesBelow names) := by
  have hgood := isBadPath_path_of_allowed hstore hnames hallowed
  have hparent : isBadPath (parentPath (store.path names)) = false := by
    rw [isBadPath, Bool.eq_false_iff, ne_eq, List.contains_iff_mem] at hgood ⊢
    exact fun hzero => hgood (mem_parentPath (by decide) hzero)
  have horigin : origin store.here (parentPath (store.path names)) = store.start := by
    rw [origin, beginsWith_parentPath, ← store.origin_path hnames, origin]
  rw [makeDirectories, hparent, horigin, components_parentPath, store.components_path_eq hnames,
    List.dropLast_concat]
  rfl

theorem place_path_of_proper (hstore : store.Proper) (hnames : AreFileNames names) (hfit : NamesFit names) :
    disk.place store.here (store.path names) = disk.walk store.start
      ((components store.directory ++ ["graphs", names.1]) ++ [documentName names]) := by
  rw [place_path_eq hstore hnames.areSlashFree hfit.allowed, hfit.directoriesBelow_eq hnames]

theorem makeDirectories_of_proper (hstore : store.Proper) (hnames : AreFileNames names) (hfit : NamesFit names) :
    disk.makeDirectories store.here (parentPath (store.path names)) =
      disk.makeWay store.start (components store.directory ++ ["graphs", names.1]) := by
  rw [makeDirectories_eq hstore hnames.areSlashFree hfit.allowed, hfit.directoriesBelow_eq hnames]

/-! ### Loads -/

/-- The place of a snapshot is found, or nothing is. -/
theorem place_path_cases (h : store.Laid disk) (hstore : store.Proper) (hnames : AreFileNames names)
    (hfit : NamesFit names) :
    disk.place store.here (store.path names) = .ok (store.root ++ below names) ∨
      disk.place store.here (store.path names) = .error .notFound := by
  have hwalk := walk_of_passable (hfit.isPlain_way hstore) hfit.allowed.isPlain_documentName (h.passable hstore names.1)
  rw [place_path_of_proper hstore hnames hfit, hstore.root_eq, hfit.below_eq]
  simpa only [List.append_assoc] using hwalk

/-- **A load** meets no directory where the file should be. -/
theorem not_diskFailed_load (h : store.Laid disk) (hstore : store.Proper) (ids : String × String)
    (hids : ids.1 ≠ "") (hfit : NamesFit (fileNames ids)) :
    ¬Store.DiskFailed (store.load ids.1 ids.2 disk) := by
  have hfile := h.notDirectory _ hfit.length_below
  refine not_diskFailed_load_of_read fun cause hcause => ?_
  rw [Disk.read] at hcause
  rcases place_path_cases h hstore (areFileNames hids) hfit with hplace | hnone
  · rw [hplace] at hcause
    dsimp only at hcause
    cases hentry : disk.entry? (store.root ++ below (fileNames ids)) with
    | none =>
      rw [hentry] at hcause
      exact (Except.error.inj hcause).symm
    | some entry =>
      cases entry with
      | file bytes =>
        rw [hentry] at hcause
        cases hcause
      | directory => exact absurd hentry hfile
  · rw [hnone] at hcause
    exact (Except.error.inj hcause).symm

/-! ### Saves -/

/-- New directories may lie anywhere but on the third level. -/
theorem Laid.grow (h : store.Laid disk) {made : Disk} (hgrows : Grows disk made)
    (hsame : ∀ rest, rest.length = 3 → made.entry? (store.root ++ rest) = disk.entry? (store.root ++ rest)) :
    store.Laid made where
  way front hfront hne := hgrows.directory (h.way front hfront hne)
  notFile rest hrest bytes hfile := h.notFile rest hrest bytes (hgrows.file_iff.1 hfile)
  notDirectory rest hrest := hsame rest hrest ▸ h.notDirectory rest hrest

/-- New files may lie on the third level. -/
theorem Laid.put (h : store.Laid disk) (hstore : store.Proper) {file : List String} (hfile : file.length = 3)
    (bytes : ByteArray) : store.Laid (disk.put (store.root ++ file) (.file bytes)) := by
  have hput (other : List String) : Disk.entry? (disk.put (store.root ++ file) (.file bytes)) other =
      if other = store.root ++ file then some (.file bytes) else disk.entry? other := by
    refine entry?_put (fun hnil => ?_) other
    have hlength := congrArg List.length hnil
    simp [hfile] at hlength
  constructor
  · intro front hfront hne
    have hother : store.start ++ front ≠ store.root ++ file := by
      intro hsame
      have hlength := congrArg List.length hsame
      have hshort := hfront.length_le
      simp only [hstore.root_eq, List.length_append, hfile] at hlength
      omega
    rw [hput, if_neg hother, h.way front hfront hne]
  · intro rest hrest other
    have hother : store.root ++ rest ≠ store.root ++ file := by
      intro hsame
      have hlength := congrArg List.length (List.append_cancel_left hsame)
      omega
    rw [hput, if_neg hother]
    exact h.notFile rest hrest other
  · intro rest hrest
    rw [hput]
    split
    · simp
    · exact h.notDirectory rest hrest

/-- **A save** adds directories on the first two levels, and a file on the third. -/
theorem laid_save (h : store.Laid disk) (hstore : store.Proper) {graph : Snapshot} (savedAt : String)
    (hrepo : graph.repoId ≠ "") (hfit : NamesFit (fileNames graph.ids)) :
    ¬Store.DiskFailed (store.save savedAt graph disk).1 ∧ store.Laid (store.save savedAt graph disk).2 := by
  have hnames : AreFileNames (fileNames graph.ids) := areFileNames hrepo
  have hpassable := h.passable hstore (fileNames graph.ids).1
  have hstart : disk.entry? store.start = some .directory := by
    simpa using h.way [] List.nil_prefix (Ne.symm hstore.named)
  -- the directories are made
  obtain ⟨made, hway, hothers⟩ := exists_makeWay (hfit.isPlain_way hstore) hpassable
  have hmade := (makeDirectories_of_proper hstore hnames hfit).trans hway
  have hlaid : store.Laid made := by
    refine h.grow (grows_makeDirectories hmade) fun rest hrest => hothers _ fun hprefix => ?_
    have hlength := hprefix.length_le
    simp only [hstore.root_eq, List.length_append, List.length_cons, List.length_nil, hrest] at hlength
    omega
  -- the file is written
  have hplace : made.place store.here (store.path (fileNames graph.ids)) =
      .ok (store.root ++ below (fileNames graph.ids)) := by
    have hwalk := walk_makeWay (hfit.isPlain_way hstore) hfit.allowed.isPlain_documentName hstart hpassable hway
    rw [place_path_of_proper hstore hnames hfit, hwalk, hstore.root_eq, hfit.below_eq]
    simp only [List.append_assoc]
  have hlevel := hfit.length_below
  rw [save_eq hmade (write_eq_ok.2 ⟨_, hplace, hlaid.notDirectory _ hlevel, rfl⟩)]
  exact ⟨Store.not_diskFailed_ok _, hlaid.put hstore hlevel _⟩

/-! ### Clears -/

theorem Laid.removeBelow (h : store.Laid disk) (hstore : store.Proper) :
    store.Laid (disk.removeBelow store.root) := by
  have hgone (rest : List String) : Disk.entry? (disk.removeBelow store.root) (store.root ++ rest) = none := by
    have hroot : store.root ++ rest ≠ [] := by
      rw [hstore.root_eq]
      simp [hstore.named]
    rw [entry?_removeBelow hroot, if_pos (List.prefix_append _ _)]
  constructor
  · intro front hfront hne
    by_cases hempty : store.start ++ front = []
    · rw [hempty]
      rfl
    · have hkept : ¬store.root <+: store.start ++ front := by
        intro hprefix
        rw [hstore.root_eq, List.prefix_append_right_inj] at hprefix
        exact hne (hfront.eq_of_length_le hprefix.length_le)
      rw [entry?_removeBelow hempty, if_neg hkept, h.way front hfront hne]
  · intro rest _ bytes
    rw [hgone]
    simp
  · intro rest _
    rw [hgone]
    simp

/-- The place of the directory is found, or nothing is. -/
theorem place_directory_cases (h : store.Laid disk) (hstore : store.Proper) :
    disk.place store.here store.directory = .ok store.root ∨
      disk.place store.here store.directory = .error .notFound := by
  have hlast := List.dropLast_append_getLast hstore.named
  have hplain : ∀ name ∈ (components store.directory).dropLast, IsPlain name := fun name hname =>
    hstore.plain name (List.dropLast_subset _ hname)
  have hpassable : disk.Passable store.start (components store.directory).dropLast := by
    intro front hfront bytes hfile
    have hstrict : front ≠ components store.directory := by
      intro hall
      have hlength := hfront.length_le
      have hpositive := List.length_pos_of_ne_nil hstore.named
      rw [hall, List.length_dropLast] at hlength
      omega
    rw [h.way front (hfront.trans (List.dropLast_prefix _)) hstrict] at hfile
    cases hfile
  have hwalk := walk_of_passable hplain (hstore.plain _ (List.getLast_mem hstore.named)) hpassable
  rw [hlast, ← hstore.root_eq] at hwalk
  rw [place, if_neg (by simpa using hstore.directory_ne_empty), hstore.goodPath]
  exact hwalk

/-- **A clear** removes the directory of the store, if it is there. -/
theorem laid_clear (h : store.Laid disk) (hstore : store.Proper) :
    ¬Store.DiskFailed (store.clear disk).1 ∧ store.Laid (store.clear disk).2 := by
  rw [FileStore.clear, removeDirectory]
  rcases place_directory_cases h hstore with hplace | hnone
  · rw [hplace]
    dsimp only
    cases hentry : disk.entry? store.root with
    | none => exact ⟨Store.not_diskFailed_ok _, h⟩
    | some entry =>
      cases entry with
      | file bytes => exact absurd (by rwa [List.append_nil]) (h.notFile [] (Nat.zero_le 2) bytes)
      | directory =>
        rw [hstore.removable]
        exact ⟨Store.not_diskFailed_ok _, h.removeBelow hstore⟩
  · rw [hnone]
    exact ⟨Store.not_diskFailed_ok _, h⟩

end StructuralDiff.FileStore
