import StructuralDiff.Proofs.Store.Agreement

/-!
# Saving and loading

What is saved in files is loaded again as it was, and so is what is saved over it, whatever texts the snapshots
hold.

* `FileStore.exists_room`, `not_diskFailed_save`: a directory of its own has room for a snapshot with any ids whose
  file names a disk can have.
* `FileStore.Holds`, `holds_save`: what a save leaves on the disk.
* `FileStore.Holds.load`, `Holds.save`: it is loaded, and another snapshot can be saved over it.
* `FileStore.load_save`: a snapshot that was saved is loaded, and then the one that was saved over it.
-/

namespace StructuralDiff.FileStore

open StructuralDiff.Path StructuralDiff.Disk

variable {store : FileStore} {disk : Disk} {names : String × String}

/-! ### Room for any ids -/

/-- No file is in the way to a place below the directory of the store. -/
theorem Ready.passable (h : store.Ready disk) (names : List String) :
    disk.Passable store.start (components store.directory ++ names) := by
  refine h.toProper.passable (fun front hfront bytes hfile => ?_) fun rest _ bytes =>
    h.noFiles _ bytes (List.prefix_append _ _)
  rw [h.way front hfront] at hfile
  cases hfile

/-- Plain names of directories below the one of the store, and of a file in the last of them: the directories are
made, and the file is not there. -/
theorem Ready.exists_way (h : store.Ready disk) {directories : List String} {file : String}
    (hdirectories : ∀ name ∈ directories, IsPlain name) (hfile : IsPlain file) :
    ∃ made, disk.makeWay store.start (components store.directory ++ directories) = .ok made ∧
      made.walk store.start (components store.directory ++ directories ++ [file]) =
        .ok (store.root ++ (directories ++ [file])) ∧
      ∀ rest, rest ≠ [] → ¬rest <+: directories → made.entry? (store.root ++ rest) = none := by
  have hnames : ∀ name ∈ components store.directory ++ directories, IsPlain name :=
    List.forall_mem_append.2 ⟨h.plain, hdirectories⟩
  have hstart : disk.entry? store.start = some .directory := by
    simpa using h.way [] List.nil_prefix
  obtain ⟨made, hmade, hothers⟩ := exists_makeWay hnames (h.passable directories)
  refine ⟨made, hmade, ?_, fun rest hrest hnot => ?_⟩
  · rw [walk_makeWay hnames hfile hstart (h.passable directories) hmade, h.root_eq]
    simp only [List.append_assoc]
  · rw [hothers, h.vacant rest hrest]
    rwa [h.root_eq, ← List.append_assoc, List.prefix_append_right_inj]

/-- The same with a name of a directory from which the way goes back again. -/
theorem Ready.exists_wayBack (h : store.Ready disk) {directory file : String} (hdirectory : IsPlain directory)
    (hfile : IsPlain file) (hne : file ≠ directory) :
    ∃ made, disk.makeWay store.start (components store.directory ++ [directory, ".."]) = .ok made ∧
      made.walk store.start (components store.directory ++ [directory, ".."] ++ [file]) =
        .ok (store.root ++ [file]) ∧
      made.entry? (store.root ++ [file]) = none := by
  have hsplit (more : List String) : components store.directory ++ (directory :: more) =
      (components store.directory ++ [directory]) ++ more := by simp
  have hresolve : resolve store.start (components store.directory ++ [directory]) = store.root ++ [directory] := by
    rw [resolve_append, ← root, resolve, if_neg hdirectory.ne_parent]
    rfl
  obtain ⟨made, hmade, hwalk, hvacant⟩ := h.exists_way (List.forall_mem_singleton.2 hdirectory) hfile
  -- the walk to a file in the directory goes through both places that are met on the way back
  obtain ⟨hdown, hlast⟩ := walk_append_eq_ok.1 hwalk
  obtain ⟨-, hthrough⟩ := walk_append_eq_ok.1 hdown
  rw [hresolve] at hlast
  have hback : made.walk (store.root ++ [directory]) ["..", file] = .ok (store.root ++ [file]) := by
    refine walk_cons_eq_ok.2 ⟨(walk_cons_eq_ok.1 hlast).1, fun hparent => absurd rfl hparent, ?_⟩
    rw [if_pos rfl, List.dropLast_concat]
    refine walk_cons_eq_ok.2 ⟨(walk_cons_eq_ok.1 hthrough).1, fun _ => hfile.notBad, ?_⟩
    rw [if_neg hfile.ne_parent]
    rfl
  refine ⟨made, ?_, ?_, hvacant _ (List.cons_ne_nil _ _) ?_⟩
  · rw [hsplit, makeWay_concat_parent, hmade]
  · rw [hsplit, List.append_assoc]
    exact walk_append_eq_ok.2 ⟨hdown, hresolve ▸ hback⟩
  · simpa [List.prefix_cons_iff] using hne

/-- **A directory of its own has room** for a snapshot whose file names a disk can have. -/
theorem exists_room (h : store.Ready disk) (hnames : AreSlashFree names) (hallowed : NamesAllowed names) :
    ∃ made found, disk.makeDirectories store.here (parentPath (store.path names)) = .ok made ∧
      made.place store.here (store.path names) = .ok found ∧ made.entry? found ≠ some .directory := by
  have hgraphs : IsPlain "graphs" := ⟨by decide, by decide⟩
  have hdocument := hallowed.isPlain_documentName
  simp only [makeDirectories_eq h.toProper hnames hallowed, place_path_eq h.toProper hnames hallowed]
  -- a repository called `..` leads out of `graphs` again, so the document stands beside it
  by_cases hparent : names.1 = ".."
  · have hdirectories : directoriesBelow names = ["graphs", ".."] := by
      rw [directoriesBelow, hparent]
      rfl
    have hne : documentName names ≠ "graphs" := by
      intro heq
      have hlast := getLast?_documentName names
      rw [heq] at hlast
      revert hlast
      decide
    obtain ⟨made, hmade, hwalk, hvacant⟩ := h.exists_wayBack hgraphs hdocument hne
    rw [hdirectories]
    exact ⟨made, _, hmade, hwalk, by simp [hvacant]⟩
  · have hplain : ∀ name ∈ directoriesBelow names, IsPlain name := by
      refine List.forall_mem_cons.2 ⟨hgraphs, fun name hname => ?_⟩
      obtain rfl := List.mem_singleton.1 (List.mem_filter.1 hname).1
      exact ⟨hparent, hallowed.repo⟩
    obtain ⟨made, hmade, hwalk, hvacant⟩ := h.exists_way hplain hdocument
    have hfree := hvacant (directoriesBelow names ++ [documentName names]) (by simp) fun hprefix => by
      have hlength := hprefix.length_le
      rw [List.length_append, List.length_singleton] at hlength
      omega
    exact ⟨made, _, hmade, hwalk, by simp [hfree]⟩

/-- So a snapshot can be saved there. -/
theorem not_diskFailed_save (h : store.Ready disk) {graph : Snapshot} (savedAt : String)
    (hallowed : NamesAllowed (fileNames graph.ids)) : ¬Store.DiskFailed (store.save savedAt graph disk).1 := by
  obtain ⟨made, found, hmade, hplace, hentry⟩ := exists_room h (areSlashFree graph.ids) hallowed
  rw [save_eq hmade (write_eq_ok.2 ⟨found, hplace, hentry, rfl⟩)]
  exact Store.not_diskFailed_ok _

/-! ### What a save leaves -/

/-- The document of a snapshot is on the disk, in the directories that are made for it. -/
structure Holds (store : FileStore) (graph : Snapshot) (disk : Disk) : Prop where
  made : disk.makeDirectories store.here (parentPath (store.path (fileNames graph.ids))) = .ok disk
  document : ∃ savedAt, (StoredDocument.ofSnapshot savedAt graph).Proper ∧
    disk.read store.here (store.path (fileNames graph.ids)) =
      .ok (StoredDocument.ofSnapshot savedAt graph).text.toUTF8

variable {savedAt : String} {graph : Snapshot}

/-- What was written where directories were made is there. -/
theorem holds_of_write {made written : Disk} (hproper : (StoredDocument.ofSnapshot savedAt graph).Proper)
    (hmade : disk.makeDirectories store.here (parentPath (store.path (fileNames graph.ids))) = .ok made)
    (hwritten : made.write store.here (store.path (fileNames graph.ids))
      (StoredDocument.ofSnapshot savedAt graph).text.toUTF8 = .ok written) : store.Holds graph written where
  made := makeDirectories_again hmade fun _ hplace => directory_of_write hwritten hplace
  document := ⟨savedAt, hproper, read_of_write hwritten⟩

/-- **A save that the disk allows** leaves the document on it. -/
theorem holds_save (hproper : (StoredDocument.ofSnapshot savedAt graph).Proper)
    (hsave : ¬Store.DiskFailed (store.save savedAt graph disk).1) :
    (store.save savedAt graph disk).1 = .ok () ∧ store.Holds graph (store.save savedAt graph disk).2 := by
  rcases save_cases store disk savedAt graph with hfailed | ⟨made, found, hmade, hplace, hentry, hsaved⟩
  · exact absurd hfailed hsave
  · rw [hsaved]
    exact ⟨rfl, holds_of_write hproper hmade (write_eq_ok.2 ⟨found, hplace, hentry, rfl⟩)⟩

namespace Holds

/-- **What is on the disk is loaded.** -/
theorem load (h : store.Holds graph disk) : store.load graph.repoId graph.snapshotId disk = .ok (some graph) := by
  obtain ⟨savedAt, hproper, hread⟩ := h.document
  rcases load_cases store disk graph.ids with hfailed | ⟨hmissing, -⟩ | ⟨bytes, hbytes, hload⟩
  · refine absurd hfailed (not_diskFailed_load_of_read fun cause hcause => ?_)
    rw [hread] at hcause
    cases hcause
  · rw [hread] at hmissing
    cases hmissing
  · obtain rfl := Except.ok.inj (hread.symm.trans hbytes)
    exact hload savedAt graph (StoredDocument.ofBytes?_text hproper)

/-- **Another snapshot can be saved over it**, and then that one is on the disk. -/
theorem save (h : store.Holds graph disk) {second : Snapshot} (hids : second.ids = graph.ids)
    (hproper : (StoredDocument.ofSnapshot savedAt second).Proper) :
    (store.save savedAt second disk).1 = .ok () ∧ store.Holds second (store.save savedAt second disk).2 := by
  obtain ⟨_, -, hread⟩ := h.document
  have hmade := h.made
  rw [← hids] at hread hmade
  obtain ⟨written, hwritten⟩ :=
    exists_write_of_read hread (StoredDocument.ofSnapshot savedAt second).text.toUTF8
  rw [save_eq hmade hwritten]
  exact ⟨rfl, holds_of_write hproper hmade hwritten⟩

end Holds

/-! ### Saving and loading -/

/-- **What was saved is loaded.** The text of a stored document stands for the document. Unless the disk fails, a
save is followed by loads of the snapshot, and after another snapshot was saved under the same ids, by loads of
that one. In a directory of its own the disk does not fail so long as it can have the names of the files. -/
theorem load_save (store : FileStore) (disk : Disk) (hmoment : (Moment.ofText? savedAt).isSome)
    (hlines : graph.LinesFit) :
    document? (StoredDocument.ofSnapshot savedAt graph).text.toUTF8 =
      some (StoredDocument.ofSnapshot savedAt graph) ∧
    (store.Ready disk → NamesAllowed (fileNames graph.ids) →
      ¬Store.DiskFailed (store.save savedAt graph disk).1) ∧
    (¬Store.DiskFailed (store.save savedAt graph disk).1 →
      (store.save savedAt graph disk).1 = .ok () ∧
      store.load graph.repoId graph.snapshotId (store.save savedAt graph disk).2 = .ok (some graph) ∧
      ∀ later second, (Moment.ofText? later).isSome → second.LinesFit → second.repoId = graph.repoId →
        second.snapshotId = graph.snapshotId →
        (store.save later second (store.save savedAt graph disk).2).1 = .ok () ∧
        store.load graph.repoId graph.snapshotId (store.save later second (store.save savedAt graph disk).2).2 =
          .ok (some second)) := by
  have hproper := StoredDocument.proper_ofSnapshot hmoment hlines
  refine ⟨StoredDocument.ofBytes?_text hproper, fun hready => not_diskFailed_save hready savedAt, fun hsave => ?_⟩
  obtain ⟨hdone, hholds⟩ := holds_save hproper hsave
  refine ⟨hdone, hholds.load, fun later second hlater hfit hrepo hsnapshot => ?_⟩
  obtain ⟨hagain, hsecond⟩ := hholds.save (Prod.ext hrepo hsnapshot)
    (StoredDocument.proper_ofSnapshot hlater hfit)
  rw [← hrepo, ← hsnapshot]
  exact ⟨hagain, hsecond.load⟩

/-- A snapshot with texts of all kinds, and with and without optional values, of a repository that has no directory of
its own. -/
def oddSnapshot (revision : String) : Snapshot where
  repoId := ".."
  snapshotId := "v:1"
  revision := revision
  nodes := [
    { id := "a"
      kind := .component
      name := "say \"hi\"\n\t\\"
      qualifiedName := "\x00\x1f/é"
      filePath := ""
      language := .tsx
      startLine := some 4294967295
      endLine := none
      signature := some "😀"
      metadata := Metadata.ofList [("b", ""), ("a \"b\"", "null")]
      snapshotId := "v:1"
      revision := "HEAD" }]
  edges := [
    { id := "e"
      source := "a"
      target := "gone"
      kind := .usesHook
      filePath := none
      metadata := .empty
      snapshotId := "v:1"
      revision := "HEAD" }]

theorem linesFit_oddSnapshot (revision : String) : (oddSnapshot revision).LinesFit := by
  have hlast : ∀ line ∈ some 4294967295, line < Bound.nat32 := by decide
  exact List.forall_mem_singleton.2 ⟨hlast, fun _ hline => nomatch hline⟩

theorem load_save_oddSnapshot :
    let saved := ownDirectory.save "2024-05-01T12:00:00Z" (oddSnapshot "main") ownDisk
    let savedOver := ownDirectory.save "2024-05-01T12:00:01Z" (oddSnapshot "fix") saved.2
    (ownDirectory.Ready ownDisk ∧ NamesAllowed (fileNames (oddSnapshot "main").ids)) ∧
    (saved.1 = .ok () ∧ ownDirectory.load ".." "v:1" saved.2 = .ok (some (oddSnapshot "main"))) ∧
    (savedOver.1 = .ok () ∧ ownDirectory.load ".." "v:1" savedOver.2 = .ok (some (oddSnapshot "fix"))) := by
  have hallowed : NamesAllowed (fileNames (oddSnapshot "main").ids) := by decide
  have hmoment : (Moment.ofText? "2024-05-01T12:00:00Z").isSome := by decide
  obtain ⟨-, hgood, hsave⟩ := load_save ownDirectory ownDisk hmoment (linesFit_oddSnapshot "main")
  obtain ⟨hdone, hload, hover⟩ := hsave (hgood ready_ownDirectory hallowed)
  exact ⟨⟨ready_ownDirectory, hallowed⟩, ⟨hdone, hload⟩,
    hover "2024-05-01T12:00:01Z" (oddSnapshot "fix") (by decide) (linesFit_oddSnapshot "fix") rfl rfl⟩

end StructuralDiff.FileStore
