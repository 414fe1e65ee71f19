import StructuralDiff.Diff.Summary
import StructuralDiff.Proofs.Delta.Grouping
import StructuralDiff.Proofs.Ranking
import StructuralDiff.Proofs.Repetition
import StructuralDiff.Proofs.Table

/-!
# What the summaries of files account for

The summaries of a comparison draw on three sources: the nodes that stand for files, the listed symbols and the
hunks. Whatever the sources say, no listed symbol is lost on the way and none is told twice.

* `Delta.HasStatus`: which of the sources says what happened to a file.
* `Delta.mem_map_path_fileSummaries`, `Delta.isSome_fileSummary?`: which paths have a summary.
* `Delta.flatMap_symbols_fileSummaries_perm`: the symbols of all summaries together are the listed ones.
* `Delta.Accounts`, `Delta.fileSummaries_accounts`: all that holds of the summaries.
-/

open scoped List

namespace StructuralDiff

/-- Summaries are ranked by their scores and paths. -/
def FileSummary.ranking : Ranking FileSummary :=
  ⟨(·.score), (·.path)⟩

/-- The number of added and removed lines of a file. -/
def FilePatch.churnAt (patches : Table FilePatch) (path : String) : Nat :=
  ((patches.get? path).map FilePatch.churn).getD 0

namespace Delta

/-! ### The status of a file -/

/-- What happened to the file at a path, and who says so: its patch, or else the last file of the new snapshot
at the path, or else a removed file of the old one; by default the file is modified. -/
inductive HasStatus (delta : Delta) (patches : Table FilePatch) (path : String) : FileStatus → Prop
  | patched {patch : FilePatch} : patches.get? path = some patch → HasStatus delta patches path patch.status
  | current {before after : List Node} {node : Node} : patches.get? path = none →
    delta.new.fileNodes = before ++ node :: after → node.filePath = path →
    (∀ later ∈ after, later.filePath ≠ path) →
    HasStatus delta patches path (FileStatus.ofStatus (delta.statusOf node.id))
  | removed : patches.get? path = none → (∀ node ∈ delta.new.fileNodes, node.filePath ≠ path) →
    (∃ node ∈ delta.removedFiles, node.filePath = path) → HasStatus delta patches path .deleted
  | other : patches.get? path = none → (∀ node ∈ delta.new.fileNodes, node.filePath ≠ path) →
    (∀ node ∈ delta.removedFiles, node.filePath ≠ path) → HasStatus delta patches path .modified

/-- The status of the file at a path: that of its patch, or else what the nodes say. -/
def effectiveStatus (delta : Delta) (patches : Table FilePatch) (path : String) : FileStatus :=
  ((patches.get? path).map FilePatch.status).getD (delta.fileStatus path)

variable {delta : Delta} {symbols : List SymbolRisk} {patches : Table FilePatch} {path : String}

theorem getLast?_filePath_eq_none_iff {nodes : List Node} :
    (nodes.filter (·.filePath == path)).getLast? = none ↔ ∀ node ∈ nodes, node.filePath ≠ path := by
  rw [List.getLast?_eq_none_iff, List.filter_eq_nil_iff]
  simp only [beq_iff_eq, ne_eq]

theorem exists_getLast?_filePath {nodes : List Node} (h : ∃ node ∈ nodes, node.filePath = path) :
    ∃ node, (nodes.filter (·.filePath == path)).getLast? = some node := by
  rw [← Option.ne_none_iff_exists', ne_eq, getLast?_filePath_eq_none_iff]
  simpa using h

/-- The last file at a path has no other one after it. -/
theorem getLast?_filePath_of_split {nodes before after : List Node} {node : Node}
    (h : nodes = before ++ node :: after) (hnode : node.filePath = path)
    (hafter : ∀ later ∈ after, later.filePath ≠ path) :
    (nodes.filter (·.filePath == path)).getLast? = some node := by
  rw [h, List.filter_append, List.filter_cons_of_pos (by simpa using hnode), List.getLast?_append,
    List.getLast?_cons, getLast?_filePath_eq_none_iff.2 hafter]
  rfl

theorem exists_split_of_getLast?_filePath {nodes : List Node} {node : Node}
    (h : (nodes.filter (·.filePath == path)).getLast? = some node) :
    ∃ before after, nodes = before ++ node :: after ∧ node.filePath = path ∧
      ∀ later ∈ after, later.filePath ≠ path := by
  rw [List.getLast?_eq_head?_reverse, ← List.filter_reverse, List.head?_filter, List.find?_eq_some_iff_append] at h
  obtain ⟨hnode, after, before, hsplit, hafter⟩ := h
  refine ⟨before.reverse, after.reverse, ?_, by simpa using hnode, fun later hlater => ?_⟩
  · rw [← List.reverse_reverse nodes, hsplit]
    simp
  · simpa using hafter later (List.mem_reverse.1 hlater)

/-- **Every file has one status.** -/
theorem hasStatus_iff {status : FileStatus} :
    delta.HasStatus patches path status ↔ status = delta.effectiveStatus patches path := by
  constructor
  · intro h
    cases h with
    | patched hpatch => rw [effectiveStatus, hpatch, Option.map_some, Option.getD_some]
    | current hpatch hsplit hnode hafter =>
      rw [effectiveStatus, hpatch, fileStatus, getLast?_filePath_of_split hsplit hnode hafter]
      rfl
    | removed hpatch hnew hremoved =>
      rw [effectiveStatus, hpatch, fileStatus, getLast?_filePath_eq_none_iff.2 hnew]
      simp [hremoved]
    | other hpatch hnew hremoved =>
      rw [effectiveStatus, hpatch, fileStatus, getLast?_filePath_eq_none_iff.2 hnew]
      simpa using hremoved
  · rintro rfl
    rw [effectiveStatus]
    cases hpatch : patches.get? path with
    | some patch => exact .patched hpatch
    | none =>
      rw [Option.map_none, Option.getD_none, fileStatus]
      -- the last node of the path decides, and its place in the list is what `current` asks for
      cases hlast : (delta.new.fileNodes.filter (·.filePath == path)).getLast? with
      | some node =>
        obtain ⟨before, after, hsplit, hnode, hafter⟩ := exists_split_of_getLast?_filePath hlast
        exact .current hpatch hsplit hnode hafter
      | none =>
        have hnew := getLast?_filePath_eq_none_iff.1 hlast
        dsimp only
        split
        · next hremoved => exact .removed hpatch hnew (by simpa using hremoved)
        · next hremoved => exact .other hpatch hnew (by simpa using hremoved)

/-! ### Which paths have a summary -/

theorem mem_candidatePaths : path ∈ delta.candidatePaths symbols patches ↔
    (∃ node ∈ delta.removedFiles, node.filePath = path) ∨
    (∃ node ∈ delta.new.fileNodes, node.filePath = path) ∨
    (∃ symbol ∈ symbols, symbol.filePath = path) ∨ path ∈ patches.keys := by
  simp only [candidatePaths, Text.mem_sortedSet, List.mem_append, List.mem_map, or_assoc]

theorem nodup_candidatePaths : (delta.candidatePaths symbols patches).Nodup :=
  (Text.sort_perm _).nodup_iff.2 (nodup_eraseDups _)

theorem filter_filePath_eq_nil_iff : symbols.filter (·.filePath == path) = [] ↔
    ¬∃ symbol ∈ symbols, symbol.filePath = path := by
  simp

/-- What a summary says about its path. -/
theorem of_fileSummary?_eq_some {summary : FileSummary}
    (h : delta.fileSummary? symbols patches path = some summary) :
    summary.path = path ∧ summary.symbols = symbols.filter (·.filePath == path) ∧
      summary.churn = FilePatch.churnAt patches path ∧
      summary.score = Risk.fileScore summary.symbols summary.churn summary.status ∧
      summary.level = RiskLevel.ofScore summary.score := by
  unfold fileSummary? at h
  obtain ⟨-, hsummary⟩ := Option.ite_none_left_eq_some.1 h
  rw [← Option.some.inj hsummary]
  exact ⟨rfl, rfl, rfl, rfl, rfl⟩

/-- **There is something to say about a file** when it or one of its symbols has changed, or one of its lines. -/
theorem isSome_fileSummary? : (delta.fileSummary? symbols patches path).isSome = true ↔
    (∃ symbol ∈ symbols, symbol.filePath = path) ∨ 0 < FilePatch.churnAt patches path ∨
      delta.effectiveStatus patches path ≠ .unchanged := by
  unfold fileSummary? effectiveStatus FilePatch.churnAt
  by_cases hsymbols : ∃ symbol ∈ symbols, symbol.filePath = path
  · have hsome := mt filter_filePath_eq_nil_iff.1 (not_not.2 hsymbols)
    simp [hsymbols, hsome]
  · have hnil := filter_filePath_eq_nil_iff.2 hsymbols
    cases hpatch : patches.get? path with
    | none => simp [hsymbols, hnil]
    | some patch =>
      simp [hsymbols, hnil, Nat.pos_iff_ne_zero]
      tauto

/-- What a summary says happened to its file. A file without a patch that is the same as before, but for its
symbols, counts as modified. -/
theorem status_of_fileSummary?_eq_some {summary : FileSummary}
    (h : delta.fileSummary? symbols patches path = some summary) :
    delta.HasStatus patches path summary.status ∨
      summary.status = .modified ∧ patches.get? path = none ∧ delta.HasStatus patches path .unchanged ∧
        ∃ symbol ∈ symbols, symbol.filePath = path := by
  simp only [hasStatus_iff, effectiveStatus]
  unfold fileSummary? at h
  obtain ⟨-, hsummary⟩ := Option.ite_none_left_eq_some.1 h
  rw [← Option.some.inj hsummary]
  cases hpatch : patches.get? path with
  | some patch => exact .inl rfl
  | none =>
    by_cases hunchanged : delta.fileStatus path = .unchanged
    · by_cases hsymbols : ∃ symbol ∈ symbols, symbol.filePath = path
      · have hsome := mt filter_filePath_eq_nil_iff.1 (not_not.2 hsymbols)
        refine .inr ⟨?_, rfl, hunchanged.symm, hsymbols⟩
        simp [hunchanged, hsome]
      · have hnil := filter_filePath_eq_nil_iff.2 hsymbols
        exact .inl (by simp [hnil])
    · exact .inl (by simp [hunchanged])

theorem map_path_filterMap (paths : List String) :
    (paths.filterMap (delta.fileSummary? symbols patches)).map (·.path) =
      paths.filter fun path => (delta.fileSummary? symbols patches path).isSome := by
  induction paths with
  | nil => rfl
  | cons path rest ih =>
    rw [List.filterMap_cons, List.filter_cons]
    cases hsummary : delta.fileSummary? symbols patches path with
    | none => simpa using ih
    | some summary => simpa [(of_fileSummary?_eq_some hsummary).1] using ih

theorem map_path_fileSummaries_perm : (delta.fileSummaries symbols patches).map (·.path) ~
    (delta.candidatePaths symbols patches).filter fun path =>
      (delta.fileSummary? symbols patches path).isSome := by
  rw [← map_path_filterMap]
  exact (List.mergeSort_perm _ _).map _

theorem mem_fileSummaries {summary : FileSummary} : summary ∈ delta.fileSummaries symbols patches ↔
    ∃ path ∈ delta.candidatePaths symbols patches, delta.fileSummary? symbols patches path = some summary := by
  rw [fileSummaries, List.mem_mergeSort, List.mem_filterMap]

/-- **Which paths have a summary**: of those that may have one, the ones about which there is something to
say. -/
theorem mem_map_path_fileSummaries : path ∈ (delta.fileSummaries symbols patches).map (·.path) ↔
    path ∈ delta.candidatePaths symbols patches ∧
      (delta.fileSummary? symbols patches path).isSome = true := by
  rw [map_path_fileSummaries_perm.mem_iff, List.mem_filter]

/-! ### Nothing is lost or told twice -/

/-- A path without a summary has no listed symbol, so leaving it out loses none. -/
theorem flatMap_symbols_filterMap (paths : List String) :
    (paths.filterMap (delta.fileSummary? symbols patches)).flatMap (·.symbols) =
      paths.flatMap fun path => symbols.filter (·.filePath = path) := by
  induction paths with
  | nil => rfl
  | cons path rest ih =>
    rw [List.filterMap_cons, List.flatMap_cons]
    cases hsummary : delta.fileSummary? symbols patches path with
    | none =>
      have hsilent : ¬∃ symbol ∈ symbols, symbol.filePath = path := by
        intro hsymbol
        have hsome : (delta.fileSummary? symbols patches path).isSome = true :=
          isSome_fileSummary?.2 (.inl hsymbol)
        rw [hsummary] at hsome
        cases hsome
      have hnil : symbols.filter (·.filePath = path) = [] := by simpa using hsilent
      rw [hnil, List.nil_append]
      exact ih
    | some summary =>
      rw [List.flatMap_cons, ih, (of_fileSummary?_eq_some hsummary).2.1]
      rfl

/-- **The symbols of all summaries together are the listed ones.** -/
theorem flatMap_symbols_fileSummaries_perm :
    (delta.fileSummaries symbols patches).flatMap (·.symbols) ~ symbols := by
  have hcover : ∀ symbol ∈ symbols, symbol.filePath ∈ delta.candidatePaths symbols patches :=
    fun symbol hsymbol => mem_candidatePaths.2 (.inr (.inr (.inl ⟨symbol, hsymbol, rfl⟩)))
  refine ((List.mergeSort_perm _ _).flatMap_right _).trans ?_
  rw [flatMap_symbols_filterMap]
  exact flatMap_filter_perm SymbolRisk.filePath nodup_candidatePaths hcover

theorem nodup_map_path_fileSummaries : ((delta.fileSummaries symbols patches).map (·.path)).Nodup :=
  map_path_fileSummaries_perm.nodup_iff.2 (nodup_candidatePaths.filter _)

/-- Without a repeated path, the summaries are ranked strictly. -/
theorem pairwise_fileSummaries : (delta.fileSummaries symbols patches).Pairwise FileSummary.ranking.Before :=
  FileSummary.ranking.pairwise_sort
    (((List.mergeSort_perm _ _).map _).nodup_iff.1 nodup_map_path_fileSummaries)

/-- A summary is the one for its path. -/
theorem fileSummary?_of_mem {summary : FileSummary} (h : summary ∈ delta.fileSummaries symbols patches) :
    delta.fileSummary? symbols patches summary.path = some summary := by
  obtain ⟨path, -, hsummary⟩ := mem_fileSummaries.1 h
  rw [(of_fileSummary?_eq_some hsummary).1, hsummary]

theorem symbols_of_mem {summary : FileSummary} (h : summary ∈ delta.fileSummaries symbols patches) :
    summary.symbols = symbols.filter (·.filePath = summary.path) :=
  (of_fileSummary?_eq_some (fileSummary?_of_mem h)).2.1

/-- **A listed symbol is in one summary**: its file may have one, and the symbol is a reason for it. -/
theorem exists_summary_of_symbol {symbol : SymbolRisk} (h : symbol ∈ symbols) :
    ∃ summary ∈ delta.fileSummaries symbols patches, summary.path = symbol.filePath ∧
      ∀ other ∈ delta.fileSummaries symbols patches, symbol ∈ other.symbols ↔ other = summary := by
  have hcandidate : symbol.filePath ∈ delta.candidatePaths symbols patches :=
    mem_candidatePaths.2 (.inr (.inr (.inl ⟨symbol, h, rfl⟩)))
  have hsome : (delta.fileSummary? symbols patches symbol.filePath).isSome = true :=
    isSome_fileSummary?.2 (.inl ⟨symbol, h, rfl⟩)
  obtain ⟨summary, hsummary⟩ := Option.isSome_iff_exists.1 hsome
  have hmem := mem_fileSummaries.2 ⟨_, hcandidate, hsummary⟩
  have hpath := (of_fileSummary?_eq_some hsummary).1
  refine ⟨summary, hmem, hpath, fun other hother => ?_⟩
  rw [symbols_of_mem hother, List.mem_filter, decide_eq_true_eq, and_iff_right h, ← hpath]
  constructor
  · intro hsame
    exact List.inj_on_of_nodup_map nodup_map_path_fileSummaries hother hmem hsame.symm
  · intro hsame
    rw [hsame]

/-- The summaries account for the files of a delta, the listed symbols and the hunks. -/
structure Accounts (delta : Delta) (symbols : List SymbolRisk) (patches : Table FilePatch)
    (summaries : List FileSummary) : Prop where
  /-- No path has two summaries. -/
  nodup : (summaries.map (·.path)).Nodup
  /-- The higher score comes first, and of equal scores the smaller path. -/
  ranked : summaries.Pairwise fun a b =>
    b.score < a.score ∨ a.score = b.score ∧ Text.order a.path b.path = .lt
  /-- A summary has the symbols of its file, in the order in which they are listed. -/
  symbols_eq : ∀ summary ∈ summaries, summary.symbols = symbols.filter (·.filePath = summary.path)
  /-- A listed symbol is in the summary of its file, and in no other one. -/
  one_each : ∀ symbol ∈ symbols, ∃ summary ∈ summaries, summary.path = symbol.filePath ∧
    ∀ other ∈ summaries, symbol ∈ other.symbols ↔ other = summary
  /-- No symbol is there more often than it is listed, or less often. -/
  all : summaries.flatMap (·.symbols) ~ symbols
  /-- The churn is that of the hunks. -/
  churn_eq : ∀ summary ∈ summaries, summary.churn = FilePatch.churnAt patches summary.path
  /-- The status is that of the file, where none of its symbols says otherwise. -/
  status_eq : ∀ summary ∈ summaries, delta.HasStatus patches summary.path summary.status ∨
    summary.status = .modified ∧ patches.get? summary.path = none ∧
      delta.HasStatus patches summary.path .unchanged ∧ ∃ symbol ∈ symbols, symbol.filePath = summary.path
  /-- The score is made of what the summary says, and the level of the score. -/
  score_eq : ∀ summary ∈ summaries,
    summary.score = Risk.fileScore summary.symbols summary.churn summary.status ∧
      summary.level = RiskLevel.ofScore summary.score
  /-- A file has a summary if one of the sources knows it, and it has changed in itself, in its lines or in its
  symbols. -/
  listed_iff : ∀ path, path ∈ summaries.map (·.path) ↔
    ((∃ node ∈ delta.old.nodes, node.kind = .file ∧ delta.nodeStatus? node.id = some .removed ∧
        node.filePath = path) ∨
      (∃ node ∈ delta.new.nodes, node.kind = .file ∧ node.filePath = path) ∨
      (∃ symbol ∈ symbols, symbol.filePath = path) ∨ path ∈ patches.keys) ∧
    ((∃ symbol ∈ symbols, symbol.filePath = path) ∨ 0 < FilePatch.churnAt patches path ∨
      ∃ status, delta.HasStatus patches path status ∧ status ≠ .unchanged)

/-- **The summaries lose nothing and tell nothing twice**, for every delta and all hunks, and whatever symbols are
listed, such as the risks of the delta. -/
theorem fileSummaries_accounts (delta : Delta) (symbols : List SymbolRisk) (patches : Table FilePatch) :
    Accounts delta symbols patches (delta.fileSummaries symbols patches) := by
  refine ⟨nodup_map_path_fileSummaries, pairwise_fileSummaries, fun _ => symbols_of_mem,
    fun _ => exists_summary_of_symbol, flatMap_symbols_fileSummaries_perm, fun summary h => ?_,
    fun summary h => ?_, fun summary h => ?_, fun path => ?_⟩
  · exact (of_fileSummary?_eq_some (fileSummary?_of_mem h)).2.2.1
  · exact status_of_fileSummary?_eq_some (fileSummary?_of_mem h)
  · exact (of_fileSummary?_eq_some (fileSummary?_of_mem h)).2.2.2
  · simp only [mem_map_path_fileSummaries, mem_candidatePaths, isSome_fileSummary?, hasStatus_iff,
      exists_eq_left, removedFiles, Snapshot.fileNodes, List.mem_filter, beq_iff_eq, and_assoc]

end Delta

end StructuralDiff
