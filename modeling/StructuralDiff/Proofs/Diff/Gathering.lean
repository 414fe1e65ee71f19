import StructuralDiff.Proofs.Diff.Accounting

/-!
# Gathering what is known about files

Summaries can be made in one go, from two maps: one of statuses, which the sources fill one after the other, and
one of the listed symbols of each file, out of which the symbols of a path are taken once the path has its turn.
A later entry may overwrite an earlier one or give way to it, and a symbol whose path were left out would be
lost with it. None is: what the maps hold is what the lists say.

* `Table.get?_foldl_insertNew`, `Table.get?_ofList_map`: what remains of several entries for a key.
* `Delta.get?_statusTable`: the map of statuses, once all sources have filled it.
* `Delta.getD_groupTable`: the map of symbols.
* `Delta.compile_eq`: taking the symbols out of their map, path by path.
* `Delta.fileSummaries_eq_compile`: the summaries made in this way are those of the comparison, whatever the
  order in which symbols and hunks are gone through.
-/

open scoped List

namespace StructuralDiff

namespace Table

variable {α β : Type}

/-- Gives a key a value unless it has one. -/
def insertNew (table : Table β) (key : String) (value : β) : Table β :=
  if (table.get? key).isSome then table else table.insert key value

/-- The entries, in the order of the keys. -/
def sortedEntries (table : Table β) : List (String × β) :=
  (Text.sort table.keys).filterMap fun key => (table.get? key).map (key, ·)

/-- A table of the values of a function has these as its entries. -/
theorem sortedEntries_eq {table : Table β} {keys : List String} {f : String → β}
    (h : ∀ key, table.get? key = if key ∈ Text.sortedSet keys then some (f key) else none) :
    table.sortedEntries = (Text.sortedSet keys).map fun key => (key, f key) := by
  have hkeys : Text.sort table.keys = Text.sortedSet keys := by
    refine Text.sortedSet_eq_of_mem_iff fun key => ?_
    rw [← get?_isSome_iff, h]
    by_cases hkey : key ∈ keys
    · rw [if_pos (Text.mem_sortedSet.2 hkey)]
      exact iff_of_true rfl hkey
    · rw [if_neg (mt Text.mem_sortedSet.1 hkey)]
      exact iff_of_false Bool.noConfusion hkey
  rw [sortedEntries, hkeys, ← List.filterMap_eq_map]
  refine List.filterMap_congr fun key hkey => ?_
  rw [h, if_pos hkey]
  rfl

theorem get?_insertNew (table : Table β) (key other : String) (value : β) :
    (table.insertNew key value).get? other =
      (table.get? other).or (if other = key then some value else none) := by
  unfold insertNew
  by_cases hsame : other = key
  · subst hsame
    cases hvalue : table.get? other with
    | none => simp [get?_insert]
    | some old => simp [hvalue]
  · rw [if_neg hsame, Option.or_none]
    split
    · rfl
    · rw [get?_insert, if_neg hsame]

/-- The keys that have no value get one. -/
theorem get?_foldl_insertNew (keys : List String) (value : β) (table : Table β) (other : String) :
    (keys.foldl (fun table key => table.insertNew key value) table).get? other =
      (table.get? other).or (if other ∈ keys then some value else none) := by
  induction keys generalizing table with
  | nil => simp
  | cons key rest ih =>
    rw [List.foldl_cons, ih, get?_insertNew, Option.or_assoc]
    by_cases hsame : other = key
    · simp [hsame]
    · simp [hsame]

/-- Later entries count more. -/
theorem get?_ofList_append (entries later : List (String × β)) (key : String) :
    (ofList (entries ++ later)).get? key = ((ofList later).get? key).or ((ofList entries).get? key) := by
  rw [get?_ofList, get?_ofList, get?_ofList, List.reverse_append, List.lookup_append]

/-- Of the entries for a key the last one counts. -/
theorem get?_ofList_map (name : α → String) (value : α → β) (l : List α) (key : String) :
    (ofList (l.map fun a => (name a, value a))).get? key =
      ((l.filter (name · == key)).getLast?).map value := by
  have hlookup (l : List α) : (l.map fun a => (name a, value a)).lookup key =
      (l.find? (name · == key)).map value := by
    induction l with
    | nil => rfl
    | cons a rest ih =>
      rw [List.map_cons, List.lookup_cons, List.find?_cons, BEq.comm, ih]
      cases name a == key
      · rfl
      · rfl
  rw [get?_ofList, ← List.map_reverse, hlookup, List.getLast?_eq_head?_reverse, ← List.filter_reverse,
    List.head?_filter]

end Table

namespace Delta

/-! ### The maps -/

/-- The statuses of all paths. The removed files are entered first, then those of the new snapshot over them, and
every other path is modified. -/
def statusTable (delta : Delta) (others : List String) : Table FileStatus :=
  let removed := delta.removedFiles.map fun node => (node.filePath, FileStatus.deleted)
  let current := delta.new.fileNodes.map fun node =>
    (node.filePath, FileStatus.ofStatus (delta.statusOf node.id))
  others.foldl (fun table path => table.insertNew path .modified) (Table.ofList (removed ++ current))

/-- Puts a symbol behind the other ones of its file. -/
def push (groups : Table (List SymbolRisk)) (symbol : SymbolRisk) : Table (List SymbolRisk) :=
  groups.insert symbol.filePath ((groups.get? symbol.filePath).getD [] ++ [symbol])

/-- The symbols of each file. -/
def groupTable (symbols : List SymbolRisk) : Table (List SymbolRisk) :=
  symbols.foldl push .empty

/-- The summary of a path, from what the maps hold for it. -/
def summaryFrom? (patch? : Option FilePatch) (path : String) (status : FileStatus)
    (symbols : List SymbolRisk) : Option FileSummary :=
  let churn := (patch?.map FilePatch.churn).getD 0
  let status :=
    match patch? with
    | some patch => patch.status
    | none => if status == .unchanged && !symbols.isEmpty then .modified else status
  if status == .unchanged && symbols.isEmpty && churn == 0 then none
  else
    let score := Risk.fileScore symbols churn status
    some { path, status, churn, score, level := RiskLevel.ofScore score, symbols }

/-- Goes through paths with their statuses, and takes the symbols of each path out of the map. -/
def compile (patches : Table FilePatch) :
    (statuses : List (String × FileStatus)) → (groups : Table (List SymbolRisk)) → List FileSummary
  | [], _ => []
  | (path, status) :: rest, groups =>
    let symbols := (groups.get? path).getD []
    let later := compile patches rest (groups.erase path)
    match summaryFrom? (patches.get? path) path status symbols with
    | none => later
    | some summary => summary :: later

/-! ### What they hold -/

variable {delta : Delta} {symbols : List SymbolRisk} {patches : Table FilePatch} {path : String}

/-- The symbols of a file in the map are those of the list, in the same order. -/
theorem getD_groupTable : ((groupTable symbols).get? path).getD [] = symbols.filter (·.filePath == path) := by
  have hfold (groups : Table (List SymbolRisk)) : ((symbols.foldl push groups).get? path).getD [] =
      (groups.get? path).getD [] ++ symbols.filter (·.filePath == path) := by
    induction symbols generalizing groups with
    | nil => simp
    | cons symbol rest ih =>
      rw [List.foldl_cons, ih, push, Table.get?_insert, List.filter_cons]
      by_cases hsame : path = symbol.filePath
      · simp [hsame]
      · simp [hsame, Ne.symm hsame]
  exact hfold .empty

section

variable {others : List String}
  (hothers : ∀ path, path ∈ others ↔ (∃ symbol ∈ symbols, symbol.filePath = path) ∨ path ∈ patches.keys)

include hothers

/-- **Once all sources have filled it, the map has the paths that may have a summary**, with what the nodes say
about them. -/
theorem get?_statusTable : (delta.statusTable others).get? path =
    if path ∈ delta.candidatePaths symbols patches then some (delta.fileStatus path) else none := by
  rw [statusTable, Table.get?_foldl_insertNew, Table.get?_ofList_append, Table.get?_ofList_map,
    Table.get?_ofList_map]
  have hcandidate : path ∈ delta.candidatePaths symbols patches ↔
      (∃ node ∈ delta.removedFiles, node.filePath = path) ∨
        (∃ node ∈ delta.new.fileNodes, node.filePath = path) ∨ path ∈ others := by
    rw [mem_candidatePaths, hothers]
  unfold fileStatus
  cases hlast : (delta.new.fileNodes.filter (·.filePath == path)).getLast? with
  | some node =>
    have hnode := List.mem_filter.1 (List.mem_of_getLast? hlast)
    rw [if_pos (hcandidate.2 (.inr (.inl ⟨node, hnode.1, beq_iff_eq.1 hnode.2⟩)))]
    rfl
  | none =>
    have hnew : ¬∃ node ∈ delta.new.fileNodes, node.filePath = path := by
      simpa using hlast
    by_cases hremoved : ∃ node ∈ delta.removedFiles, node.filePath = path
    · obtain ⟨node, hnode⟩ := exists_getLast?_filePath hremoved
      rw [if_pos (hcandidate.2 (.inl hremoved)), hnode]
      simp [hremoved]
    · have hnil : delta.removedFiles.filter (·.filePath == path) = [] := by
        simpa using hremoved
      simp [hcandidate, hnew, hremoved, hnil]

theorem sortedEntries_statusTable : (delta.statusTable others).sortedEntries =
    (delta.candidatePaths symbols patches).map fun path => (path, delta.fileStatus path) :=
  Table.sortedEntries_eq fun _ => get?_statusTable hothers

end

/-- **Taking the symbols out of the map loses none**: no path has a second turn. -/
theorem compile_eq {paths : List String} (hnodup : paths.Nodup) {groups : Table (List SymbolRisk)}
    (hgroups : ∀ path ∈ paths, (groups.get? path).getD [] = symbols.filter (·.filePath == path)) :
    compile patches (paths.map fun path => (path, delta.fileStatus path)) groups =
      paths.filterMap (delta.fileSummary? symbols patches) := by
  induction paths generalizing groups with
  | nil => rfl
  | cons path rest ih =>
    obtain ⟨hpath, hrest⟩ := List.nodup_cons.1 hnodup
    have hlater : ∀ other ∈ rest, ((groups.erase path).get? other).getD [] =
        symbols.filter (·.filePath == other) := by
      intro other hother
      have hne : other ≠ path := fun heq => hpath (heq ▸ hother)
      rw [Table.get?_erase, if_neg hne]
      exact hgroups other (List.mem_cons_of_mem _ hother)
    have hsummary : summaryFrom? (patches.get? path) path (delta.fileStatus path)
        ((groups.get? path).getD []) = delta.fileSummary? symbols patches path := by
      rw [hgroups path List.mem_cons_self]
      rfl
    rw [List.map_cons, compile, hsummary, ih hrest hlater, List.filterMap_cons]
    cases delta.fileSummary? symbols patches path with
    | none => rfl
    | some summary => rfl

/-- **Summaries can be made from maps.** -/
theorem fileSummaries_eq_compile {others : List String}
    (hothers : ∀ path, path ∈ others ↔
      (∃ symbol ∈ symbols, symbol.filePath = path) ∨ path ∈ patches.keys) :
    delta.fileSummaries symbols patches =
      (compile patches (delta.statusTable others).sortedEntries (groupTable symbols)).mergeSort FileSummary.le := by
  rw [sortedEntries_statusTable hothers, compile_eq nodup_candidatePaths fun path _ => getD_groupTable, fileSummaries]

end Delta

end StructuralDiff
