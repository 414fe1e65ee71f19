import Mathlib.Data.List.Nodup
import StructuralDiff.Proofs.Analysis.Merge

/-!
# Declarations that are lost

Nodes are put together by their ids, and of several nodes with one id the first is kept. A symbol whose name
is taken gets its line as a suffix, and no further attempt is made; a branch is named after its owner, whatever
the kind of the owner.

* `Fragment.clashes`: the symbols and branches of a file that get an id that is taken.
* `repeated_recordAll`: recording outlines repeats the ids of those, and no other one.
* `perm_ofFiles_clashes`: these are the nodes of a file that its snapshot has lost.
* `clashes_of_three`: three symbols of one kind and one name that begin on one line are one too many.
-/

open scoped List

namespace StructuralDiff

/-! ### Ids that occur again -/

namespace Snapshot

/-- The ids that have occurred before. -/
def repeated : (seen : List String) → List String → List String
  | _, [] => []
  | seen, id :: rest => if seen.contains id then id :: repeated seen rest else repeated (id :: seen) rest

theorem repeated_congr {seen seen' l : List String} (h : ∀ id, id ∈ seen ↔ id ∈ seen') :
    repeated seen l = repeated seen' l := by
  induction l generalizing seen seen' with
  | nil => rfl
  | cons id rest ih =>
    have hcontains : seen.contains id = seen'.contains id := by
      rw [Bool.eq_iff_iff, List.contains_iff_mem, List.contains_iff_mem, h]
    have hcons : ∀ other, other ∈ id :: seen ↔ other ∈ id :: seen' := fun other => by
      rw [List.mem_cons, List.mem_cons, h]
    rw [repeated, repeated, hcontains, ih h, ih hcons]

theorem repeated_append (seen l l' : List String) :
    repeated seen (l ++ l') = repeated seen l ++ repeated (l ++ seen) l' := by
  induction l generalizing seen with
  | nil => rfl
  | cons id rest ih =>
    rw [List.cons_append, repeated, repeated]
    split
    · next hseen =>
      rw [ih, List.cons_append]
      refine congrArg (id :: repeated seen rest ++ ·) (repeated_congr fun other => ?_)
      have hmem : id ∈ seen := by simpa using hseen
      constructor
      · exact List.mem_cons_of_mem id
      · rintro (_ | ⟨_, hother⟩)
        · exact List.mem_append_right _ hmem
        · exact hother
    · rw [ih]
      refine congrArg (repeated (id :: seen) rest ++ ·) (repeated_congr fun other => ?_)
      rw [List.mem_append, List.mem_cons, List.cons_append, List.mem_cons, List.mem_append]
      tauto

/-- Ids that differ from each other are those that were seen before. -/
theorem repeated_of_nodup {seen l : List String} (h : l.Nodup) :
    repeated seen l = l.filter seen.contains := by
  induction l generalizing seen with
  | nil => rfl
  | cons id rest ih =>
    rw [List.nodup_cons] at h
    rw [repeated]
    split
    · next hseen => rw [List.filter_cons_of_pos hseen, ih h.2]
    · next hseen =>
      rw [List.filter_cons_of_neg hseen, ih h.2]
      refine List.filter_congr fun other hother => ?_
      have hne : other ≠ id := fun heq => h.1 (heq ▸ hother)
      rw [Bool.eq_iff_iff, List.contains_iff_mem, List.contains_iff_mem, List.mem_cons, or_iff_right hne]

theorem repeated_eq_nil_iff {l : List String} : repeated [] l = [] ↔ l.Nodup := by
  constructor
  · intro h
    have hnodup : ∀ seen, repeated seen l = [] → l.Nodup ∧ ∀ id ∈ l, id ∉ seen := by
      clear h
      induction l with
      | nil => exact fun _ _ => ⟨List.nodup_nil, by simp⟩
      | cons id rest ih =>
        intro seen h
        rw [repeated] at h
        split at h
        · cases h
        · next hseen =>
          obtain ⟨hrest, hnot⟩ := ih _ h
          rw [List.nodup_cons, List.forall_mem_cons]
          refine ⟨⟨fun hmem => hnot id hmem List.mem_cons_self, hrest⟩, by simpa using hseen, ?_⟩
          exact fun other hother => List.not_mem_of_not_mem_cons (hnot other hother)
    exact (hnodup [] h).1
  · intro h
    rw [repeated_of_nodup h]
    exact List.filter_eq_nil_iff.2 (by simp)

/-- The elements that are kept and those that repeat an id are all there are. -/
theorem perm_distinctBy_repeated {α : Type} (id : α → String) (seen : List String) (l : List α) :
    (distinctBy id seen l).map id ++ repeated seen (l.map id) ~ l.map id := by
  induction l generalizing seen with
  | nil => exact .refl _
  | cons a rest ih =>
    rw [List.map_cons, distinctBy, repeated]
    split
    · exact List.perm_middle.trans ((ih seen).cons _)
    · exact (ih _).cons _

end Snapshot

open Snapshot (repeated repeated_append repeated_of_nodup)

/-! ### What a fragment's nodes are called -/

namespace Fragment

/-- The ids of the nodes, in order. -/
def nodeIds (fragment : Fragment) : List String :=
  fragment.nodes.map (·.id)

theorem hasNode_iff {fragment : Fragment} {id : String} : fragment.hasNode id = true ↔ id ∈ fragment.nodeIds := by
  rw [hasNode, List.any_eq_true, nodeIds, List.mem_map]
  simp only [beq_iff_eq]

theorem nodeIds_subset {a b : Fragment} (h : Grows a b) : a.nodeIds ⊆ b.nodeIds :=
  List.map_subset _ h.nodes.subset

section Ids

variable (fragment : Fragment)

theorem nodes_addEdge (kind : EdgeKind) (source target : String) (flow : Option FlowType)
    (callSite : Bool) : (fragment.addEdge kind source target flow callSite).nodes = fragment.nodes := by
  rw [addEdge_eq]
  split <;> rfl

theorem nodeIds_addEdge (kind : EdgeKind) (source target : String) (flow : Option FlowType)
    (callSite : Bool) :
    (fragment.addEdge kind source target flow callSite).nodeIds = fragment.nodeIds := by
  rw [nodeIds, nodes_addEdge, nodeIds]

theorem nodeIds_declare (parent child : String) : (fragment.declare parent child).nodeIds = fragment.nodeIds :=
  nodeIds_addEdge _ _ _ _ _ _

theorem nodeIds_push (node : Node) : (fragment.push node).nodeIds = fragment.nodeIds ++ [node.id] := by
  rw [nodeIds, push, List.map_append]
  rfl

/-- The id that a symbol gets. -/
def symbolId (scope : Scope) (declaration : Declaration) : String :=
  fragment.makeId declaration.kind (fragment.freeName declaration.kind
    (Name.qualify scope.symbol.qualifiedName declaration.localName) declaration.lines.1)

theorem nodeIds_recordSymbol (scope : Scope) (declaration : Declaration) :
    (recordSymbol scope declaration fragment).nodeIds =
      fragment.nodeIds ++ [fragment.symbolId scope declaration] := by
  have hadded : (fragment.addSymbol declaration scope.symbol.id scope.symbol.qualifiedName).2.nodeIds =
      fragment.nodeIds ++ [fragment.symbolId scope declaration] := by
    unfold addSymbol
    dsimp only
    rw [nodeIds_declare, nodeIds_push]
    rfl
  unfold recordSymbol
  dsimp only
  split
  · rw [nodeIds_addEdge, hadded]
  · exact hadded

/-- The node of the branch of an owner with a label. -/
def branchNode (owner : Recorded) (label : String) (site : Site) : Node :=
  fragment.node .branch label (owner.qualifiedName ++ "::" ++ label) (some site.lines) site.signature
    (branchMetadata owner.qualifiedName site)

theorem branchNode_addEdge (kind : EdgeKind) (source target : String) (flow : Option FlowType)
    (callSite : Bool) :
    (fragment.addEdge kind source target flow callSite).branchNode = fragment.branchNode := by
  rw [addEdge_eq]
  split <;> rfl

theorem branchNode_addBranch (owner : Recorded) (scope label : String) (site : Site) :
    (fragment.addBranch owner scope label site).branchNode = fragment.branchNode := by
  unfold addBranch
  dsimp only
  split <;> exact branchNode_addEdge _ _ _ _ _ _

theorem nodes_addBranch (owner : Recorded) (scope label : String) (site : Site) :
    (fragment.addBranch owner scope label site).nodes =
      fragment.nodes ++ [fragment.branchNode owner label site] := by
  unfold addBranch
  dsimp only
  split <;> exact nodes_addEdge _ _ _ _ _ _

/-- The pieces of a skeleton add a node for each site. -/
theorem nodes_addPieces (owner : Recorded) (scope : String) (ids : List String) {labels : List String}
    {pieces : List Piece} (h : labels.length = Piece.branchCount pieces) :
    (addPieces owner scope ids labels pieces fragment).nodes =
      fragment.nodes ++ List.zipWith (fragment.branchNode owner) labels (Piece.sites pieces) := by
  induction pieces generalizing labels fragment with
  | nil =>
    rw [List.length_eq_zero_iff.1 h]
    exact (List.append_nil _).symm
  | cons piece rest ih =>
    cases piece with
    | link source target flow =>
      rw [Piece.branchCount_link] at h
      rw [addPieces, ih _ h, nodes_addEdge, branchNode_addEdge, Piece.sites_link]
    | branch site =>
      rw [Piece.branchCount_branch] at h
      -- There are as many labels as branches, so there is one for this site.
      cases labels with
      | nil => cases h
      | cons label later =>
        rw [addPieces, List.headD_cons, List.tail_cons, ih _ (Nat.succ.inj h), nodes_addBranch,
          branchNode_addBranch, List.append_assoc, Piece.sites_branch]
        rfl

/-- A function adds a node for each of its sites. -/
theorem nodes_addFlow (owner : Recorded) (body : List FlowStmt) : (fragment.addFlow owner body).nodes =
    fragment.nodes ++ List.zipWith (fragment.branchNode owner) (Skeleton.ofBody body).labels
      (Skeleton.ofBody body).sites := by
  have hbuilt := nodes_addPieces fragment owner (fragment.scopeOf owner.id)
    (fragment.branchIds owner (Skeleton.ofBody body).labels) (Skeleton.length_labels (Skeleton.ofBody body))
  unfold addFlow
  dsimp only
  split
  · rw [nodes_addEdge]
    exact hbuilt
  · exact hbuilt

/-- The ids that the branches of a function get. -/
def flowIds (owner : Recorded) (body : List FlowStmt) : List String :=
  fragment.branchIds owner (Skeleton.ofBody body).labels

theorem nodeIds_addFlow (owner : Recorded) (body : List FlowStmt) :
    (fragment.addFlow owner body).nodeIds = fragment.nodeIds ++ fragment.flowIds owner body := by
  have hlength : (Skeleton.ofBody body).labels.length ≤ (Skeleton.ofBody body).sites.length := by
    rw [Skeleton.length_labels, Skeleton.sites_eq, Piece.length_sites]
  rw [nodeIds, nodes_addFlow, List.map_append, List.map_zipWith]
  refine congrArg (fragment.nodeIds ++ ·) ?_
  rw [flowIds, branchIds, ← List.map_fst_zip hlength, List.map_map, ← List.map_uncurry_zip_eq_zipWith,
    List.map_fst_zip hlength]
  rfl

/-- No two branches of a function get the same id. -/
theorem nodup_flowIds (owner : Recorded) (body : List FlowStmt) : (fragment.flowIds owner body).Nodup := by
  refine (Skeleton.nodup_labels _).map fun label label' h => ?_
  have hname := congrArg String.toList (Node.makeId_inj.1 h).2
  simp only [String.toList_append] at hname
  exact String.toList_inj.1 (List.append_cancel_left hname)

end Ids

/-! ### Clashes -/

mutual

/-- The ids that an outline's symbols and branches get although they are taken. -/
def clashes (scope : Scope) : Outline → Fragment → List String
  | .imports _, _ | .refers _ _, _ => []
  | .flows body, fragment => (fragment.flowIds scope.symbol body).filter fragment.hasNode
  | .declares declaration body, fragment =>
    let name := Name.qualify scope.symbol.qualifiedName declaration.localName
    let suffixed := name ++ "@L" ++ Nat.repr declaration.lines.1
    -- Both the plain name and the one with the line have to be taken.
    (if fragment.hasNode (fragment.makeId declaration.kind name)
        && fragment.hasNode (fragment.makeId declaration.kind suffixed) then
      [fragment.makeId declaration.kind suffixed] else [])
      ++ clashesAll (innerScope scope declaration fragment) body (recordSymbol scope declaration fragment)

/-- The ids that the symbols and branches of a list of outlines get although they are taken. -/
def clashesAll (scope : Scope) : List Outline → Fragment → List String
  | [], _ => []
  | outline :: rest, fragment =>
    clashes scope outline fragment ++ clashesAll scope rest (record scope outline fragment)

end

theorem repeated_append_singleton (l : List String) (id : String) :
    repeated [] (l ++ [id]) = repeated [] l ++ if id ∈ l then [id] else [] := by
  rw [repeated_append, List.append_nil]
  by_cases h : id ∈ l <;> simp [repeated, h]

/-- An imported module is a new node. -/
theorem repeated_addImport {fragment : Fragment} (h : fragment.Sound) (module : String) :
    repeated [] (fragment.addImport module).nodeIds = repeated [] fragment.nodeIds := by
  unfold addImport
  dsimp only
  split
  · rfl
  · next hnew =>
    rw [Bool.or_eq_true, not_or] at hnew
    rw [nodeIds_addEdge, nodeIds_push, repeated_append_singleton, if_neg, List.append_nil]
    intro hmem
    obtain ⟨node, hnode, hid⟩ := List.mem_map.1 hmem
    rw [(h.nodes node hnode).1] at hid
    obtain ⟨hkind, hname⟩ := Node.makeId_inj.1 hid
    exact hnew.2 (List.any_eq_true.2 ⟨node, hnode, by simp [hkind, hname]⟩)

/-- A symbol is lost when its name and its name with the line are taken. -/
theorem repeated_recordSymbol (scope : Scope) (declaration : Declaration) (fragment : Fragment) :
    repeated [] (recordSymbol scope declaration fragment).nodeIds = repeated [] fragment.nodeIds ++
      let name := Name.qualify scope.symbol.qualifiedName declaration.localName
      let suffixed := name ++ "@L" ++ Nat.repr declaration.lines.1
      if fragment.hasNode (fragment.makeId declaration.kind name)
          && fragment.hasNode (fragment.makeId declaration.kind suffixed) then
        [fragment.makeId declaration.kind suffixed] else [] := by
  rw [nodeIds_recordSymbol, repeated_append_singleton, symbolId, freeName]
  refine congrArg (repeated [] fragment.nodeIds ++ ·) ?_
  dsimp only
  by_cases hname : fragment.hasNode (fragment.makeId declaration.kind
      (Name.qualify scope.symbol.qualifiedName declaration.localName)) = true
  · simp only [hname, if_true, Bool.true_and, hasNode_iff]
  · have hfresh := mt hasNode_iff.2 hname
    simp only [hname, Bool.false_and, Bool.false_eq_true, if_false, hfresh]

/-- A branch is lost when its name is taken by a branch of another owner. -/
theorem repeated_addFlow (owner : Recorded) (body : List FlowStmt) (fragment : Fragment) :
    repeated [] (fragment.addFlow owner body).nodeIds =
      repeated [] fragment.nodeIds ++ (fragment.flowIds owner body).filter fragment.hasNode := by
  rw [nodeIds_addFlow, repeated_append, List.append_nil, repeated_of_nodup (nodup_flowIds _ _ _)]
  refine congrArg (repeated [] fragment.nodeIds ++ ·) (List.filter_congr fun id _ => ?_)
  rw [Bool.eq_iff_iff, List.contains_iff_mem, hasNode_iff]

mutual

theorem repeated_record {scope : Scope} {outline : Outline} {fragment : Fragment}
    (houtline : outline.regular = true) (h : fragment.Sound) (hscope : fragment.SpeaksFor scope) :
    repeated [] (record scope outline fragment).nodeIds =
      repeated [] fragment.nodeIds ++ clashes scope outline fragment := by
  match outline with
  | .imports module => rw [record, clashes, repeated_addImport h, List.append_nil]
  | .refers reference name =>
    rw [record, clashes, List.append_nil]
    rfl
  | .flows body => rw [record, clashes, repeated_addFlow]
  | .declares declaration body =>
    have hsymbol := h.recordSymbol declaration hscope.1
    simp only [Outline.regular, Bool.and_eq_true, Bool.or_eq_true] at houtline
    obtain ⟨⟨hkind, hendpoint⟩, hbody⟩ := houtline
    have hinner : repeated [] (recordAll (innerScope scope declaration fragment) body
        (recordSymbol scope declaration fragment)).nodeIds =
          repeated [] (recordSymbol scope declaration fragment).nodeIds ++
            clashesAll (innerScope scope declaration fragment) body
              (recordSymbol scope declaration fragment) := by
      rcases hendpoint with hendpoint | hempty
      · refine repeated_recordAll hbody hsymbol (speaksFor_innerScope hscope ?_)
        exact isSource_of_isSymbol hkind (by simpa using hendpoint)
      · -- An endpoint declares nothing, so nothing is recorded in its name.
        rw [List.isEmpty_iff.1 hempty, recordAll, clashesAll, List.append_nil]
    rw [record_declares, hinner, repeated_recordSymbol, clashes, List.append_assoc]

/-- **Recording outlines repeats the ids of the clashes**, and no other one. -/
theorem repeated_recordAll {scope : Scope} {outlines : List Outline} {fragment : Fragment}
    (houtlines : Outline.regularAll outlines = true) (h : fragment.Sound)
    (hscope : fragment.SpeaksFor scope) : repeated [] (recordAll scope outlines fragment).nodeIds =
      repeated [] fragment.nodeIds ++ clashesAll scope outlines fragment := by
  match outlines with
  | [] => rw [recordAll, clashesAll, List.append_nil]
  | outline :: rest =>
    rw [Outline.regularAll, Bool.and_eq_true] at houtlines
    rw [recordAll, clashesAll, repeated_recordAll houtlines.2 (h.record houtlines.1 hscope)
      (hscope.mono (grows_record scope outline fragment)), repeated_record houtlines.1 h hscope,
      List.append_assoc]

end

theorem nodes_resolved (fragment : Fragment) : fragment.resolved.nodes = fragment.nodes := by
  have hfold : ∀ (pending : List PendingReference) (built : Fragment),
      (pending.foldl fragment.resolveOne built).nodes = built.nodes := by
    intro pending
    induction pending with
    | nil => exact fun _ => rfl
    | cons first rest ih =>
      intro built
      rw [List.foldl_cons, ih]
      unfold resolveOne
      split
      · exact nodes_addEdge _ _ _ _ _ _
      · rfl
  exact hfold _ _

/-- The clashes of a file. -/
def clashesIn (label : SnapshotLabel) (path text : String) (tree : SourceTree) : List String :=
  let whole := ofFile label path (Language.ofPath path) text tree.signature .empty
  clashesAll whole.fileScope ((Language.ofPath path).outlines tree) whole

theorem repeated_ofTree (label : SnapshotLabel) (path text : String) (tree : SourceTree) :
    repeated [] (ofTree label path text tree).nodeIds = clashesIn label path text tree := by
  have hfile := sound_ofFile label path (Language.ofPath path) text tree.signature .empty
  have hrecorded := repeated_recordAll (Language.regularAll_outlines (Language.ofPath path) tree) hfile
    (speaksFor_fileScope hfile)
  rw [nodeIds, ofTree, nodes_resolved]
  exact hrecorded

end Fragment

namespace Snapshot

/-- **The nodes of a file that its snapshot loses are its clashes**, and the ids of its symbols and branches
differ from each other exactly when there is none. -/
theorem perm_ofFiles_clashes (config : AnalysisConfig) (label : SnapshotLabel) (file : SourceFile)
    {text : String} {tree : SourceTree} (hparsed : file.parsed config.maxFileBytes = .ok (text, tree)) :
    (ofFiles config label [file]).nodes.map (·.id) ++ Fragment.clashesIn label file.path text tree ~
        (Fragment.ofSourceFile config.maxFileBytes label file).nodes.map (·.id) ∧
      (((Fragment.ofSourceFile config.maxFileBytes label file).nodes.map (·.id)).Nodup ↔
        Fragment.clashesIn label file.path text tree = []) := by
  have hfragment : Fragment.ofSourceFile config.maxFileBytes label file =
      Fragment.ofTree label file.path text tree := by
    rw [Fragment.ofSourceFile, hparsed]
  rw [nodes_ofFiles, List.flatMap_singleton, fragmentOf, hfragment, ← Fragment.repeated_ofTree]
  exact ⟨perm_distinctBy_repeated Node.id [] _, repeated_eq_nil_iff.symm⟩

end Snapshot

/-! ### Three symbols on one line -/

namespace Fragment

section Three

variable {scope : Scope} {declaration : Declaration} {body : List Outline} {fragment : Fragment}

/-- A symbol takes its name, if it was not taken before. -/
theorem hasNode_name_of_declares : (record scope (.declares declaration body) fragment).hasNode
    (fragment.makeId declaration.kind
      (Name.qualify scope.symbol.qualifiedName declaration.localName)) = true := by
  rw [record_declares, hasNode_iff]
  refine nodeIds_subset (grows_recordAll _ _ _) ?_
  rw [nodeIds_recordSymbol, List.mem_append, symbolId, freeName]
  split
  · next htaken => exact .inl (hasNode_iff.1 htaken)
  · exact .inr List.mem_cons_self

/-- A symbol whose name is taken takes the name with its line. -/
theorem hasNode_suffixed_of_declares (h : fragment.hasNode (fragment.makeId declaration.kind
      (Name.qualify scope.symbol.qualifiedName declaration.localName)) = true) :
    (record scope (.declares declaration body) fragment).hasNode
      (fragment.makeId declaration.kind (Name.qualify scope.symbol.qualifiedName declaration.localName
        ++ "@L" ++ Nat.repr declaration.lines.1)) = true := by
  rw [record_declares, hasNode_iff]
  refine nodeIds_subset (grows_recordAll _ _ _) ?_
  rw [nodeIds_recordSymbol, symbolId, freeName, if_pos h]
  exact List.mem_append_right _ List.mem_cons_self

/-- **Three symbols of one kind and one name that begin on one line are one too many.** -/
theorem clashesAll_of_three {second third : Declaration} {secondBody thirdBody rest : List Outline}
    (hkind : second.kind = declaration.kind ∧ third.kind = declaration.kind)
    (hname : second.localName = declaration.localName ∧ third.localName = declaration.localName)
    (hline : third.lines.1 = second.lines.1) :
    clashesAll scope (.declares declaration body :: .declares second secondBody ::
      .declares third thirdBody :: rest) fragment ≠ [] := by
  let one := record scope (.declares declaration body) fragment
  let two := record scope (.declares second secondBody) one
  have hone : one.makeId = fragment.makeId := (grows_record _ _ _).makeId
  have htwo : two.makeId = fragment.makeId := (grows_record _ _ _).makeId.trans hone
  -- the first one takes the name, the second one the name with the line, and the third one finds both taken
  have hplain : one.hasNode (one.makeId second.kind
      (Name.qualify scope.symbol.qualifiedName second.localName)) = true := by
    rw [hone, hkind.1, hname.1]
    exact hasNode_name_of_declares
  have hsuffixed : two.hasNode (two.makeId third.kind (Name.qualify scope.symbol.qualifiedName
      third.localName ++ "@L" ++ Nat.repr third.lines.1)) = true := by
    have htaken : two.hasNode (one.makeId second.kind (Name.qualify scope.symbol.qualifiedName
        second.localName ++ "@L" ++ Nat.repr second.lines.1)) = true := hasNode_suffixed_of_declares hplain
    rwa [hone, hkind.1, ← hkind.2, hname.1, ← hname.2, ← hline, ← htwo] at htaken
  have hstill : two.hasNode (two.makeId third.kind
      (Name.qualify scope.symbol.qualifiedName third.localName)) = true := by
    rw [htwo, hkind.2, ← hkind.1, hname.2, ← hname.1, ← hone, hasNode_iff]
    exact nodeIds_subset (grows_record _ _ _) (hasNode_iff.1 hplain)
  have hclash : clashes scope (.declares third thirdBody) two ≠ [] := by
    simp [clashes, hstill, hsuffixed]
  simp only [clashesAll, ne_eq, List.append_eq_nil_iff, not_and]
  intro _ _ hnone
  exact absurd hnone hclash

end Three

end Fragment

/-- The outlines of a list that starts with a function. -/
theorem Script.outlines_cons_of_function {inClass : Bool} {wrapperComment : Option (Option SourceTree)}
    {previous : Option SourceTree} {tree name : SourceTree} {rest : List SourceTree}
    (hnamed : tree.named = true) (hkind : tree.kind = "function_declaration")
    (hname : tree.child? "name" = some name) :
    outlines inClass wrapperComment previous (tree :: rest) =
      function inClass (wrapperComment.getD previous) tree name.text tree ::
        outlines inClass wrapperComment (some tree) rest := by
  rw [outlines, if_pos hnamed, outline, hkind, hname]
  rfl

namespace Snapshot

/-- A file with three functions of one name on its only line. -/
def threeOnOneLine : SourceFile :=
  .ofRows "a.js" "function f() \x7b\x7d function f() \x7b\x7d function f() \x7b return f(); \x7d\n"
    [⟨0, "program", 1, none, 0, 61⟩,
     ⟨1, "function_declaration", 1, none, 0, 15⟩, ⟨2, "function", 0, none, 0, 8⟩,
     ⟨2, "identifier", 1, some "name", 9, 10⟩, ⟨2, "formal_parameters", 1, some "parameters", 10, 12⟩,
     ⟨3, "(", 0, none, 10, 11⟩, ⟨3, ")", 0, none, 11, 12⟩, ⟨2, "statement_block", 1, some "body", 13, 15⟩,
     ⟨3, "\x7b", 0, none, 13, 14⟩, ⟨3, "\x7d", 0, none, 14, 15⟩,
     ⟨1, "function_declaration", 1, none, 16, 31⟩, ⟨2, "function", 0, none, 16, 24⟩,
     ⟨2, "identifier", 1, some "name", 25, 26⟩, ⟨2, "formal_parameters", 1, some "parameters", 26, 28⟩,
     ⟨3, "(", 0, none, 26, 27⟩, ⟨3, ")", 0, none, 27, 28⟩, ⟨2, "statement_block", 1, some "body", 29, 31⟩,
     ⟨3, "\x7b", 0, none, 29, 30⟩, ⟨3, "\x7d", 0, none, 30, 31⟩,
     ⟨1, "function_declaration", 1, none, 32, 60⟩, ⟨2, "function", 0, none, 32, 40⟩,
     ⟨2, "identifier", 1, some "name", 41, 42⟩, ⟨2, "formal_parameters", 1, some "parameters", 42, 44⟩,
     ⟨3, "(", 0, none, 42, 43⟩, ⟨3, ")", 0, none, 43, 44⟩, ⟨2, "statement_block", 1, some "body", 45, 60⟩,
     ⟨3, "\x7b", 0, none, 45, 46⟩, ⟨3, "return_statement", 1, none, 47, 58⟩, ⟨4, "return", 0, none, 47, 53⟩,
     ⟨4, "call_expression", 1, none, 54, 57⟩, ⟨5, "identifier", 1, some "function", 54, 55⟩,
     ⟨5, "arguments", 1, some "arguments", 55, 57⟩, ⟨6, "(", 0, none, 55, 56⟩, ⟨6, ")", 0, none, 56, 57⟩,
     ⟨4, ";", 0, none, 57, 58⟩, ⟨3, "\x7d", 0, none, 59, 60⟩]

/-- The text and the tree of the file. -/
def threeOnOneLineParsed : String × SourceTree :=
  ("function f() \x7b\x7d function f() \x7b\x7d function f() \x7b return f(); \x7d\n",
    threeOnOneLine.tree.getD default)

theorem parsed_threeOnOneLine : threeOnOneLine.parsed 1048576 = .ok threeOnOneLineParsed :=
  SourceFile.parsed_ofRows (by decide) (by decide) (by decide)

theorem clashesIn_threeOnOneLine (label : SnapshotLabel) :
    Fragment.clashesIn label threeOnOneLine.path threeOnOneLineParsed.1 threeOnOneLineParsed.2 ≠ [] := by
  have hlanguage : Language.ofPath threeOnOneLine.path = .javaScript := by decide +kernel
  have hlength : threeOnOneLineParsed.2.children.length = 3 := by decide +kernel
  have hfunctions : ∀ tree ∈ threeOnOneLineParsed.2.children, tree.named = true ∧
      tree.kind = "function_declaration" ∧ (tree.child? "name").map (·.text) = some "f" ∧
        tree.startRow = 0 := by
    decide +kernel
  obtain ⟨one, two, three, hchildren⟩ := List.length_eq_three.1 hlength
  rw [hchildren] at hfunctions
  simp only [List.forall_mem_cons, List.not_mem_nil, false_imp_iff, forall_const, and_true,
    Option.map_eq_some_iff] at hfunctions
  obtain ⟨⟨hnamed₁, hkind₁, ⟨name₁, hname₁, htext₁⟩, hrow₁⟩, ⟨hnamed₂, hkind₂, ⟨name₂, hname₂, htext₂⟩, hrow₂⟩,
    hnamed₃, hkind₃, ⟨name₃, hname₃, htext₃⟩, hrow₃⟩ := hfunctions
  have hplain (tree : SourceTree) : Script.functionKind false "f" tree = .function := by
    have hhook : Script.isHookName "f" = false := by decide +kernel
    have hcapital : Script.isCapitalized "f" = false := by decide +kernel
    simp [Script.functionKind, hhook, hcapital]
  rw [Fragment.clashesIn, hlanguage, Language.outlines, hchildren,
    Script.outlines_cons_of_function hnamed₁ hkind₁ hname₁,
    Script.outlines_cons_of_function hnamed₂ hkind₂ hname₂,
    Script.outlines_cons_of_function hnamed₃ hkind₃ hname₃, htext₁, htext₂, htext₃]
  simp only [Script.function, hplain]
  refine Fragment.clashesAll_of_three ⟨rfl, rfl⟩ ⟨rfl, rfl⟩ ?_
  simp only [Declaration.ofTree, SourceTree.lines, hrow₂, hrow₃]

theorem perm_ofFiles_clashes_three :
    threeOnOneLine.parsed ({} : AnalysisConfig).maxFileBytes = .ok threeOnOneLineParsed ∧
    (ofFiles {} ⟨"r", "s", "HEAD"⟩ [threeOnOneLine]).nodes.map (·.id) ++
        Fragment.clashesIn ⟨"r", "s", "HEAD"⟩ threeOnOneLine.path threeOnOneLineParsed.1 threeOnOneLineParsed.2 ~
      (Fragment.ofSourceFile 1048576 ⟨"r", "s", "HEAD"⟩ threeOnOneLine).nodes.map (·.id) ∧
    (((Fragment.ofSourceFile 1048576 ⟨"r", "s", "HEAD"⟩ threeOnOneLine).nodes.map (·.id)).Nodup ↔
      Fragment.clashesIn ⟨"r", "s", "HEAD"⟩ threeOnOneLine.path threeOnOneLineParsed.1
        threeOnOneLineParsed.2 = []) :=
  ⟨parsed_threeOnOneLine, perm_ofFiles_clashes {} ⟨"r", "s", "HEAD"⟩ threeOnOneLine parsed_threeOnOneLine⟩

/-- Not all nodes of a file have ids that differ from each other. -/
theorem nodeIds_not_nodup_three : threeOnOneLine.parsed 1048576 = .ok threeOnOneLineParsed ∧
    ¬((Fragment.ofSourceFile 1048576 ⟨"r", "s", "HEAD"⟩ threeOnOneLine).nodes.map (·.id)).Nodup := by
  refine ⟨parsed_threeOnOneLine, fun hnodup => clashesIn_threeOnOneLine ⟨"r", "s", "HEAD"⟩ ?_⟩
  have hfragment : Fragment.ofSourceFile 1048576 ⟨"r", "s", "HEAD"⟩ threeOnOneLine =
      Fragment.ofTree ⟨"r", "s", "HEAD"⟩ threeOnOneLine.path threeOnOneLineParsed.1
        threeOnOneLineParsed.2 := by
    rw [Fragment.ofSourceFile, parsed_threeOnOneLine]
  rw [hfragment] at hnodup
  rw [← Fragment.repeated_ofTree]
  exact repeated_eq_nil_iff.2 hnodup

end Snapshot

end StructuralDiff
