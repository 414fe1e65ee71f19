import StructuralDiff.Fragment
import StructuralDiff.Proofs.Extract.Regular
import StructuralDiff.Proofs.Flow.Skeleton
import StructuralDiff.Proofs.Graph.Identifier

/-!
# Soundness of fragments

A fragment grows by nodes, edges, parents and references. Whatever is recorded in it:

* `Grows`: nodes are only added at the end, and the file stays the same.
* `Sound`: the id of a node says its kind and name, every edge joins two nodes that are there and has the id
  that says so, and no two edges have the same id.
* `Sound.recordAll`, `Sound.resolved`: recording regular outlines and resolving references keep a fragment
  sound.
-/

namespace StructuralDiff

/-- Nodes of the kind can be the source of an edge. -/
def NodeKind.isSource (kind : NodeKind) : Bool :=
  kind != .module && kind != .endpoint

/-- A symbol is no module, so it can speak unless it is an endpoint. -/
theorem isSource_of_isSymbol {kind : NodeKind} (h : kind.isSymbol = true) (hne : kind ≠ .endpoint) :
    kind.isSource = true := by
  cases kind <;> simp_all [NodeKind.isSource, NodeKind.isSymbol]

namespace Fragment

/-! ### Steps by name -/

/-- The edge that is added to a fragment. -/
def edge (fragment : Fragment) (kind : EdgeKind) (source target : String) (flow : Option FlowType)
    (callSite : Bool) : Edge :=
  let metadata :=
    match flow with
    | some flow => Metadata.empty.insert flowTypeKey flow.name
    | none => Metadata.empty
  { id := Edge.makeId kind source target flow, source, target, kind
    filePath := some fragment.path
    metadata := if callSite then metadata.insert callSiteKey "true" else metadata
    snapshotId := fragment.label.snapshotId
    revision := fragment.label.revision }

theorem addEdge_eq (fragment : Fragment) (kind : EdgeKind) (source target : String)
    (flow : Option FlowType) (callSite : Bool) :
    fragment.addEdge kind source target flow callSite =
      if fragment.edges.any (·.id == Edge.makeId kind source target flow) then fragment
      else { fragment with edges := fragment.edges ++ [fragment.edge kind source target flow callSite] } :=
  rfl

/-- The flow type of an edge is the one it was made with. -/
theorem flowType?_edge (fragment : Fragment) (kind : EdgeKind) (source target : String)
    (flow : Option FlowType) (callSite : Bool) :
    (fragment.edge kind source target flow callSite).flowType? = flow := by
  match flow, callSite with
  | none, false => rfl
  | none, true => rfl
  | some flow, false => cases flow <;> rfl
  | some flow, true => cases flow <;> rfl

/-- A symbol with the edge that exposes it, if it is an endpoint. -/
def recordSymbol (scope : Scope) (declaration : Declaration) (fragment : Fragment) : Fragment :=
  let added := fragment.addSymbol declaration scope.symbol.id scope.symbol.qualifiedName
  if declaration.kind == .endpoint then
    added.2.addEdge .exposesEndpoint scope.symbol.id added.1.id none false
  else added.2

/-- The scope inside a symbol. -/
def innerScope (scope : Scope) (declaration : Declaration) (fragment : Fragment) : Scope :=
  let symbol := (fragment.addSymbol declaration scope.symbol.id scope.symbol.qualifiedName).1
  { symbol, renderer := if declaration.rendersForOwner then scope.renderer else symbol.id }

theorem record_declares (scope : Scope) (declaration : Declaration) (body : List Outline)
    (fragment : Fragment) : record scope (.declares declaration body) fragment =
      recordAll (innerScope scope declaration fragment) body
        (recordSymbol scope declaration fragment) := by
  rw [record]
  rfl

/-- Adds the edge of a reference, if it is to a known symbol. -/
def resolveOne (fragment : Fragment) (built : Fragment) (pending : PendingReference) : Fragment :=
  match fragment.target? pending with
  | some target =>
    built.addEdge (pending.reference.edgeKind target.kind) pending.source target.id none
      (pending.reference == .callSite)
  | none => built

/-! ### Growth -/

/-- What a fragment knows about its file. -/
def origin (fragment : Fragment) : SnapshotLabel × String × String × String :=
  (fragment.label, fragment.path, fragment.modulePath, fragment.fileId)

/-- The fragment `b` is the fragment `a` with more in it. -/
structure Grows (a b : Fragment) : Prop where
  origin : b.origin = a.origin
  nodes : a.nodes <+: b.nodes

namespace Grows

variable {a b c : Fragment}

theorem refl (a : Fragment) : Grows a a :=
  ⟨rfl, List.prefix_rfl⟩

theorem trans (hab : Grows a b) (hbc : Grows b c) : Grows a c :=
  ⟨hbc.origin.trans hab.origin, hab.nodes.trans hbc.nodes⟩

theorem label (h : Grows a b) : b.label = a.label := congrArg (·.1) h.origin

theorem path (h : Grows a b) : b.path = a.path := congrArg (·.2.1) h.origin

theorem modulePath (h : Grows a b) : b.modulePath = a.modulePath := congrArg (·.2.2.1) h.origin

theorem fileId (h : Grows a b) : b.fileId = a.fileId := congrArg (·.2.2.2) h.origin

theorem makeId (h : Grows a b) : b.makeId = a.makeId := by
  unfold Fragment.makeId
  rw [h.label, h.path]

theorem mem (h : Grows a b) {node : Node} (hnode : node ∈ a.nodes) : node ∈ b.nodes :=
  h.nodes.subset hnode

end Grows

section Grows

variable (fragment : Fragment)

theorem grows_push (node : Node) : Grows fragment (fragment.push node) :=
  ⟨rfl, List.prefix_append _ _⟩

theorem grows_addEdge (kind : EdgeKind) (source target : String) (flow : Option FlowType)
    (callSite : Bool) : Grows fragment (fragment.addEdge kind source target flow callSite) := by
  unfold addEdge
  dsimp only
  split
  · exact .refl fragment
  · exact ⟨rfl, List.prefix_rfl⟩

theorem grows_declare (parent child : String) : Grows fragment (fragment.declare parent child) := by
  have hedge := grows_addEdge { fragment with parents := fragment.parents.insert child parent }
    .declares parent child none false
  exact ⟨hedge.origin, hedge.nodes⟩

theorem grows_addImport (module : String) : Grows fragment (fragment.addImport module) := by
  unfold addImport
  dsimp only
  split
  · exact .refl fragment
  · exact (grows_push _ _).trans (grows_addEdge _ _ _ _ _ _)

theorem grows_addSymbol (declaration : Declaration) (parent scopeName : String) :
    Grows fragment (fragment.addSymbol declaration parent scopeName).2 :=
  (grows_push _ _).trans (grows_declare _ _ _)

theorem grows_recordSymbol_of_addSymbol (scope : Scope) (declaration : Declaration) :
    Grows (fragment.addSymbol declaration scope.symbol.id scope.symbol.qualifiedName).2
      (recordSymbol scope declaration fragment) := by
  unfold recordSymbol
  dsimp only
  split
  · exact grows_addEdge _ _ _ _ _ _
  · exact .refl _

theorem grows_recordSymbol (scope : Scope) (declaration : Declaration) :
    Grows fragment (recordSymbol scope declaration fragment) :=
  (grows_addSymbol _ _ _ _).trans (grows_recordSymbol_of_addSymbol _ _ _)

/-- The node of a branch with its parent, before its callee is referred to. -/
theorem grows_addBranch_of_declare (owner : Recorded) (scope label : String) (site : Site) :
    let node := fragment.node .branch label (owner.qualifiedName ++ "::" ++ label) (some site.lines)
      site.signature (branchMetadata owner.qualifiedName site)
    Grows ((fragment.push node).declare owner.id node.id) (fragment.addBranch owner scope label site) := by
  unfold addBranch
  dsimp only
  split
  · exact ⟨rfl, List.prefix_rfl⟩
  · exact .refl _

theorem grows_addBranch (owner : Recorded) (scope label : String) (site : Site) :
    Grows fragment (fragment.addBranch owner scope label site) :=
  ((grows_push _ _).trans (grows_declare _ _ _)).trans (grows_addBranch_of_declare _ _ _ _ _)

theorem grows_addPieces (owner : Recorded) (scope : String) (ids labels : List String)
    (pieces : List Piece) : Grows fragment (addPieces owner scope ids labels pieces fragment) := by
  induction pieces generalizing labels fragment with
  | nil => exact .refl fragment
  | cons piece rest ih =>
    cases piece with
    | link source target flow => exact (grows_addEdge _ _ _ _ _ _).trans (ih _ _)
    | branch site => exact (grows_addBranch _ _ _ _ _).trans (ih _ _)

theorem grows_addFlow (owner : Recorded) (body : List FlowStmt) :
    Grows fragment (fragment.addFlow owner body) := by
  unfold addFlow
  dsimp only
  split
  · exact (grows_addPieces _ _ _ _ _ _).trans (grows_addEdge _ _ _ _ _ _)
  · exact grows_addPieces _ _ _ _ _ _

end Grows

mutual

theorem grows_record (scope : Scope) (outline : Outline) (fragment : Fragment) :
    Grows fragment (record scope outline fragment) := by
  match outline with
  | .imports module => exact grows_addImport fragment module
  | .refers reference name => exact ⟨rfl, List.prefix_rfl⟩
  | .flows body => exact grows_addFlow fragment scope.symbol body
  | .declares declaration body =>
    rw [record_declares]
    exact (grows_recordSymbol fragment scope declaration).trans (grows_recordAll _ body _)

theorem grows_recordAll (scope : Scope) (outlines : List Outline) (fragment : Fragment) :
    Grows fragment (recordAll scope outlines fragment) := by
  match outlines with
  | [] => exact .refl fragment
  | outline :: rest =>
    exact (grows_record scope outline fragment).trans (grows_recordAll scope rest _)

end

theorem grows_resolveOne (fragment built : Fragment) (pending : PendingReference) :
    Grows built (fragment.resolveOne built pending) := by
  unfold resolveOne
  split
  · exact grows_addEdge _ _ _ _ _ _
  · exact .refl built

theorem grows_foldl_resolveOne (fragment : Fragment) (pending : List PendingReference)
    (built : Fragment) : Grows built (pending.foldl fragment.resolveOne built) := by
  induction pending generalizing built with
  | nil => exact .refl built
  | cons first rest ih => exact (grows_resolveOne fragment built first).trans (ih _)

theorem grows_resolved (fragment : Fragment) : Grows fragment fragment.resolved :=
  grows_foldl_resolveOne fragment fragment.pending fragment

/-! ### Soundness -/

/-- A node with the id is there, of a kind that can be the source of an edge. -/
def Speaks (fragment : Fragment) (id : String) : Prop :=
  ∃ node ∈ fragment.nodes, node.id = id ∧ node.kind.isSource = true

/-- A node with the id is there, and an edge of the kind and flow type can go to it. -/
def Listens (fragment : Fragment) (kind : EdgeKind) (id : String) (flow : Option FlowType) : Prop :=
  ∃ node ∈ fragment.nodes, node.id = id ∧ Edge.FlowFits kind node.kind flow

/-- What is recorded in a fragment fits together. -/
structure Sound (fragment : Fragment) : Prop where
  file : ∃ node ∈ fragment.nodes, node.id = fragment.fileId ∧ node.kind = .file
  nodes : ∀ node ∈ fragment.nodes,
    node.id = fragment.makeId node.kind node.qualifiedName ∧ node.filePath = fragment.path
  edges : ∀ edge ∈ fragment.edges, fragment.Speaks edge.source ∧
    fragment.Listens edge.kind edge.target edge.flowType? ∧
    edge.id = Edge.makeId edge.kind edge.source edge.target edge.flowType? ∧
    edge.filePath = some fragment.path
  edgeIds : (fragment.edges.map (·.id)).Nodup
  pending : ∀ reference ∈ fragment.pending, fragment.Speaks reference.source

section Monotone

variable {a b : Fragment} (h : Grows a b)

include h

theorem Speaks.mono {id : String} (hid : a.Speaks id) : b.Speaks id := by
  obtain ⟨node, hnode, hspeaks⟩ := hid
  exact ⟨node, h.mem hnode, hspeaks⟩

theorem Listens.mono {kind : EdgeKind} {id : String} {flow : Option FlowType}
    (hid : a.Listens kind id flow) : b.Listens kind id flow := by
  obtain ⟨node, hnode, hlistens⟩ := hid
  exact ⟨node, h.mem hnode, hlistens⟩

end Monotone

theorem Sound.speaks_fileId {fragment : Fragment} (h : fragment.Sound) :
    fragment.Speaks fragment.fileId := by
  obtain ⟨node, hnode, hid, hkind⟩ := h.file
  exact ⟨node, hnode, hid, by rw [hkind]; rfl⟩

/-- Adding nodes and references, and nothing else, keeps a fragment sound. -/
theorem Sound.of_grows {a b : Fragment} (ha : a.Sound) (h : Grows a b) (hedges : b.edges = a.edges)
    (hnodes : ∀ node ∈ b.nodes, node ∈ a.nodes ∨
      node.id = a.makeId node.kind node.qualifiedName ∧ node.filePath = a.path)
    (hpending : ∀ reference ∈ b.pending, reference ∈ a.pending ∨ b.Speaks reference.source) :
    b.Sound := by
  refine ⟨?_, fun node hnode => ?_, fun edge hedge => ?_, ?_, fun reference hreference => ?_⟩
  · obtain ⟨node, hnode, hfile⟩ := ha.file
    rw [h.fileId]
    exact ⟨node, h.mem hnode, hfile⟩
  · rw [h.makeId, h.path]
    rcases hnodes node hnode with hold | hnew
    · exact ha.nodes node hold
    · exact hnew
  · rw [hedges] at hedge
    obtain ⟨hsource, htarget, hid⟩ := ha.edges edge hedge
    rw [h.path]
    exact ⟨hsource.mono h, htarget.mono h, hid⟩
  · rw [hedges]
    exact ha.edgeIds
  · rcases hpending reference hreference with hold | hnew
    · exact (ha.pending reference hold).mono h
    · exact hnew

theorem Sound.push {fragment : Fragment} (h : fragment.Sound) (node : Node)
    (hid : node.id = fragment.makeId node.kind node.qualifiedName)
    (hpath : node.filePath = fragment.path) : (fragment.push node).Sound := by
  refine h.of_grows (grows_push _ _) rfl (fun other hother => ?_) fun _ => .inl
  rcases List.mem_append.1 hother with hother | hother
  · exact .inl hother
  · rw [List.mem_singleton.1 hother]
    exact .inr ⟨hid, hpath⟩

theorem Sound.addEdge {fragment : Fragment} (h : fragment.Sound) {kind : EdgeKind}
    {source target : String} {flow : Option FlowType} {callSite : Bool}
    (hsource : fragment.Speaks source) (htarget : fragment.Listens kind target flow) :
    (fragment.addEdge kind source target flow callSite).Sound := by
  rw [addEdge_eq]
  split
  · exact h
  · next hfresh =>
    refine ⟨h.file, h.nodes, fun edge hedge => ?_, ?_, h.pending⟩
    · rcases List.mem_append.1 hedge with hedge | hedge
      · exact h.edges edge hedge
      · rw [List.mem_singleton.1 hedge, flowType?_edge]
        exact ⟨hsource, htarget, rfl, rfl⟩
    · rw [List.map_append, List.nodup_append]
      refine ⟨h.edgeIds, by simp, ?_⟩
      rintro id hid other hother rfl
      rw [List.map_singleton, List.mem_singleton] at hother
      obtain ⟨edge, hedge, hedgeId⟩ := List.mem_map.1 hid
      refine hfresh (List.any_eq_true.2 ⟨edge, hedge, ?_⟩)
      rw [hedgeId, hother]
      exact beq_self_eq_true _

theorem flowFits_none {kind : EdgeKind} {target : NodeKind} (h : kind = .calls → target ≠ .branch) :
    Edge.FlowFits kind target none := by
  constructor
  · intro hsome
    cases hsome
  · intro hboth
    exact absurd hboth.2 (h hboth.1)

theorem flowFits_branch (flow : FlowType) : Edge.FlowFits .calls .branch (some flow) :=
  ⟨fun _ => ⟨rfl, rfl⟩, fun _ => rfl⟩

theorem Sound.declare {fragment : Fragment} (h : fragment.Sound) {parent child : String}
    (hparent : fragment.Speaks parent) (hchild : ∃ node ∈ fragment.nodes, node.id = child) :
    (fragment.declare parent child).Sound := by
  have hparents : { fragment with parents := fragment.parents.insert child parent }.Sound :=
    ⟨h.file, h.nodes, h.edges, h.edgeIds, h.pending⟩
  obtain ⟨node, hnode, hid⟩ := hchild
  exact hparents.addEdge hparent ⟨node, hnode, hid, flowFits_none (by simp)⟩

theorem mem_push (fragment : Fragment) (node : Node) : node ∈ (fragment.push node).nodes :=
  List.mem_append_right _ List.mem_cons_self

theorem Sound.addImport {fragment : Fragment} (h : fragment.Sound) (module : String) :
    (fragment.addImport module).Sound := by
  unfold Fragment.addImport
  dsimp only
  split
  · exact h
  · refine (h.push _ rfl rfl).addEdge (h.speaks_fileId.mono (grows_push _ _)) ?_
    exact ⟨_, mem_push _ _, rfl, flowFits_none (by simp)⟩

theorem Sound.referFrom {fragment : Fragment} (h : fragment.Sound) (reference : Reference)
    {source : String} (scope name : String) (hsource : fragment.Speaks source) :
    (fragment.referFrom reference source scope name).Sound := by
  refine h.of_grows ⟨rfl, List.prefix_rfl⟩ rfl (fun _ => .inl) fun pending hpending => ?_
  rcases List.mem_append.1 hpending with hpending | hpending
  · exact .inl hpending
  · rw [List.mem_singleton.1 hpending]
    exact .inr hsource

theorem Sound.addSymbol {fragment : Fragment} (h : fragment.Sound) (declaration : Declaration)
    {parent : String} (scopeName : String) (hparent : fragment.Speaks parent) :
    (fragment.addSymbol declaration parent scopeName).2.Sound := by
  unfold Fragment.addSymbol
  dsimp only
  refine (h.push _ rfl rfl).declare (hparent.mono (grows_push _ _)) ?_
  exact ⟨_, mem_push _ _, rfl⟩

/-- The recorded symbol is a node of the fragment. -/
theorem exists_addSymbol (fragment : Fragment) (declaration : Declaration)
    (parent scopeName : String) :
    ∃ node ∈ (fragment.addSymbol declaration parent scopeName).2.nodes,
      node.id = (fragment.addSymbol declaration parent scopeName).1.id ∧
        node.kind = declaration.kind := by
  unfold addSymbol
  dsimp only
  exact ⟨_, (grows_declare _ _ _).mem (mem_push _ _), rfl, rfl⟩

theorem Sound.recordSymbol {fragment : Fragment} (h : fragment.Sound) {scope : Scope}
    (declaration : Declaration) (hscope : fragment.Speaks scope.symbol.id) :
    (recordSymbol scope declaration fragment).Sound := by
  have hadded := h.addSymbol declaration scope.symbol.qualifiedName hscope
  obtain ⟨node, hnode, hid, -⟩ :=
    exists_addSymbol fragment declaration scope.symbol.id scope.symbol.qualifiedName
  unfold Fragment.recordSymbol
  dsimp only
  split
  · refine hadded.addEdge (hscope.mono (grows_addSymbol _ _ _ _)) ?_
    exact ⟨node, hnode, hid, flowFits_none (by simp)⟩
  · exact hadded

/-- The node of a branch. -/
theorem exists_addBranch (fragment : Fragment) (owner : Recorded) (scope label : String) (site : Site) :
    ∃ node ∈ (fragment.addBranch owner scope label site).nodes,
      node.id = fragment.makeId .branch (owner.qualifiedName ++ "::" ++ label) ∧
        node.kind = .branch := by
  unfold addBranch
  dsimp only
  split
  · exact ⟨_, (grows_declare _ _ _).mem (mem_push _ _), rfl, rfl⟩
  · exact ⟨_, (grows_declare _ _ _).mem (mem_push _ _), rfl, rfl⟩

theorem Sound.addBranch {fragment : Fragment} (h : fragment.Sound) {owner : Recorded}
    (scope label : String) (site : Site) (howner : fragment.Speaks owner.id) :
    (fragment.addBranch owner scope label site).Sound := by
  unfold Fragment.addBranch
  dsimp only
  have hdeclared := (h.push (fragment.node .branch label
    (owner.qualifiedName ++ "::" ++ label) (some site.lines) site.signature
    (branchMetadata owner.qualifiedName site)) rfl rfl).declare
      (howner.mono (grows_push _ _)) ⟨_, mem_push _ _, rfl⟩
  split
  · refine hdeclared.referFrom _ _ _ ?_
    exact ⟨_, (grows_declare _ _ _).mem (mem_push _ _), rfl, rfl⟩
  · exact hdeclared

/-- The ids are those of branches of the fragment, up to the ordinal `n`. -/
def HasBranches (fragment : Fragment) (ids : List String) (n : Nat) : Prop :=
  ∀ i < n, ∃ node ∈ fragment.nodes, node.id = ids.getD i "" ∧ node.kind = .branch

theorem HasBranches.mono {a b : Fragment} (h : Grows a b) {ids : List String} {n : Nat}
    (hids : a.HasBranches ids n) : b.HasBranches ids n := by
  intro i hi
  obtain ⟨node, hnode, hbranch⟩ := hids i hi
  exact ⟨node, h.mem hnode, hbranch⟩

/-- The ids of the branches of an owner, by their labels. -/
def branchIds (fragment : Fragment) (owner : Recorded) (labels : List String) : List String :=
  labels.map fun label => fragment.makeId .branch (owner.qualifiedName ++ "::" ++ label)

theorem branchIds_of_grows {a b : Fragment} (h : Grows a b) (owner : Recorded) (labels : List String) :
    b.branchIds owner labels = a.branchIds owner labels := by
  unfold branchIds
  rw [h.makeId]

/-- One more branch, the one with the next label. -/
theorem hasBranches_addBranch {fragment : Fragment} {owner : Recorded} {labels ids : List String}
    {n : Nat} (hlabels : fragment.branchIds owner labels = ids) (hids : fragment.HasBranches ids n)
    (hn : n < labels.length) (scope : String) (site : Site) :
    (fragment.addBranch owner scope ((labels.drop n).headD "") site).HasBranches ids (n + 1) := by
  intro i hi
  rcases Nat.lt_succ_iff_lt_or_eq.1 hi with hi | rfl
  · exact hids.mono (grows_addBranch _ _ _ _ _) i hi
  · obtain ⟨node, hnode, hid, hkind⟩ :=
      exists_addBranch fragment owner scope ((labels.drop i).headD "") site
    refine ⟨node, hnode, hid.trans ?_, hkind⟩
    rw [List.headD_eq_head?_getD, List.head?_drop, ← hlabels]
    simp [branchIds, hn]

theorem Sound.addLink {fragment : Fragment} (h : fragment.Sound) {ids : List String} {n : Nat}
    (hids : fragment.HasBranches ids n) {source target : Nat} (flow : FlowType) (hsource : source < n)
    (htarget : target < n) :
    (fragment.addEdge .calls (ids.getD source "") (ids.getD target "") (some flow) false).Sound := by
  obtain ⟨first, hfirst, hfirstId, hfirstKind⟩ := hids source hsource
  obtain ⟨last, hlast, hlastId, hlastKind⟩ := hids target htarget
  refine h.addEdge ⟨first, hfirst, hfirstId, ?_⟩ ⟨last, hlast, hlastId, ?_⟩
  · rw [hfirstKind]
    rfl
  · rw [hlastKind]
    exact flowFits_branch flow

/-- **The pieces of a skeleton keep a fragment sound.** The induction carries how many branches there are. -/
theorem Sound.addPieces {owner : Recorded} (scope : String) {labels ids : List String}
    {pieces : List Piece} {fragment : Fragment} {n : Nat} (h : fragment.Sound)
    (howner : fragment.Speaks owner.id) (hlabels : fragment.branchIds owner labels = ids)
    (hids : fragment.HasBranches ids n) (hscoped : Piece.Scoped n pieces)
    (hn : n + Piece.branchCount pieces = labels.length) :
    (addPieces owner scope ids (labels.drop n) pieces fragment).Sound ∧
      (addPieces owner scope ids (labels.drop n) pieces fragment).HasBranches ids labels.length := by
  induction pieces generalizing fragment n with
  | nil =>
    rw [Piece.branchCount_nil, Nat.add_zero] at hn
    exact ⟨h, hn ▸ hids⟩
  | cons piece rest ih =>
    cases piece with
    | link source target flow =>
      obtain ⟨hsource, htarget, hrest⟩ := hscoped
      rw [Piece.branchCount_link] at hn
      have hgrows := fragment.grows_addEdge .calls (ids.getD source "") (ids.getD target "")
        (some flow) false
      exact ih (h.addLink hids flow hsource htarget) (howner.mono hgrows)
        ((branchIds_of_grows hgrows owner labels).trans hlabels) (hids.mono hgrows) hrest hn
    | branch site =>
      rw [Piece.branchCount_branch] at hn
      have hgrows := fragment.grows_addBranch owner scope ((labels.drop n).headD "") site
      rw [Fragment.addPieces, List.tail_drop]
      exact ih (h.addBranch scope _ site howner) (howner.mono hgrows)
        ((branchIds_of_grows hgrows owner labels).trans hlabels)
        (hasBranches_addBranch hlabels hids (by omega) scope site) hscoped (by omega)

theorem Sound.addFlow {fragment : Fragment} (h : fragment.Sound) {owner : Recorded}
    (howner : fragment.Speaks owner.id) (body : List FlowStmt) : (fragment.addFlow owner body).Sound := by
  obtain ⟨hscoped, hentry⟩ := Skeleton.scoped_ofBody body
  have hcount := Skeleton.length_labels (Skeleton.ofBody body)
  obtain ⟨hbuilt, hids⟩ := Sound.addPieces (fragment.scopeOf owner.id) h howner rfl
    (fun i hi => absurd hi (Nat.not_lt_zero i)) hscoped (by rw [hcount, Nat.zero_add])
  unfold Fragment.addFlow
  dsimp only
  split
  · next entry hsome =>
    obtain ⟨node, hnode, hid, hkind⟩ := hids entry (hentry entry hsome)
    refine Sound.addEdge hbuilt (howner.mono (grows_addPieces _ _ _ _ _ _)) ⟨node, hnode, hid, ?_⟩
    rw [hkind]
    exact flowFits_branch .next
  · exact hbuilt

/-! ### Outlines -/

/-- The symbol of a scope and the one for which things are rendered are nodes that can speak. -/
def SpeaksFor (fragment : Fragment) (scope : Scope) : Prop :=
  fragment.Speaks scope.symbol.id ∧ fragment.Speaks scope.renderer

theorem SpeaksFor.mono {a b : Fragment} (h : Grows a b) {scope : Scope} (hscope : a.SpeaksFor scope) :
    b.SpeaksFor scope :=
  ⟨hscope.1.mono h, hscope.2.mono h⟩

theorem speaksFor_innerScope {fragment : Fragment} {scope : Scope} (hscope : fragment.SpeaksFor scope)
    {declaration : Declaration} (hkind : declaration.kind.isSource = true) :
    (recordSymbol scope declaration fragment).SpeaksFor (innerScope scope declaration fragment) := by
  obtain ⟨node, hnode, hid, hnodeKind⟩ :=
    exists_addSymbol fragment declaration scope.symbol.id scope.symbol.qualifiedName
  have hgrows := fragment.grows_recordSymbol_of_addSymbol scope declaration
  have hsymbol : (recordSymbol scope declaration fragment).Speaks
      (innerScope scope declaration fragment).symbol.id :=
    ⟨node, hgrows.mem hnode, hid, hnodeKind ▸ hkind⟩
  refine ⟨hsymbol, ?_⟩
  unfold innerScope
  dsimp only
  split
  · exact hscope.2.mono (grows_recordSymbol _ _ _)
  · exact hsymbol

mutual

theorem Sound.record {scope : Scope} {outline : Outline} {fragment : Fragment}
    (houtline : outline.regular = true) (h : fragment.Sound) (hscope : fragment.SpeaksFor scope) :
    (record scope outline fragment).Sound := by
  match outline with
  | .imports module => exact h.addImport module
  | .refers reference name =>
    refine h.referFrom _ _ _ ?_
    split
    · exact hscope.2
    · exact hscope.1
  | .flows body => exact h.addFlow hscope.1 body
  | .declares declaration body =>
    rw [record_declares]
    have hsymbol := h.recordSymbol declaration hscope.1
    simp only [Outline.regular, Bool.and_eq_true, Bool.or_eq_true] at houtline
    obtain ⟨⟨hkind, hendpoint⟩, hbody⟩ := houtline
    rcases hendpoint with hendpoint | hempty
    · refine Sound.recordAll hbody hsymbol (speaksFor_innerScope hscope ?_)
      exact isSource_of_isSymbol hkind (by simpa using hendpoint)
    · rw [List.isEmpty_iff.1 hempty]
      exact hsymbol

theorem Sound.recordAll {scope : Scope} {outlines : List Outline} {fragment : Fragment}
    (houtlines : Outline.regularAll outlines = true) (h : fragment.Sound)
    (hscope : fragment.SpeaksFor scope) : (recordAll scope outlines fragment).Sound := by
  match outlines with
  | [] => exact h
  | outline :: rest =>
    rw [Outline.regularAll, Bool.and_eq_true] at houtlines
    rw [Fragment.recordAll]
    exact Sound.recordAll houtlines.2 (Sound.record houtlines.1 h hscope)
      (hscope.mono (grows_record scope outline fragment))

end

/-! ### Resolution -/

theorem target?_eq_some {fragment : Fragment} {pending : PendingReference} {target : Node}
    (h : fragment.target? pending = some target) :
    target ∈ fragment.nodes ∧ target.kind.isSymbol = true := by
  unfold target? at h
  dsimp only at h
  have hmem : target ∈ fragment.nodes.filter fun node =>
      node.kind.isSymbol && node.kind != .endpoint && node.name == pending.name
        && pending.reference.accepts node.kind := by
    rcases Option.or_eq_some_iff.1 h with h | ⟨-, h⟩
    · rcases Option.or_eq_some_iff.1 h with h | ⟨-, h⟩
      · exact List.mem_of_find?_eq_some h
      · exact List.mem_of_find?_eq_some h
    · exact List.mem_of_head? h
  rw [List.mem_filter] at hmem
  simp only [Bool.and_eq_true] at hmem
  exact ⟨hmem.1, hmem.2.1.1.1⟩

theorem Sound.resolveOne {fragment built : Fragment} (h : built.Sound) (hgrows : Grows fragment built)
    {pending : PendingReference} (hsource : fragment.Speaks pending.source) :
    (fragment.resolveOne built pending).Sound := by
  unfold Fragment.resolveOne
  split
  · next target htarget =>
    obtain ⟨hmem, hsymbol⟩ := target?_eq_some htarget
    refine h.addEdge (hsource.mono hgrows) ⟨target, hgrows.mem hmem, rfl, flowFits_none fun _ hbranch => ?_⟩
    rw [hbranch] at hsymbol
    cases hsymbol
  · exact h

/-- **Resolving references keeps a fragment sound.** -/
theorem Sound.resolved {fragment : Fragment} (h : fragment.Sound) : fragment.resolved.Sound := by
  have hfold : ∀ (pending : List PendingReference) (built : Fragment), built.Sound →
      Grows fragment built → (∀ reference ∈ pending, fragment.Speaks reference.source) →
      (pending.foldl fragment.resolveOne built).Sound := by
    intro pending
    induction pending with
    | nil =>
      intro built hbuilt _ _
      exact hbuilt
    | cons first rest ih =>
      intro built hbuilt hgrows hpending
      rw [List.forall_mem_cons] at hpending
      exact ih _ (hbuilt.resolveOne hgrows hpending.1)
        (hgrows.trans (grows_resolveOne fragment built first)) hpending.2
  exact hfold _ _ h (.refl fragment) h.pending

/-! ### Files -/

theorem sound_ofFile (label : SnapshotLabel) (path : String) (language : Language)
    (source signature : String) (metadata : Metadata) :
    (ofFile label path language source signature metadata).Sound := by
  refine ⟨⟨_, List.mem_cons_self, rfl, rfl⟩, fun node hnode => ?_, ?_, List.nodup_nil, ?_⟩
  · rw [List.mem_singleton.1 hnode]
    exact ⟨rfl, rfl⟩
  · exact fun edge hedge => absurd hedge List.not_mem_nil
  · exact fun reference hreference => absurd hreference List.not_mem_nil

theorem speaksFor_fileScope {fragment : Fragment} (h : fragment.Sound) :
    fragment.SpeaksFor fragment.fileScope :=
  ⟨h.speaks_fileId, h.speaks_fileId⟩

theorem grows_ofTree (label : SnapshotLabel) (path text : String) (tree : SourceTree) :
    Grows (ofFile label path (Language.ofPath path) text tree.signature .empty)
      (ofTree label path text tree) :=
  (grows_recordAll _ _ _).trans (grows_resolved _)

theorem sound_ofTree (label : SnapshotLabel) (path text : String) (tree : SourceTree) :
    (ofTree label path text tree).Sound := by
  have hfile := sound_ofFile label path (Language.ofPath path) text tree.signature .empty
  exact (Sound.recordAll (Language.regularAll_outlines _ _) hfile (speaksFor_fileScope hfile)).resolved

/-- **The fragment of every file is sound.** -/
theorem sound_ofSourceFile (maxFileBytes : Nat) (label : SnapshotLabel) (file : SourceFile) :
    (ofSourceFile maxFileBytes label file).Sound := by
  unfold ofSourceFile
  split
  · exact sound_ofTree _ _ _ _
  · exact sound_ofFile _ _ _ _ _ _

theorem origin_ofFile (label : SnapshotLabel) (path : String) (language : Language)
    (source signature : String) (metadata : Metadata) :
    (ofFile label path language source signature metadata).origin =
      (label, path, Path.modulePath path, Node.makeId label.snapshotId .file path path) := by
  simp only [origin, ofFile, push]

theorem origin_ofSourceFile (maxFileBytes : Nat) (label : SnapshotLabel) (file : SourceFile) :
    (ofSourceFile maxFileBytes label file).origin =
      (label, file.path, Path.modulePath file.path,
        Node.makeId label.snapshotId .file file.path file.path) := by
  unfold ofSourceFile
  split
  · rw [(grows_ofTree _ _ _ _).origin, origin_ofFile]
  · exact origin_ofFile _ _ _ _ _ _

end Fragment

end StructuralDiff
