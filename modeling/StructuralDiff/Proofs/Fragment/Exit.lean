import StructuralDiff.Proofs.Extract.Callable
import StructuralDiff.Proofs.Flow.Liveness
import StructuralDiff.Proofs.Fragment.FileNode
import StructuralDiff.Proofs.Fragment.Simulation
import StructuralDiff.Proofs.Source.Stream

/-!
# Exits in a fragment

A function that a file declares gets one branch for each exit that is found in its body, however its declaration is
nested and whatever its fragment holds already. Exits that are not found, such as those in the `else` of a loop or in
a `switch`, get none.

* `Fragment.BringsExits`: recording what is said about a function brings one branch for each of some sites.
* `Fragment.exitBranches_recordAll`: the branches at which a function is left come from its own control flow, since
  what is declared inside of it has a longer name.
* `Fragment.bringsExits_of_declares`: this holds of every declared function and the exits that are found.
* `Fragment.losesExits_loop_switch`: it does not hold of all exits.
-/

open scoped List

namespace StructuralDiff

/-- The node is a branch of a symbol at which its function is left. -/
def Node.isExitOf (owner : String) (node : Node) : Bool :=
  node.kind == .branch && node.metadata.get? "owner" == some owner
    && (node.metadata.get? "branchType").any exitKinds.contains

namespace Fragment

variable {fragment : Fragment} {name : String}

/-- The branches at which the function with a qualified name is left. -/
def exitBranches (owner : String) (fragment : Fragment) : List Node :=
  fragment.nodes.filter (·.isExitOf owner)

theorem isExitOf_branchNode (owner : Recorded) (label : String) (site : Site) :
    (fragment.branchNode owner label site).isExitOf name = (owner.qualifiedName == name && site.isExit) := by
  obtain ⟨howner, htype⟩ := get?_branchMetadata owner.qualifiedName site
  simp [Node.isExitOf, branchNode, node, howner, htype, Site.isExit]

/-- The branches of a flow at which it is left. -/
def flowExits (fragment : Fragment) (owner : Recorded) (body : List FlowStmt) : List Node :=
  (List.zipWith (fragment.branchNode owner) (Skeleton.ofBody body).labels (Skeleton.ofBody body).sites).filter
    (·.isExitOf owner.qualifiedName)

theorem flowExits_of_branchNode {a b : Fragment} (h : b.branchNode = a.branchNode) (owner : Recorded)
    (body : List FlowStmt) : b.flowExits owner body = a.flowExits owner body := by
  rw [flowExits, h, flowExits]

/-- No branch of an owner at which its function is left comes in, and nodes are made in the same way. -/
structure Keeps (name : String) (a b : Fragment) : Prop where
  exits : b.exitBranches name = a.exitBranches name
  branches : b.branchNode = a.branchNode

namespace Keeps

variable {a b c : Fragment}

theorem refl (name : String) (a : Fragment) : Keeps name a a :=
  ⟨rfl, rfl⟩

theorem trans (hab : Keeps name a b) (hbc : Keeps name b c) : Keeps name a c :=
  ⟨hbc.exits.trans hab.exits, hbc.branches.trans hab.branches⟩

theorem of_append {added : List Node} (hnodes : b.nodes = a.nodes ++ added) (hbranches : b.branchNode = a.branchNode)
    (hadded : ∀ node ∈ added, node.isExitOf name = false) : Keeps name a b := by
  have hnone : added.filter (·.isExitOf name) = [] :=
    List.filter_eq_nil_iff.2 fun node hnode => by simp [hadded node hnode]
  refine ⟨?_, hbranches⟩
  rw [exitBranches, hnodes, List.filter_append, hnone, List.append_nil, exitBranches]

end Keeps

theorem isExitOf_of_kind {node : Node} (h : node.kind ≠ .branch) : node.isExitOf name = false := by
  rw [Node.isExitOf, beq_false_of_ne h, Bool.false_and, Bool.false_and]

theorem keeps_addEdge (fragment : Fragment) (kind : EdgeKind) (source target : String) (flow : Option FlowType)
    (callSite : Bool) : Keeps name fragment (fragment.addEdge kind source target flow callSite) :=
  .of_append ((nodes_addEdge _ _ _ _ _ _).trans (List.append_nil _).symm) (branchNode_addEdge _ _ _ _ _ _)
    fun _ hnode => absurd hnode List.not_mem_nil

theorem keeps_addImport (fragment : Fragment) (module : String) : Keeps name fragment (fragment.addImport module) := by
  unfold addImport
  dsimp only
  split
  · exact .refl _ _
  · refine Keeps.trans (.of_append (b := fragment.push _) rfl rfl fun node hnode => ?_) (keeps_addEdge _ _ _ _ _ _)
    rw [List.mem_singleton.1 hnode]
    exact isExitOf_of_kind nofun

theorem branchNode_recordSymbol (fragment : Fragment) (scope : Scope) (declaration : Declaration) :
    (recordSymbol scope declaration fragment).branchNode = fragment.branchNode := by
  unfold recordSymbol
  dsimp only
  split
  · rw [branchNode_addEdge]
    exact branchNode_addEdge _ _ _ _ _ _
  · exact branchNode_addEdge _ _ _ _ _ _

theorem keeps_recordSymbol (fragment : Fragment) (scope : Scope) {declaration : Declaration}
    (hkind : declaration.kind.isSymbol = true) : Keeps name fragment (recordSymbol scope declaration fragment) := by
  obtain ⟨node, hnode, hnodes⟩ := exists_node_recordSymbol fragment scope declaration
  refine .of_append hnodes (branchNode_recordSymbol fragment scope declaration) fun other hother => ?_
  rw [List.mem_singleton.1 hother]
  refine isExitOf_of_kind fun hbranch => ?_
  rw [hnode] at hbranch
  rw [hbranch] at hkind
  exact nomatch hkind

theorem branchNode_addPieces (fragment : Fragment) (owner : Recorded) (scope : String) (ids labels : List String)
    (pieces : List Piece) : (addPieces owner scope ids labels pieces fragment).branchNode = fragment.branchNode := by
  induction pieces generalizing labels fragment with
  | nil => rfl
  | cons piece rest ih =>
    cases piece with
    | link source target flow => rw [addPieces, ih, branchNode_addEdge]
    | branch site => rw [addPieces, ih, branchNode_addBranch]

theorem branchNode_addFlow (fragment : Fragment) (owner : Recorded) (body : List FlowStmt) :
    (fragment.addFlow owner body).branchNode = fragment.branchNode := by
  unfold addFlow
  dsimp only
  split
  · rw [branchNode_addEdge, branchNode_addPieces]
  · exact branchNode_addPieces _ _ _ _ _ _

theorem exitBranches_addFlow (fragment : Fragment) (owner : Recorded) (body : List FlowStmt) :
    (fragment.addFlow owner body).exitBranches owner.qualifiedName =
      fragment.exitBranches owner.qualifiedName ++ fragment.flowExits owner body := by
  rw [exitBranches, nodes_addFlow, List.filter_append]
  rfl

theorem keeps_addFlow (fragment : Fragment) {owner : Recorded} (howner : owner.qualifiedName ≠ name)
    (body : List FlowStmt) : Keeps name fragment (fragment.addFlow owner body) := by
  refine .of_append (nodes_addFlow _ _ _) (branchNode_addFlow _ _ _) fun node hnode => ?_
  rw [← List.map_uncurry_zip_eq_zipWith] at hnode
  obtain ⟨⟨label, site⟩, -, rfl⟩ := List.mem_map.1 hnode
  refine (isExitOf_branchNode owner label site).trans ?_
  rw [beq_false_of_ne howner, Bool.false_and]

/-- What is declared inside a symbol has a longer name. -/
theorem length_lt_innerScope {scope : Scope} (hscope : scope.symbol.qualifiedName ≠ "") (declaration : Declaration)
    (fragment : Fragment) : scope.symbol.qualifiedName.length <
      (innerScope scope declaration fragment).symbol.qualifiedName.length := by
  have hqualify : scope.symbol.qualifiedName.length <
      (Name.qualify scope.symbol.qualifiedName declaration.localName).length := by
    rw [Name.qualify, if_neg (by simpa using hscope)]
    simp only [String.length_append]
    have : ".".length = 1 := rfl
    omega
  refine Nat.lt_of_lt_of_le hqualify ?_
  show _ ≤ (fragment.freeName _ _ _).length
  unfold freeName
  split
  · simp only [String.length_append]
    omega
  · exact Nat.le_refl _

mutual

/-- What is said about a symbol with a longer name brings no branch of the function. -/
theorem keeps_record {scope : Scope} {outline : Outline} (hregular : outline.regular = true)
    (hscope : name.length < scope.symbol.qualifiedName.length) (fragment : Fragment) :
    Keeps name fragment (record scope outline fragment) := by
  match outline with
  | .imports module => exact keeps_addImport fragment module
  | .refers reference other => exact ⟨rfl, rfl⟩
  | .flows body => exact keeps_addFlow fragment (fun heq => by rw [heq] at hscope; omega) body
  | .declares declaration inner =>
    simp only [Outline.regular, Bool.and_eq_true] at hregular
    have hname : scope.symbol.qualifiedName ≠ "" := fun heq => by
      rw [heq] at hscope
      exact absurd hscope (Nat.not_lt_zero _)
    rw [record_declares]
    exact (keeps_recordSymbol fragment scope hregular.1.1).trans
      (keeps_recordAll hregular.2 (hscope.trans (length_lt_innerScope hname declaration fragment)) _)

theorem keeps_recordAll {scope : Scope} {outlines : List Outline} (hregular : Outline.regularAll outlines = true)
    (hscope : name.length < scope.symbol.qualifiedName.length) (fragment : Fragment) :
    Keeps name fragment (recordAll scope outlines fragment) := by
  match outlines with
  | [] => exact .refl _ _
  | outline :: rest =>
    rw [Outline.regularAll, Bool.and_eq_true] at hregular
    rw [recordAll]
    exact (keeps_record hregular.1 hscope fragment).trans (keeps_recordAll hregular.2 hscope _)

end

/-- **The branches at which a function is left are those of its own control flow.** -/
theorem exitBranches_recordAll {scope : Scope} (hname : scope.symbol.qualifiedName ≠ "") {outlines : List Outline}
    (hregular : Outline.regularAll outlines = true) (fragment : Fragment) :
    (recordAll scope outlines fragment).exitBranches scope.symbol.qualifiedName =
      fragment.exitBranches scope.symbol.qualifiedName ++
        (outlines.filterMap Outline.flow?).flatMap (fragment.flowExits scope.symbol) := by
  induction outlines generalizing fragment with
  | nil => exact (List.append_nil _).symm
  | cons outline rest ih =>
    rw [Outline.regularAll, Bool.and_eq_true] at hregular
    rw [recordAll, ih hregular.2]
    -- Whatever is no control flow of the symbol itself brings none of its exits.
    have hkeeps {built : Fragment} (h : Keeps scope.symbol.qualifiedName fragment built) :
        built.exitBranches scope.symbol.qualifiedName ++
            (rest.filterMap Outline.flow?).flatMap (built.flowExits scope.symbol) =
          fragment.exitBranches scope.symbol.qualifiedName ++
            (rest.filterMap Outline.flow?).flatMap (fragment.flowExits scope.symbol) := by
      rw [h.exits, funext (flowExits_of_branchNode h.branches scope.symbol)]
    match outline with
    | .imports module => exact hkeeps (keeps_addImport fragment module)
    | .refers reference other => exact hkeeps ⟨rfl, rfl⟩
    | .declares declaration inner =>
      simp only [Outline.regular, Bool.and_eq_true] at hregular
      refine hkeeps ?_
      rw [record_declares]
      exact (keeps_recordSymbol fragment scope hregular.1.1.1).trans
        (keeps_recordAll hregular.1.2 (length_lt_innerScope hname declaration fragment) _)
    | .flows body =>
      rw [record, exitBranches_addFlow, List.append_assoc,
        funext (flowExits_of_branchNode (branchNode_addFlow fragment scope.symbol body) scope.symbol)]
      rfl

/-! ### One branch for each exit -/

theorem forall₂_filter_zipWith {make : String → Site → Node} {p : Node → Bool} {q : Site → Bool}
    (hname : ∀ label site, (make label site).name = label) (hkeep : ∀ label site, p (make label site) = q site)
    {labels : List String} {sites : List Site} (h : labels.length = sites.length) :
    List.Forall₂ (fun node site => node = make node.name site) ((List.zipWith make labels sites).filter p)
      (sites.filter q) := by
  induction sites generalizing labels with
  | nil =>
    rw [List.zipWith_nil_right]
    exact .nil
  | cons site rest ih =>
    cases labels with
    | nil => cases h
    | cons label labels =>
      rw [List.zipWith_cons_cons, List.filter_cons, List.filter_cons, hkeep]
      split
      · exact .cons (by rw [hname]) (ih (Nat.succ.inj h))
      · exact ih (Nat.succ.inj h)

/-- A control flow brings one branch for each of its exits. -/
theorem forall₂_flowExits (fragment : Fragment) (owner : Recorded) (body : List FlowStmt) :
    List.Forall₂ (fun node site => node = fragment.branchNode owner node.name site)
      (fragment.flowExits owner body) ((FlowStmt.blockSites body).filter Site.isExit) := by
  rw [flowExits, Skeleton.sites_ofBody]
  refine forall₂_filter_zipWith (fun label site => rfl) (fun label site => ?_) ?_
  · rw [isExitOf_branchNode, beq_self_eq_true, Bool.true_and]
  · rw [Skeleton.length_labels, ← Piece.length_sites, ← Skeleton.sites_eq, Skeleton.sites_ofBody]

/-- No two exits of a control flow get the same id. -/
theorem nodup_flowExits (fragment : Fragment) (owner : Recorded) (body : List FlowStmt) :
    ((fragment.flowExits owner body).map (·.id)).Nodup := by
  have hids := nodeIds_addFlow fragment owner body
  rw [nodeIds, nodes_addFlow, List.map_append] at hids
  have hall := List.append_cancel_left hids
  refine List.Nodup.sublist (List.filter_sublist.map _) ?_
  rw [hall]
  exact nodup_flowIds fragment owner body

/-- Recording what is said about a function brings one branch for each of the sites, and no other one at which it
is left. -/
def BringsExits (scope : Scope) (inner : List Outline) (sites : List Site) : Prop :=
  ∀ fragment : Fragment, ∃ branches order,
    (recordAll scope inner fragment).exitBranches scope.symbol.qualifiedName =
      fragment.exitBranches scope.symbol.qualifiedName ++ branches ∧
    (branches.map (·.id)).Nodup ∧
    List.Forall₂ (fun node site => node = fragment.branchNode scope.symbol node.name site) branches order ∧
    order ~ sites

theorem bringsExits_of_isFunction {language : Language} {outer function : SourceTree} {declaration : Declaration}
    {inner : List Outline} (h : language.IsFunction outer function (.declares declaration inner))
    (hconforms : function.everywhere language.conforms = true) (hregular : Outline.regularAll inner = true)
    {scope : Scope} (hscope : scope.symbol.qualifiedName ≠ "") :
    BringsExits scope inner (language.exitRules.sitesOf function) := by
  intro fragment
  obtain ⟨hlength, hperm⟩ := Language.perm_sitesOf h hconforms
  refine ⟨_, _, exitBranches_recordAll hscope hregular fragment, ?_, ?_, hperm⟩
  · match inner.filterMap Outline.flow?, hlength with
    | [], _ => exact List.nodup_nil
    | [body], _ =>
      rw [List.flatMap_singleton]
      exact nodup_flowExits fragment scope.symbol body
  · match inner.filterMap Outline.flow?, hlength with
    | [], _ => exact .nil
    | [body], _ =>
      rw [List.flatMap_singleton, List.flatMap_singleton]
      exact forall₂_flowExits fragment scope.symbol body

end Fragment

/-- What is declared among regular outlines is regular inside. -/
theorem Outline.regularAll_of_declares {declaration : Declaration} {inner outlines : List Outline}
    (h : Declares declaration inner outlines) (hregular : regularAll outlines = true) : regularAll inner = true := by
  induction h with
  | here hmem =>
    have := regularAll_iff.1 hregular _ hmem
    simp only [regular, Bool.and_eq_true] at this
    exact this.2
  | inside hmem _ ih =>
    have := regularAll_iff.1 hregular _ hmem
    simp only [regular, Bool.and_eq_true] at this
    exact ih this.2

namespace Fragment

/-- **Every function that a file declares gets one branch for each of its exits that is found.** -/
theorem bringsExits_of_declares {language : Language} {root : SourceTree}
    (hconforms : root.everywhere language.conforms = true) {declaration : Declaration} {inner : List Outline}
    (hdeclares : Outline.Declares declaration inner (language.outlines root))
    (hcallable : declaration.kind.isCallable = true) :
    ∃ outer ∈ root.nodes, ∃ function ∈ root.nodes,
      language.IsFunction outer function (.declares declaration inner) ∧
      ∀ scope : Scope, scope.symbol.qualifiedName ≠ "" →
        BringsExits scope inner (language.exitRules.sitesOf function) := by
  obtain ⟨outer, houter, function, hfunction, htrace⟩ :=
    language.functions_outlines root declaration inner hdeclares hcallable
  have hregular := Outline.regularAll_of_declares hdeclares (language.regularAll_outlines root)
  exact ⟨outer, houter, function, hfunction, htrace, fun scope =>
    bringsExits_of_isFunction htrace (SourceTree.everywhere_of_mem_nodes hconforms hfunction) hregular⟩

/-- A file with a function that raises in a condition, and returns in a handler and in the alternative to it. -/
def leavesThrice : SourceTree :=
  .ofRows
    ("def f(x):\n    if x:\n        raise x\n    try:\n        x\n    except:\n        return x\n" ++
      "    else:\n        return x\n")
    [⟨0, "module", 1, none, 0, 111⟩, ⟨1, "function_definition", 1, none, 0, 110⟩, ⟨2, "def", 0, none, 0, 3⟩,
     ⟨2, "identifier", 1, some "name", 4, 5⟩, ⟨2, "parameters", 1, some "parameters", 5, 8⟩,
     ⟨3, "(", 0, none, 5, 6⟩, ⟨3, "identifier", 1, none, 6, 7⟩, ⟨3, ")", 0, none, 7, 8⟩, ⟨2, ":", 0, none, 8, 9⟩,
     ⟨2, "block", 1, some "body", 14, 110⟩,
     ⟨3, "if_statement", 1, none, 14, 35⟩, ⟨4, "if", 0, none, 14, 16⟩,
     ⟨4, "identifier", 1, some "condition", 17, 18⟩, ⟨4, ":", 0, none, 18, 19⟩,
     ⟨4, "block", 1, some "consequence", 28, 35⟩, ⟨5, "raise_statement", 1, none, 28, 35⟩,
     ⟨6, "raise", 0, none, 28, 33⟩, ⟨6, "identifier", 1, none, 34, 35⟩,
     ⟨3, "try_statement", 1, none, 40, 110⟩, ⟨4, "try", 0, none, 40, 43⟩, ⟨4, ":", 0, none, 43, 44⟩,
     ⟨4, "block", 1, some "body", 53, 54⟩, ⟨5, "expression_statement", 1, none, 53, 54⟩,
     ⟨6, "identifier", 1, none, 53, 54⟩,
     ⟨4, "except_clause", 1, none, 59, 83⟩, ⟨5, "except", 0, none, 59, 65⟩, ⟨5, ":", 0, none, 65, 66⟩,
     ⟨5, "block", 1, none, 75, 83⟩, ⟨6, "return_statement", 1, none, 75, 83⟩, ⟨7, "return", 0, none, 75, 81⟩,
     ⟨7, "identifier", 1, none, 82, 83⟩,
     ⟨4, "else_clause", 1, none, 88, 110⟩, ⟨5, "else", 0, none, 88, 92⟩, ⟨5, ":", 0, none, 92, 93⟩,
     ⟨5, "block", 1, some "body", 102, 110⟩, ⟨6, "return_statement", 1, none, 102, 110⟩,
     ⟨7, "return", 0, none, 102, 108⟩, ⟨7, "identifier", 1, none, 109, 110⟩]

/-- What a file begins with. -/
def firstOf (root : SourceTree) : SourceTree :=
  root.children.headD default

theorem children_eq_of_length {root : SourceTree} (h : root.children.length = 1) : root.children = [firstOf root] := by
  obtain ⟨function, hroot⟩ := List.length_eq_one_iff.1 h
  rw [firstOf, hroot]
  rfl

theorem firstOf_mem_nodes {root : SourceTree} (h : root.children.length = 1) : firstOf root ∈ root.nodes := by
  refine SourceTree.mem_nodes_of_mem (firstOf root).self_mem_nodes ?_
  rw [children_eq_of_length h]
  exact List.mem_singleton_self _

/-- A file with nothing but a function has the outline of this function. -/
theorem outlines_python {root : SourceTree} (hroot : root.children.length = 1)
    (hkind : (firstOf root).kind = "function_definition") (hnamed : (firstOf root).named = true)
    (hname : ((firstOf root).child? "name").isSome = true) :
    ∃ declaration inner, Language.python.outlines root = [.declares declaration inner] ∧
      declaration.kind.isCallable = true ∧
      Python.IsFunction (firstOf root) (firstOf root) (.declares declaration inner) := by
  obtain ⟨name, hname⟩ := Option.isSome_iff_exists.1 hname
  have hdefinition := Python.definition_of_function false (firstOf root) [] hkind hname
  refine ⟨_, _, ?_, ?_, hkind, .inl rfl, false, [], hdefinition⟩
  · have hfile : root.namedChildren = [firstOf root] := by
      rw [SourceTree.namedChildren, children_eq_of_length hroot]
      exact List.filter_cons_of_pos hnamed
    rw [Language.outlines, hfile, Python.outlines, Python.outlines, Python.outline, hkind, List.append_nil,
      if_neg (by decide), if_neg (by decide), if_pos (by decide), hdefinition]
  · rfl

theorem outlines_javaScript {root : SourceTree} (hroot : root.children.length = 1)
    (hkind : (firstOf root).kind = "function_declaration") (hnamed : (firstOf root).named = true)
    (hname : ((firstOf root).child? "name").any
      (fun name => (Script.functionKind false name.text (firstOf root)).isCallable) = true) :
    ∃ declaration inner, Language.javaScript.outlines root = [.declares declaration inner] ∧
      declaration.kind.isCallable = true ∧
      Script.IsFunction (firstOf root) (firstOf root) (.declares declaration inner) := by
  obtain ⟨name, hname, hcallable⟩ := (Option.any_eq_true _ _).1 hname
  have htrace : Script.IsFunction (firstOf root) (firstOf root) _ := .named false none name.text (.inl rfl)
  have hfunction : Script.outlines false none none root.children =
      [Script.function false none (firstOf root) name.text (firstOf root)] := by
    rw [children_eq_of_length hroot, Script.outlines, if_pos hnamed, Script.outlines, Script.outline, hkind,
      List.append_nil, if_neg (by decide), if_neg (by decide), if_pos (by decide), hname]
    rfl
  rw [Script.function] at htrace hfunction
  exact ⟨_, _, hfunction, hcallable, htrace⟩

theorem bringsExits_of_declares_thrice : leavesThrice.everywhere Language.python.conforms = true ∧
    ∃ declaration inner, Outline.Declares declaration inner (Language.python.outlines leavesThrice) ∧
      declaration.kind.isCallable = true ∧
      ∃ outer ∈ leavesThrice.nodes, ∃ function ∈ leavesThrice.nodes,
        Language.python.IsFunction outer function (.declares declaration inner) ∧
        ∀ scope : Scope, scope.symbol.qualifiedName ≠ "" →
          BringsExits scope inner (Language.python.exitRules.sitesOf function) := by
  have hconforms : leavesThrice.everywhere Language.python.conforms = true := by decide +kernel
  have hroot : leavesThrice.children.length = 1 := by decide +kernel
  obtain ⟨declaration, inner, houtlines, hcallable, -⟩ :=
    outlines_python hroot (by decide +kernel) (by decide +kernel) (by decide +kernel)
  have hdeclares : Outline.Declares declaration inner (Language.python.outlines leavesThrice) := by
    rw [houtlines]
    exact .here (List.mem_singleton_self _)
  exact ⟨hconforms, declaration, inner, hdeclares, hcallable,
    bringsExits_of_declares hconforms hdeclares hcallable⟩

/-- A file with a function that returns in the `else` of a loop. -/
def returnsAfterLoop : SourceTree :=
  .ofRows "def f(xs):\n    for x in xs:\n        pass\n    else:\n        return xs\n"
    [⟨0, "module", 1, none, 0, 69⟩, ⟨1, "function_definition", 1, none, 0, 68⟩, ⟨2, "def", 0, none, 0, 3⟩,
     ⟨2, "identifier", 1, some "name", 4, 5⟩, ⟨2, "parameters", 1, some "parameters", 5, 9⟩,
     ⟨3, "(", 0, none, 5, 6⟩, ⟨3, "identifier", 1, none, 6, 8⟩, ⟨3, ")", 0, none, 8, 9⟩, ⟨2, ":", 0, none, 9, 10⟩,
     ⟨2, "block", 1, some "body", 15, 68⟩,
     ⟨3, "for_statement", 1, none, 15, 68⟩, ⟨4, "for", 0, none, 15, 18⟩, ⟨4, "identifier", 1, some "left", 19, 20⟩,
     ⟨4, "in", 0, none, 21, 23⟩, ⟨4, "identifier", 1, some "right", 24, 26⟩, ⟨4, ":", 0, none, 26, 27⟩,
     ⟨4, "block", 1, some "body", 36, 40⟩, ⟨5, "pass_statement", 1, none, 36, 40⟩, ⟨6, "pass", 0, none, 36, 40⟩,
     ⟨4, "else_clause", 1, some "alternative", 45, 68⟩, ⟨5, "else", 0, none, 45, 49⟩, ⟨5, ":", 0, none, 49, 50⟩,
     ⟨5, "block", 1, some "body", 59, 68⟩, ⟨6, "return_statement", 1, none, 59, 68⟩,
     ⟨7, "return", 0, none, 59, 65⟩, ⟨7, "identifier", 1, none, 66, 68⟩]

/-- A file with a function that returns in a case of a `switch`. -/
def returnsInSwitch : SourceTree :=
  .ofRows "function f(x) \x7b\n  switch (x) \x7b\n    case 1: return;\n  \x7d\n\x7d\n"
    [⟨0, "program", 1, none, 0, 57⟩, ⟨1, "function_declaration", 1, none, 0, 56⟩, ⟨2, "function", 0, none, 0, 8⟩,
     ⟨2, "identifier", 1, some "name", 9, 10⟩, ⟨2, "formal_parameters", 1, some "parameters", 10, 13⟩,
     ⟨3, "(", 0, none, 10, 11⟩, ⟨3, "identifier", 1, none, 11, 12⟩, ⟨3, ")", 0, none, 12, 13⟩,
     ⟨2, "statement_block", 1, some "body", 14, 56⟩, ⟨3, "\x7b", 0, none, 14, 15⟩,
     ⟨3, "switch_statement", 1, none, 18, 54⟩, ⟨4, "switch", 0, none, 18, 24⟩,
     ⟨4, "parenthesized_expression", 1, some "value", 25, 28⟩, ⟨5, "(", 0, none, 25, 26⟩,
     ⟨5, "identifier", 1, none, 26, 27⟩, ⟨5, ")", 0, none, 27, 28⟩,
     ⟨4, "switch_body", 1, some "body", 29, 54⟩, ⟨5, "\x7b", 0, none, 29, 30⟩,
     ⟨5, "switch_case", 1, none, 35, 50⟩, ⟨6, "case", 0, none, 35, 39⟩, ⟨6, "number", 1, some "value", 40, 41⟩,
     ⟨6, ":", 0, none, 41, 42⟩, ⟨6, "return_statement", 1, some "body", 43, 50⟩, ⟨7, "return", 0, none, 43, 49⟩,
     ⟨7, ";", 0, none, 49, 50⟩,
     ⟨5, "\x7d", 0, none, 53, 54⟩, ⟨3, "\x7d", 0, none, 55, 56⟩]

/-- A file without errors declares a function that does not get one branch for each of its exits. -/
def LosesExits (language : Language) (root function : SourceTree) : Prop :=
  root.hasError = false ∧ root.everywhere language.conforms = true ∧
  ∃ declaration inner, Outline.Declares declaration inner (language.outlines root) ∧
    declaration.kind.isCallable = true ∧ language.IsFunction function function (.declares declaration inner) ∧
    ∀ scope : Scope, scope.symbol.qualifiedName ≠ "" →
      ¬BringsExits scope inner ((language.exitRules.exitsOf function).map language.exitRules.site)

theorem length_eq_of_bringsExits {scope : Scope} {inner : List Outline} {sites sites' : List Site}
    (h : BringsExits scope inner sites) (h' : BringsExits scope inner sites') : sites.length = sites'.length := by
  obtain ⟨branches, order, hnodes, -, hbranches, horder⟩ := h (ofFile default "" .unknown "" "" .empty)
  obtain ⟨branches', order', hnodes', -, hbranches', horder'⟩ := h' (ofFile default "" .unknown "" "" .empty)
  -- Both lists of branches are what comes in.
  rw [hnodes] at hnodes'
  rw [← horder.length_eq, ← hbranches.length_eq, List.append_cancel_left hnodes', hbranches'.length_eq,
    horder'.length_eq]

theorem losesExits_of_sitesOf {language : Language} {root function : SourceTree} (herror : root.hasError = false)
    (hconforms : root.everywhere language.conforms = true) (hfunction : function ∈ root.nodes)
    (houtlines : ∃ declaration inner, language.outlines root = [.declares declaration inner] ∧
      declaration.kind.isCallable = true ∧ language.IsFunction function function (.declares declaration inner))
    (hlost : (language.exitRules.sitesOf function).length ≠ (language.exitRules.exitsOf function).length) :
    LosesExits language root function := by
  obtain ⟨declaration, inner, houtlines, hcallable, htrace⟩ := houtlines
  have hdeclares : Outline.Declares declaration inner (language.outlines root) := by
    rw [houtlines]
    exact .here (List.mem_singleton_self _)
  have hregular := Outline.regularAll_of_declares hdeclares (language.regularAll_outlines root)
  refine ⟨herror, hconforms, declaration, inner, hdeclares, hcallable, htrace, fun scope hscope h => hlost ?_⟩
  have hfound := bringsExits_of_isFunction htrace (SourceTree.everywhere_of_mem_nodes hconforms hfunction)
    hregular hscope
  rw [length_eq_of_bringsExits hfound h, List.length_map]

/-- The `else` of a loop and the cases of a `switch` are not looked through. -/
theorem losesExits_loop_switch : LosesExits .python returnsAfterLoop (firstOf returnsAfterLoop) ∧
    LosesExits .javaScript returnsInSwitch (firstOf returnsInSwitch) := by
  constructor
  · have hroot : returnsAfterLoop.children.length = 1 := by decide +kernel
    exact losesExits_of_sitesOf (by decide +kernel) (by decide +kernel) (firstOf_mem_nodes hroot)
      (outlines_python hroot (by decide +kernel) (by decide +kernel) (by decide +kernel)) (by decide +kernel)
  · have hroot : returnsInSwitch.children.length = 1 := by decide +kernel
    exact losesExits_of_sitesOf (by decide +kernel) (by decide +kernel) (firstOf_mem_nodes hroot)
      (outlines_javaScript hroot (by decide +kernel) (by decide +kernel) (by decide +kernel)) (by decide +kernel)

end Fragment

end StructuralDiff
