import StructuralDiff.Proofs.Extract.Grammar
import StructuralDiff.Proofs.Extract.Script

/-!
# Exits of lowered function bodies

The branches at which a lowered function is left are the exits that are found in its body, each of them once. They
may stand in another order, since what follows a guarded block without an exception is lowered before the handlers.

* `ExitRules.Yields`: the exits among sites are those of trees.
* `Python.yields_lowerAll`, `Script.yields_lowerAll`: this holds of statements and what they are lowered to.
* `Python.perm_sitesOf`, `Script.perm_sitesOf`: this holds of functions.
-/

open scoped List

namespace StructuralDiff

/-! ### Exits among sites -/

/-- The kinds of branches at which a function is left. -/
def exitKinds : List String :=
  ["return", "raise", "throw"]

/-- A branch at the site is an exit of its function. -/
def Site.isExit (site : Site) : Bool :=
  exitKinds.contains site.kind

/-- The exits among the sites are those of the trees, in some order. -/
def ExitRules.Yields (rules : ExitRules) (sites : List Site) (trees : List SourceTree) : Prop :=
  sites.filter Site.isExit ~ trees.map rules.site

namespace ExitRules

variable {rules : ExitRules} {sites sites' : List Site} {trees trees' : List SourceTree}

theorem Yields.nil : rules.Yields [] [] :=
  .refl _

theorem Yields.append (h : rules.Yields sites trees) (h' : rules.Yields sites' trees') :
    rules.Yields (sites ++ sites') (trees ++ trees') := by
  rw [Yields, List.filter_append, List.map_append]
  exact List.Perm.append h h'

theorem Yields.cons {site : Site} (h : rules.Yields sites trees) (hsite : site.isExit = false) :
    rules.Yields (site :: sites) trees := by
  rw [Yields, List.filter_cons_of_neg (by rw [hsite]; decide)]
  exact h

theorem Yields.perm (h : rules.Yields sites trees) (htrees : trees ~ trees') : rules.Yields sites trees' :=
  List.Perm.trans h (htrees.map _)

/-- A statement at which a function is left is the exit that is found in it. -/
theorem yields_exit {stmt : SourceTree} {kind : String} {kinds : List String} (hkind : stmt.kind = kind)
    (hmem : kind ∈ kinds) (hexit : (rules.branch? kind).any exitKinds.contains = true) :
    rules.Yields [.ofTree ((rules.branch? kind).getD "") stmt] (rules.foundFrom kinds [stmt]) := by
  obtain ⟨branch, hbranch, hexit⟩ := (Option.any_eq_true _ _).1 hexit
  have hleaves : rules.leaves stmt.kind = true := by
    rw [hkind, leaves, hbranch]
    rfl
  have hsite : (Site.ofTree ((rules.branch? kind).getD "") stmt).isExit = true := by
    rw [hbranch]
    exact hexit
  rw [Yields, List.filter_cons_of_pos hsite, foundFrom_singleton_of_mem (hkind ▸ hmem), found_of_leaves hleaves,
    List.map_singleton, site, hkind]
  exact .refl _

end ExitRules

/-! ### Python -/

open FlowStmt

namespace Python

section Blocks

variable {tree : SourceTree}

/-- The exits of a block are those of its statements. -/
theorem foundFrom_statements {block? : Option SourceTree}
    (h : ∀ block, block? = some block → block.kind = "block" ∧ conforms block = true) :
    exitRules.foundFrom reachedStatements (statements block?) = block?.toList.flatMap exitRules.found := by
  cases block? with
  | none => rfl
  | some block =>
    obtain ⟨hkind, hconforms⟩ := h block rfl
    rw [Option.toList_some, List.flatMap_singleton, ExitRules.found_of_kind hkind (by decide) (by decide),
      statements]
    exact ExitRules.foundFrom_filter (SourceTree.named_of_lists (conforms_block hconforms hkind))

theorem foundFrom_statements_child? {role : String} (hsole : tree.sole role ["block"] = true)
    (h : tree.everywhere conforms = true) :
    exitRules.foundFrom reachedStatements (statements (tree.child? role)) =
      exitRules.foundFrom ["block"] tree.children := by
  rw [foundFrom_statements fun block hblock => ⟨?_, ?_⟩, ExitRules.foundFrom_of_sole hsole]
  · exact List.mem_singleton.1 (SourceTree.kind_of_sole hsole hblock)
  · exact SourceTree.here_of_everywhere (SourceTree.everywhere_child? h hblock)

theorem toList_blockOf?_of_hasSoleBlock (hsole : hasSoleBlock tree = true) :
    (blockOf? tree).toList = tree.children.filter (["block"].contains ·.kind) := by
  rw [hasSoleBlock, Bool.and_eq_true, decide_eq_true_iff] at hsole
  obtain ⟨hall, hlength⟩ := hsole
  have hblock : tree.children.filter (["block"].contains ·.kind) =
      tree.children.filter fun child => child.named && child.kind == "block" := by
    refine List.filter_congr fun child hchild => ?_
    have := List.all_eq_true.1 hall child hchild
    by_cases hkind : child.kind = "block" <;> simp_all
  rw [blockOf?]
  cases hbody : tree.child? "body" with
  | none =>
    rw [Option.none_or, hblock]
    exact SourceTree.toList_find?_of_length (hblock ▸ hlength)
  | some body =>
    have hmem : body ∈ tree.children := List.mem_of_find?_eq_some hbody
    have hfield : body.field = some "body" := by simpa using List.find?_some hbody
    have hkind : body.kind = "block" := by
      have := List.all_eq_true.1 hall body hmem
      simp_all
    have hfilter : body ∈ tree.children.filter (["block"].contains ·.kind) :=
      List.mem_filter.2 ⟨hmem, by simp [hkind]⟩
    rw [Option.some_or, Option.toList_some]
    obtain ⟨other, hother⟩ :=
      List.length_eq_one_iff.1 (Nat.le_antisymm hlength (List.length_pos_of_mem hfilter))
    rw [hother, List.mem_singleton] at hfilter
    rw [hother, hfilter]

theorem foundFrom_statements_blockOf? (hsole : hasSoleBlock tree = true)
    (h : tree.everywhere conforms = true) :
    exitRules.foundFrom reachedStatements (statements (blockOf? tree)) =
      exitRules.foundFrom ["block"] tree.children := by
  have hmem {block : SourceTree} (hblock : blockOf? tree = some block) :
      block ∈ tree.children.filter (["block"].contains ·.kind) := by
    rw [← toList_blockOf?_of_hasSoleBlock hsole]
    exact Option.mem_toList.2 hblock
  rw [foundFrom_statements fun block hblock => ⟨?_, ?_⟩, toList_blockOf?_of_hasSoleBlock hsole,
    ExitRules.foundFrom_eq_filter]
  · simpa using (List.mem_filter.1 (hmem hblock)).2
  · exact SourceTree.here_of_everywhere (SourceTree.everywhere_of_mem h (List.mem_filter.1 (hmem hblock)).1)

end Blocks

theorem mem_children_of_blockOf? {clause block : SourceTree} (h : blockOf? clause = some block) :
    block ∈ clause.children := by
  rcases Option.or_eq_some_iff.1 h with h | ⟨-, h⟩
  · exact List.mem_of_find?_eq_some h
  · exact List.mem_of_find?_eq_some h

theorem everywhere_of_mem_statements {block? : Option SourceTree}
    (h : ∀ block, block? = some block → block.everywhere conforms = true) :
    ∀ stmt ∈ statements block?, stmt.everywhere conforms = true := by
  intro stmt hstmt
  cases block? with
  | none => cases hstmt
  | some block => exact SourceTree.everywhere_of_mem (h block rfl) (List.mem_filter.1 hstmt).1

theorem everywhere_of_mem_child? {tree : SourceTree} (h : tree.everywhere conforms = true) (role : String) :
    ∀ stmt ∈ statements (tree.child? role), stmt.everywhere conforms = true :=
  everywhere_of_mem_statements fun _ => SourceTree.everywhere_child? h

theorem everywhere_of_mem_blockOf? {clause : SourceTree} (h : clause.everywhere conforms = true) :
    ∀ stmt ∈ statements (blockOf? clause), stmt.everywhere conforms = true :=
  everywhere_of_mem_statements fun _ hblock => SourceTree.everywhere_of_mem h (mem_children_of_blockOf? hblock)

/-- The exits of a clause are those of its statements. -/
theorem found_of_clause {clause : SourceTree} (hkind : clause.kind ∈ clauseKinds)
    (h : clause.everywhere conforms = true) :
    exitRules.found clause = exitRules.foundFrom reachedStatements (statements (blockOf? clause)) := by
  have hconforms := SourceTree.here_of_everywhere h
  have hkinds : ∀ kind ∈ clauseKinds,
      exitRules.reached kind = ["block"] ∧ exitRules.leaves kind = false := by decide
  have hreached := (hkinds clause.kind hkind).1
  rw [ExitRules.found_of_kind rfl (hkinds clause.kind hkind).2 (by rw [hreached]; decide), hreached,
    foundFrom_statements_blockOf? (conforms_clause hconforms hkind) h]

/-- The clauses of some kinds among the children. -/
theorem filter_isClause {kinds : List String} {trees : List SourceTree} (hkinds : kinds ⊆ clauseKinds)
    (hnamed : (trees.all fun tree => !clauseKinds.contains tree.kind || tree.named) = true) :
    trees.filter (isClause kinds) = trees.filter (kinds.contains ·.kind) := by
  refine List.filter_congr fun tree htree => ?_
  have htree := List.all_eq_true.1 hnamed tree htree
  rw [isClause]
  cases hkind : kinds.contains tree.kind with
  | false => exact Bool.and_false _
  | true =>
    rw [List.contains_iff_mem.2 (hkinds (List.contains_iff_mem.1 hkind)), Bool.not_true, Bool.false_or] at htree
    rw [htree, Bool.true_and]

theorem all_dropLast_of_cons {α : Type} {p : α → Bool} {a : α} {l : List α}
    (h : (a :: l).dropLast.all p = true) : l.dropLast.all p = true := by
  cases l with
  | nil => rfl
  | cons b rest =>
    rw [List.dropLast_cons_cons, List.all_cons, Bool.and_eq_true] at h
    exact h.2

theorem blockSites_append (a b : List FlowStmt) : blockSites (a ++ b) = blockSites a ++ blockSites b := by
  induction a with
  | nil => rfl
  | cons stmt rest ih => rw [List.cons_append, blockSites, blockSites, ih, List.append_assoc]

theorem blockSites_flatten (bodies : List (List FlowStmt)) : blockSites bodies.flatten = allSites bodies := by
  induction bodies with
  | nil => rfl
  | cons body rest ih => rw [List.flatten_cons, blockSites_append, ih, allSites]

theorem optionSites_getLast? {bodies : List (List FlowStmt)} (h : bodies.length ≤ 1) :
    optionSites bodies.getLast? = allSites bodies := by
  match bodies, h with
  | [], _ => rfl
  | [body], _ => exact (List.append_nil _).symm

theorem length_lowerClauses (clauses : List SourceTree) : (lowerClauses clauses).length = clauses.length := by
  induction clauses with
  | nil =>
    rw [lowerClauses]
    rfl
  | cons clause rest ih => rw [lowerClauses, List.length_cons, ih, List.length_cons]

theorem sites_guarded (site : Site) (body : List FlowStmt) (elses handlers : List (List FlowStmt))
    {finallies : List (List FlowStmt)} (h : finallies.length ≤ 1) :
    sites (.guarded site (body ++ elses.flatten) handlers finallies.getLast?) =
      site :: (blockSites body ++ (allSites elses ++ (allSites handlers ++ allSites finallies))) := by
  rw [sites, blockSites_append, blockSites_flatten, optionSites_getLast? h, List.append_assoc, List.append_assoc]

section Statements

variable {stmt : SourceTree} (h : stmt.everywhere conforms = true)

include h

/-- A statement that has nothing but a body is left where its body is. -/
theorem yields_of_body {inner : List Site} (hkind : stmt.kind ∈ bodyKinds)
    (hbody : exitRules.Yields inner
      (exitRules.foundFrom reachedStatements (statements (stmt.child? "body")))) :
    exitRules.Yields inner (exitRules.foundFrom reachedStatements [stmt]) := by
  have hfacts : ∀ kind ∈ bodyKinds,
      exitRules.reached kind = ["block"] ∧ kind ∈ reachedStatements ∧ exitRules.leaves kind = false := by
    decide
  obtain ⟨hreached, hmem, hleaves⟩ := hfacts _ hkind
  rw [ExitRules.foundFrom_singleton rfl hmem hleaves (by rw [hreached]; decide), hreached,
    ← foundFrom_statements_child? (conforms_body (SourceTree.here_of_everywhere h) hkind) h]
  exact hbody

theorem yields_of_if {inner other : List Site} (hkind : stmt.kind = "if_statement")
    (hthen : exitRules.Yields inner
      (exitRules.foundFrom reachedStatements (statements (stmt.child? "consequence"))))
    (helse : exitRules.Yields other ((stmt.childrenIn "alternative").flatMap exitRules.found)) :
    exitRules.Yields (inner ++ other) (exitRules.foundFrom reachedStatements [stmt]) := by
  obtain ⟨hsole, hholds, -⟩ := conforms_if (SourceTree.here_of_everywhere h) hkind
  rw [foundFrom_statements_child? hsole h] at hthen
  rw [SourceTree.childrenIn_of_holds hholds, ← ExitRules.foundFrom_eq_filter] at helse
  rw [ExitRules.foundFrom_singleton hkind (by decide) (by decide) (by decide)]
  exact (hthen.append helse).perm (ExitRules.foundFrom_append (by decide) stmt.children).symm

theorem alternatives_of_if (hkind : stmt.kind = "if_statement") : ∀ next ∈ stmt.childrenIn "alternative",
    next.kind ∈ ["elif_clause", "else_clause"] ∧ next.everywhere conforms = true := by
  obtain ⟨-, hholds, -⟩ := conforms_if (SourceTree.here_of_everywhere h) hkind
  intro next hnext
  rw [SourceTree.childrenIn_of_holds hholds] at hnext
  obtain ⟨hmem, hkinds⟩ := List.mem_filter.1 hnext
  exact ⟨List.contains_iff_mem.1 hkinds, SourceTree.everywhere_of_mem h hmem⟩

theorem clauses_of_try {kinds : List String} (hkinds : kinds ⊆ clauseKinds) :
    ∀ clause ∈ stmt.children.filter (isClause kinds),
      clause.kind ∈ clauseKinds ∧ clause.everywhere conforms = true := by
  intro clause hclause
  obtain ⟨hmem, hclause⟩ := List.mem_filter.1 hclause
  rw [isClause, Bool.and_eq_true, List.contains_iff_mem] at hclause
  exact ⟨hkinds hclause.2, SourceTree.everywhere_of_mem h hmem⟩

theorem yields_of_try {inner : List Site} {clauseSites : List String → List Site}
    (hkind : stmt.kind = "try_statement")
    (hbody : exitRules.Yields inner
      (exitRules.foundFrom reachedStatements (statements (stmt.child? "body"))))
    (hclauses : ∀ kinds ⊆ clauseKinds, exitRules.Yields (clauseSites kinds)
      ((stmt.children.filter (isClause kinds)).flatMap exitRules.found)) :
    exitRules.Yields (inner ++ (clauseSites ["else_clause"] ++
        (clauseSites ["except_clause", "except_group_clause"] ++ clauseSites ["finally_clause"])))
      (exitRules.foundFrom reachedStatements [stmt]) := by
  obtain ⟨hsole, hnamed, -⟩ := conforms_try (SourceTree.here_of_everywhere h) hkind
  have hclause (kinds : List String) (hkinds : kinds ⊆ clauseKinds) :
      exitRules.Yields (clauseSites kinds) (exitRules.foundFrom kinds stmt.children) := by
    rw [ExitRules.foundFrom_eq_filter, ← filter_isClause hkinds hnamed]
    exact hclauses kinds hkinds
  rw [foundFrom_statements_child? hsole h] at hbody
  rw [ExitRules.foundFrom_singleton hkind (by decide) (by decide) (by decide)]
  -- An `else` is lowered with the body, before the handlers, wherever it stands among the children.
  have hlast := (hclause ["except_clause", "except_group_clause"] (by decide)).append
    (hclause ["finally_clause"] (by decide))
  have hafter := (hclause ["else_clause"] (by decide)).append
    (hlast.perm (ExitRules.foundFrom_append (by decide) _).symm)
  have hparts := hbody.append (hafter.perm (ExitRules.foundFrom_append (by decide) _).symm)
  exact hparts.perm (ExitRules.foundFrom_append (by decide) _).symm

end Statements

mutual

/-- The exits of a statement are those that are found in it. -/
theorem yields_lower {stmt : SourceTree} (h : stmt.everywhere conforms = true) :
    exitRules.Yields (sites (lower stmt)) (exitRules.foundFrom reachedStatements [stmt]) := by
  -- The recursion is that of the lowering, with one case for each kind of statement.
  have hconforms := SourceTree.here_of_everywhere h
  have hblock (role : String) := yields_lowerAll (everywhere_of_mem_child? h role)
  rw [lower]
  split
  · next hkind =>
    have hkind := beq_iff_eq.1 hkind
    obtain ⟨-, -, hlast⟩ := conforms_if hconforms hkind
    have helse := yields_lowerAlternatives (alternatives_of_if h hkind) hlast
    exact (yields_of_if h hkind (hblock "consequence") helse).cons rfl
  split
  · next hkind => exact ExitRules.yields_exit (beq_iff_eq.1 hkind) (by decide) (by decide)
  split
  · next hkind => exact ExitRules.yields_exit (beq_iff_eq.1 hkind) (by decide) (by decide)
  split
  · next hkind =>
    exact (yields_of_body h (by rw [beq_iff_eq.1 hkind]; decide) (hblock "body")).cons rfl
  split
  · next hkind =>
    exact (yields_of_body h (by rw [beq_iff_eq.1 hkind]; decide) (hblock "body")).cons rfl
  split
  · next hkind =>
    have hkind := beq_iff_eq.1 hkind
    have hclauses (kinds : List String) (hkinds : kinds ⊆ clauseKinds) :=
      yields_lowerClauses (clauses_of_try h hkinds)
    obtain ⟨-, -, hfinally⟩ := conforms_try hconforms hkind
    rw [sites_guarded _ _ _ _ (by rwa [length_lowerClauses])]
    exact (yields_of_try h hkind (hblock "body") hclauses).cons rfl
  split
  · next hkind =>
    exact (yields_of_body h (by rw [beq_iff_eq.1 hkind]; decide) (hblock "body")).cons rfl
  · next hif hreturn hraise hfor hwhile htry hwith =>
    -- Nothing is looked for in any other statement.
    rw [ExitRules.foundFrom_singleton_of_notMem (by simp_all [reachedStatements])]
    split
    · split
      · exact ExitRules.Yields.nil.cons rfl
      · exact .nil
    · exact .nil
termination_by sizeOf stmt
decreasing_by
  · exact sizeOf_statements_lt fun _ h => SourceTree.sizeOf_lt_of_child? h
  · exact sizeOf_filter_lt _ stmt
  · exact sizeOf_filter_lt _ stmt

/-- **The exits of a Python body are those that are found in it.** -/
theorem yields_lowerAll {stmts : List SourceTree} (h : ∀ stmt ∈ stmts, stmt.everywhere conforms = true) :
    exitRules.Yields (blockSites (lowerAll stmts)) (exitRules.foundFrom reachedStatements stmts) := by
  match stmts with
  | [] =>
    rw [lowerAll]
    exact .nil
  | stmt :: rest =>
    rw [List.forall_mem_cons] at h
    rw [lowerAll, ExitRules.foundFrom_cons]
    exact (yields_lower h.1).append (yields_lowerAll h.2)
termination_by sizeOf stmts

/-- The exits of clauses are those that are found in them. -/
theorem yields_lowerClauses {clauses : List SourceTree}
    (h : ∀ clause ∈ clauses, clause.kind ∈ clauseKinds ∧ clause.everywhere conforms = true) :
    exitRules.Yields (allSites (lowerClauses clauses)) (clauses.flatMap exitRules.found) := by
  match clauses with
  | [] =>
    rw [lowerClauses]
    exact .nil
  | clause :: rest =>
    rw [List.forall_mem_cons] at h
    rw [lowerClauses, List.flatMap_cons, found_of_clause h.1.1 h.1.2]
    exact (yields_lowerAll (everywhere_of_mem_blockOf? h.1.2)).append (yields_lowerClauses h.2)
termination_by sizeOf clauses
decreasing_by
  · have : sizeOf (statements (blockOf? clause)) < sizeOf clause :=
      sizeOf_statements_lt fun _ h => sizeOf_lt_of_blockOf? h
    simp only [List.cons.sizeOf_spec]
    omega
  · simp only [List.cons.sizeOf_spec]
    omega

/-- The exits of the alternatives of a condition are those that are found in them. -/
theorem yields_lowerAlternatives {alternatives : List SourceTree}
    (h : ∀ next ∈ alternatives, next.kind ∈ ["elif_clause", "else_clause"] ∧ next.everywhere conforms = true)
    (hlast : alternatives.dropLast.all (·.kind == "elif_clause") = true) :
    exitRules.Yields (optionSites (lowerAlternatives alternatives)) (alternatives.flatMap exitRules.found) := by
  match alternatives with
  | [] =>
    rw [lowerAlternatives]
    exact .nil
  | next :: rest =>
    rw [List.forall_mem_cons] at h
    obtain ⟨⟨hkinds, hnext⟩, hrest⟩ := h
    have hconforms := SourceTree.here_of_everywhere hnext
    rw [lowerAlternatives, List.flatMap_cons]
    split
    · next hkind =>
      have hkind := beq_iff_eq.1 hkind
      have hsole := conforms_elif hconforms hkind
      have hthen : exitRules.Yields (blockSites (lowerAll (statements (next.child? "consequence"))))
          (exitRules.found next) := by
        rw [ExitRules.found_of_kind hkind (by decide) (by decide)]
        exact (yields_lowerAll (everywhere_of_mem_child? hnext _)).perm
          (.of_eq (foundFrom_statements_child? hsole hnext))
      have hother := yields_lowerAlternatives hrest (all_dropLast_of_cons hlast)
      exact (((hthen.append hother).cons rfl).append .nil).perm (by rw [List.append_nil])
    · next hkind =>
      -- An `else` is the last alternative.
      cases rest with
      | cons other rest => simp_all
      | nil =>
        have hclause : next.kind ∈ clauseKinds := by simp_all [clauseKinds]
        rw [found_of_clause hclause hnext, List.flatMap_nil, List.append_nil]
        exact yields_lowerAll (everywhere_of_mem_blockOf? hnext)
termination_by sizeOf alternatives
decreasing_by
  · have : sizeOf (statements (blockOf? next)) < sizeOf next :=
      sizeOf_statements_lt fun _ h => sizeOf_lt_of_blockOf? h
    simp only [List.cons.sizeOf_spec]
    omega
  · have : sizeOf (statements (next.child? "consequence")) < sizeOf next :=
      sizeOf_statements_lt fun _ h => SourceTree.sizeOf_lt_of_child? h
    simp only [List.cons.sizeOf_spec]
    omega
  · simp only [List.cons.sizeOf_spec]
    omega

end

/-- **A Python function is left where its exits are found.** -/
theorem perm_sitesOf {function body : SourceTree} (h : function.everywhere conforms = true)
    (hkind : function.kind = "function_definition") (hbody : function.child? "body" = some body) :
    (blockSites (lowerAll (statements (some body)))).filter Site.isExit ~ exitRules.sitesOf function := by
  have hsole := conforms_function (SourceTree.here_of_everywhere h) hkind
  have hblock : body.kind = "block" := List.mem_singleton.1 (SourceTree.kind_of_sole hsole hbody)
  have hyields := yields_lowerAll (everywhere_of_mem_child? h "body")
  rw [foundFrom_statements_child? hsole h, ExitRules.foundFrom_of_sole hsole, hbody, Option.toList_some,
    List.flatMap_singleton] at hyields
  rw [ExitRules.sitesOf, hbody]
  simp only [show (body.kind == exitRules.block) = true from beq_iff_eq.2 hblock, if_true]
  exact hyields

end Python

namespace Script

section Blocks

variable {tree : SourceTree}

/-- The exits at a place for a statement are those of the statement. -/
theorem foundFrom_statements_some (h : conforms tree = true) :
    exitRules.foundFrom reachedStatements (statements (some tree)) =
      exitRules.foundFrom reachedStatements [tree] := by
  rw [statements]
  split
  · next hkind =>
    have hkind := beq_iff_eq.1 hkind
    rw [ExitRules.foundFrom_singleton_of_mem (by rw [hkind]; decide),
      ExitRules.found_of_kind hkind (by decide) (by decide),
      ExitRules.foundFrom_filter (SourceTree.named_of_lists (conforms_block h hkind))]
    rfl
  · rfl

theorem foundFrom_statements {part? : Option SourceTree}
    (h : ∀ part, part? = some part → conforms part = true) :
    exitRules.foundFrom reachedStatements (statements part?) =
      exitRules.foundFrom reachedStatements part?.toList := by
  cases part? with
  | none => rfl
  | some part => exact foundFrom_statements_some (h part rfl)

theorem foundFrom_statements_child? (h : tree.everywhere conforms = true) (role : String) :
    exitRules.foundFrom reachedStatements (statements (tree.child? role)) =
      exitRules.foundFrom reachedStatements (tree.child? role).toList :=
  foundFrom_statements fun _ hpart => SourceTree.here_of_everywhere (SourceTree.everywhere_child? h hpart)

theorem foundFrom_statements_of_hasSoleStatement {role : String} (hsole : hasSoleStatement tree role = true)
    (h : tree.everywhere conforms = true) :
    exitRules.foundFrom reachedStatements (statements (tree.child? role)) =
      exitRules.foundFrom reachedStatements tree.children := by
  rw [hasSoleStatement, Bool.and_eq_true, decide_eq_true_iff] at hsole
  rw [foundFrom_statements_child? h, SourceTree.child?, SourceTree.toList_find?_of_length hsole.2]
  exact ExitRules.foundFrom_filter fun child hchild hreached => by
    simpa [hreached] using List.all_eq_true.1 hsole.1 child hchild

theorem foundFrom_statements_of_sole {role : String} (hsole : tree.sole role ["statement_block"] = true)
    (h : tree.everywhere conforms = true) :
    exitRules.foundFrom reachedStatements (statements (tree.child? role)) =
      exitRules.foundFrom ["statement_block"] tree.children := by
  rw [foundFrom_statements_child? h, ExitRules.foundFrom_of_sole hsole]
  cases hpart : tree.child? role with
  | none => rfl
  | some part =>
    have hkind := List.mem_singleton.1 (SourceTree.kind_of_sole hsole hpart)
    rw [Option.toList_some, ExitRules.foundFrom_singleton_of_mem (by rw [hkind]; decide),
      List.flatMap_singleton]

/-- The exits of an `else` are those of the statement that stands in it. -/
theorem found_of_else (hkind : tree.kind = "else_clause") (h : tree.everywhere conforms = true) :
    exitRules.found tree = exitRules.foundFrom reachedStatements (statements (alternative? tree)) := by
  obtain ⟨hlists, hlength⟩ := conforms_else (SourceTree.here_of_everywhere h) hkind
  rw [ExitRules.found_of_kind hkind (by decide) (by decide), foundFrom_statements fun part hpart => ?_,
    alternative?, SourceTree.toList_find?_of_length hlength,
    ExitRules.foundFrom_filter (SourceTree.named_of_lists hlists)]
  · rfl
  · exact SourceTree.here_of_everywhere (SourceTree.everywhere_of_mem h (List.mem_of_find?_eq_some hpart))

end Blocks

theorem everywhere_of_mem_statements {part? : Option SourceTree}
    (h : ∀ part, part? = some part → part.everywhere conforms = true) :
    ∀ stmt ∈ statements part?, stmt.everywhere conforms = true := by
  intro stmt hstmt
  cases part? with
  | none => cases hstmt
  | some part =>
    rw [statements] at hstmt
    split at hstmt
    · exact SourceTree.everywhere_of_mem (h part rfl) (List.mem_filter.1 hstmt).1
    · rw [List.mem_singleton.1 hstmt]
      exact h part rfl

theorem everywhere_of_mem_child? {tree : SourceTree} (h : tree.everywhere conforms = true) (role : String) :
    ∀ stmt ∈ statements (tree.child? role), stmt.everywhere conforms = true :=
  everywhere_of_mem_statements fun _ => SourceTree.everywhere_child? h

theorem everywhere_of_mem_alternative? {clause : SourceTree} (h : clause.everywhere conforms = true) :
    ∀ stmt ∈ statements (alternative? clause), stmt.everywhere conforms = true :=
  everywhere_of_mem_statements fun _ hpart => SourceTree.everywhere_of_mem h (List.mem_of_find?_eq_some hpart)

/-- The kind of a condition's branch is not that of an exit. -/
def IsCondition (kind : String) : Prop :=
  exitKinds.contains kind = false

theorem isCondition_if : IsCondition "if" := by
  unfold IsCondition
  decide

theorem isExit_of_isCondition {kind : String} (h : IsCondition kind) {tree : SourceTree} :
    (Site.ofTree kind tree).isExit = false := h

theorem isCondition_alternativeKind (tree? : Option SourceTree) : IsCondition (alternativeKind tree?) := by
  unfold alternativeKind IsCondition
  split <;> decide

theorem allSites_toList (body? : Option (List FlowStmt)) : allSites body?.toList = optionSites body? := by
  cases body? with
  | none => rfl
  | some body => exact List.append_nil _

/-- The exits of a clause are those of its body. -/
theorem found_of_clause {clause : SourceTree} (hkind : clause.kind ∈ clauseKinds)
    (h : clause.everywhere conforms = true) :
    exitRules.found clause = exitRules.foundFrom reachedStatements (statements (clause.child? "body")) := by
  have hfacts : ∀ kind ∈ clauseKinds,
      exitRules.reached kind = ["statement_block"] ∧ exitRules.leaves kind = false := by
    decide
  obtain ⟨hreached, hleaves⟩ := hfacts _ hkind
  rw [ExitRules.found_of_kind rfl hleaves (by rw [hreached]; decide), hreached,
    foundFrom_statements_of_sole (conforms_clause (SourceTree.here_of_everywhere h) hkind) h]

/-- The only clause of a kind is lowered by itself. -/
theorem yields_child? {stmt : SourceTree} {role kind : String} (hsole : stmt.sole role [kind] = true)
    {lowered : SourceTree → List FlowStmt}
    (h : ∀ clause, stmt.child? role = some clause → clause.kind = kind →
      exitRules.Yields (blockSites (lowered clause)) (exitRules.found clause)) :
    exitRules.Yields (optionSites ((stmt.child? role).map lowered)) (exitRules.foundFrom [kind] stmt.children) := by
  rw [ExitRules.foundFrom_of_sole hsole]
  cases hpart : stmt.child? role with
  | none => exact .nil
  | some clause =>
    rw [Option.toList_some, List.flatMap_singleton]
    exact h clause hpart (List.mem_singleton.1 (SourceTree.kind_of_sole hsole hpart))

section Statements

variable {stmt : SourceTree} (h : stmt.everywhere conforms = true)

include h

/-- A loop is left where its body is. -/
theorem yields_of_loop {inner : List Site} (hkind : stmt.kind ∈ loopKinds)
    (hbody : exitRules.Yields inner
      (exitRules.foundFrom reachedStatements (statements (stmt.child? "body")))) :
    exitRules.Yields inner (exitRules.foundFrom reachedStatements [stmt]) := by
  have hfacts : ∀ kind ∈ loopKinds, exitRules.reached kind = reachedStatements ∧ kind ∈ reachedStatements ∧
      exitRules.leaves kind = false := by
    decide
  obtain ⟨hreached, hmem, hleaves⟩ := hfacts _ hkind
  rw [ExitRules.foundFrom_singleton rfl hmem hleaves (by rw [hreached]; decide), hreached,
    ← foundFrom_statements_of_hasSoleStatement (conforms_loop (SourceTree.here_of_everywhere h) hkind) h]
  exact hbody

theorem yields_of_if {inner other : List Site} (hkind : stmt.kind = "if_statement")
    (hthen : exitRules.Yields inner
      (exitRules.foundFrom reachedStatements (statements (stmt.child? "consequence"))))
    (helse : exitRules.Yields other (exitRules.foundFrom ["else_clause"] stmt.children)) :
    exitRules.Yields (inner ++ other) (exitRules.foundFrom reachedStatements [stmt]) := by
  obtain ⟨hsole, -⟩ := conforms_if (SourceTree.here_of_everywhere h) hkind
  rw [foundFrom_statements_of_hasSoleStatement hsole h] at hthen
  rw [ExitRules.foundFrom_singleton hkind (by decide) (by decide) (by decide)]
  exact (hthen.append helse).perm (ExitRules.foundFrom_append (by decide) _).symm

theorem yields_of_try {inner handler finalizer : List Site} (hkind : stmt.kind = "try_statement")
    (hbody : exitRules.Yields inner
      (exitRules.foundFrom reachedStatements (statements (stmt.child? "body"))))
    (hhandler : exitRules.Yields handler (exitRules.foundFrom ["catch_clause"] stmt.children))
    (hfinalizer : exitRules.Yields finalizer (exitRules.foundFrom ["finally_clause"] stmt.children)) :
    exitRules.Yields (inner ++ (handler ++ finalizer)) (exitRules.foundFrom reachedStatements [stmt]) := by
  obtain ⟨hsole, -, -⟩ := conforms_try (SourceTree.here_of_everywhere h) hkind
  rw [foundFrom_statements_of_sole hsole h] at hbody
  rw [ExitRules.foundFrom_singleton hkind (by decide) (by decide) (by decide)]
  have hlast := (hhandler.append hfinalizer).perm (ExitRules.foundFrom_append (by decide) _).symm
  exact (hbody.append hlast).perm (ExitRules.foundFrom_append (by decide) _).symm

end Statements

mutual

/-- The exits of a statement are those that are found in it. -/
theorem yields_lower {condKind : String} (hcond : IsCondition condKind) {stmt : SourceTree}
    (h : stmt.everywhere conforms = true) :
    exitRules.Yields (sites (lower condKind stmt)) (exitRules.foundFrom reachedStatements [stmt]) := by
  have hconforms := SourceTree.here_of_everywhere h
  -- what the parts of a statement yield: its blocks, and the blocks of its clauses
  have hplace (role : String) := yields_lowerAll isCondition_if (everywhere_of_mem_child? h role)
  have hclause {role kind : String} (hsole : stmt.sole role [kind] = true) (hkinds : kind ∈ clauseKinds) :=
    yields_child? hsole fun clause hpart hkind => by
      have hclause := SourceTree.everywhere_child? h hpart
      rw [found_of_clause (hkind ▸ hkinds) hclause]
      exact yields_lowerAll isCondition_if (everywhere_of_mem_child? hclause "body")
  -- in the order of the kinds: conditions, exits, loops, guarded blocks, nested blocks, and statements that are
  -- not looked into
  rw [lower_eq]
  split
  · next hkind =>
    have hkind := beq_iff_eq.1 hkind
    obtain ⟨-, hsole⟩ := conforms_if hconforms hkind
    have helse := yields_child? hsole fun clause hpart hkind => by
      have hclause := SourceTree.everywhere_child? h hpart
      rw [found_of_else hkind hclause]
      exact yields_lowerAll (isCondition_alternativeKind (alternative? clause))
        (everywhere_of_mem_alternative? hclause)
    exact (yields_of_if h hkind (hplace "consequence") helse).cons (isExit_of_isCondition hcond)
  split
  · next hkind => exact ExitRules.yields_exit (beq_iff_eq.1 hkind) (by decide) (by decide)
  split
  · next hkind => exact ExitRules.yields_exit (beq_iff_eq.1 hkind) (by decide) (by decide)
  split
  · next hkind =>
    rw [Bool.or_eq_true, beq_iff_eq, beq_iff_eq] at hkind
    have hkinds : stmt.kind ∈ loopKinds := by rcases hkind with hkind | hkind <;> rw [hkind] <;> decide
    exact (yields_of_loop h hkinds (hplace "body")).cons rfl
  split
  · next hkind =>
    exact (yields_of_loop h (by rw [beq_iff_eq.1 hkind]; decide) (hplace "body")).cons rfl
  split
  · next hkind =>
    exact (yields_of_loop h (by rw [beq_iff_eq.1 hkind]; decide) (hplace "body")).cons rfl
  split
  · next hkind =>
    have hkind := beq_iff_eq.1 hkind
    obtain ⟨-, hhandler, hfinalizer⟩ := conforms_try hconforms hkind
    rw [sites, allSites_toList, List.append_assoc]
    exact (yields_of_try h hkind (hplace "body") (hclause hhandler (by decide))
      (hclause hfinalizer (by decide))).cons rfl
  split
  · next hkind =>
    have hkind := beq_iff_eq.1 hkind
    rw [← foundFrom_statements_some hconforms, statements, if_pos (by rw [hkind]; rfl)]
    exact yields_lowerAll isCondition_if fun inner hinner =>
      SourceTree.everywhere_of_mem h (List.mem_filter.1 hinner).1
  · rw [ExitRules.foundFrom_singleton_of_notMem (by simp_all [reachedStatements])]
    split
    · split
      · exact ExitRules.Yields.nil.cons rfl
      · exact .nil
    · exact .nil
termination_by sizeOf stmt
decreasing_by
  · exact sizeOf_statements_child?_lt stmt _
  · exact sizeOf_statements_of_child?_lt hpart _
  · exact Nat.lt_of_le_of_lt (SourceTree.sizeOf_filter_le _ _) stmt.sizeOf_children_lt
  · exact sizeOf_statements_alternative?_lt hpart

/-- The exits of statements are those that are found in them. -/
theorem yields_lowerAll {condKind : String} (hcond : IsCondition condKind) {stmts : List SourceTree}
    (h : ∀ stmt ∈ stmts, stmt.everywhere conforms = true) :
    exitRules.Yields (blockSites (lowerAll condKind stmts)) (exitRules.foundFrom reachedStatements stmts) := by
  match stmts with
  | [] =>
    rw [lowerAll]
    exact .nil
  | stmt :: rest =>
    rw [List.forall_mem_cons] at h
    rw [lowerAll, ExitRules.foundFrom_cons]
    exact (yields_lower hcond h.1).append (yields_lowerAll hcond h.2)
termination_by sizeOf stmts

end

/-- **A function of a script is left where its exits are found.** -/
theorem perm_sitesOf {function body : SourceTree} (h : function.everywhere conforms = true)
    (hbody : function.child? "body" = some body) :
    (blockSites (lowerBody body)).filter Site.isExit ~ exitRules.sitesOf function := by
  have hinside := SourceTree.everywhere_child? h hbody
  have hyields := yields_lowerAll isCondition_if (everywhere_of_mem_child? h "body")
  rw [hbody, foundFrom_statements_some (SourceTree.here_of_everywhere hinside)] at hyields
  rw [ExitRules.sitesOf, hbody, lowerBody]
  dsimp only
  by_cases hkind : body.kind = "statement_block"
  · have hblock : (body.kind == "statement_block") = true := beq_iff_eq.2 hkind
    rw [if_pos hblock, if_pos (show (body.kind == exitRules.block) = true from hblock)]
    rwa [ExitRules.foundFrom_singleton_of_mem (by rw [hkind]; decide)] at hyields
  · have hblock : ¬(body.kind == "statement_block") = true := mt beq_iff_eq.1 hkind
    rw [if_neg hblock, if_neg (show ¬(body.kind == exitRules.block) = true from hblock)]
    exact .refl _

end Script

end StructuralDiff
