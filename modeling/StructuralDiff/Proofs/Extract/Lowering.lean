import StructuralDiff.Extract.Python
import StructuralDiff.Extract.Script
import StructuralDiff.Proofs.Fragment.Reachability

/-!
# Lowered function bodies

What the languages make of a function body fits: control passes through everything that is no branch, and no
kind of a branch holds an arrow.

* `Python.fitAll_lowerAll`, `Script.fitAll_lowerBody`: this holds of every tree.
-/

namespace StructuralDiff

namespace FlowStmt

/-- Control passes through what is no branch, and no kind of a branch holds an arrow. -/
def Fit (stmt : FlowStmt) : Prop :=
  plainFalls stmt = true ∧ ∀ site ∈ sites stmt, ArrowFree site.kind

/-- All statements fit. -/
def FitAll (body : List FlowStmt) : Prop :=
  ∀ stmt ∈ body, Fit stmt

theorem fitAll_iff {body : List FlowStmt} : FitAll body ↔
    blockPlainFalls body = true ∧ ∀ site ∈ blockSites body, ArrowFree site.kind := by
  unfold FitAll
  induction body with
  | nil => simp [blockPlainFalls, blockSites]
  | cons stmt rest ih =>
    rw [List.forall_mem_cons, ih, Fit, blockPlainFalls, blockSites, Bool.and_eq_true, List.forall_mem_append]
    exact and_and_and_comm

section Fit

variable {site : Site} {body : List FlowStmt} {other : Option (List FlowStmt)}

theorem fit_exit (hsite : ArrowFree site.kind) : Fit (.exit site) :=
  ⟨rfl, List.forall_mem_singleton.2 hsite⟩

theorem fit_call (hsite : ArrowFree site.kind) : Fit (.call site) :=
  ⟨rfl, List.forall_mem_singleton.2 hsite⟩

theorem fit_loop (hsite : ArrowFree site.kind) (hbody : FitAll body) : Fit (.loop site body) :=
  ⟨(fitAll_iff.1 hbody).1, List.forall_mem_cons.2 ⟨hsite, (fitAll_iff.1 hbody).2⟩⟩

theorem fit_scoped (hsite : ArrowFree site.kind) (hbody : FitAll body) : Fit (.scoped site body) :=
  ⟨(fitAll_iff.1 hbody).1, List.forall_mem_cons.2 ⟨hsite, (fitAll_iff.1 hbody).2⟩⟩

theorem fit_sequence (hbody : FitAll body) : Fit (.sequence body) :=
  fitAll_iff.1 hbody

theorem fit_plain : Fit (.plain true) :=
  ⟨rfl, List.forall_mem_nil _⟩

theorem fit_option (hother : ∀ body ∈ other, FitAll body) :
    optionPlainFalls other = true ∧ ∀ site ∈ optionSites other, ArrowFree site.kind := by
  cases other with
  | none => exact ⟨rfl, List.forall_mem_nil _⟩
  | some body => exact fitAll_iff.1 (hother body rfl)

theorem fit_each {bodies : List (List FlowStmt)} (hbodies : ∀ body ∈ bodies, FitAll body) :
    allPlainFall bodies = true ∧ ∀ site ∈ allSites bodies, ArrowFree site.kind := by
  induction bodies with
  | nil => exact ⟨rfl, List.forall_mem_nil _⟩
  | cons body rest ih =>
    rw [List.forall_mem_cons] at hbodies
    obtain ⟨hplain, hsites⟩ := fitAll_iff.1 hbodies.1
    obtain ⟨hplainRest, hsitesRest⟩ := ih hbodies.2
    rw [allPlainFall, allSites, hplain, hplainRest]
    exact ⟨rfl, List.forall_mem_append.2 ⟨hsites, hsitesRest⟩⟩

theorem fit_cond {truth : Option Bool} (hsite : ArrowFree site.kind) (hbody : FitAll body)
    (hother : ∀ body ∈ other, FitAll body) : Fit (.cond site truth body other) := by
  obtain ⟨hplain, hsites⟩ := fitAll_iff.1 hbody
  obtain ⟨hplainOther, hsitesOther⟩ := fit_option hother
  rw [Fit, plainFalls, sites, hplain, hplainOther]
  exact ⟨rfl, List.forall_mem_cons.2 ⟨hsite, List.forall_mem_append.2 ⟨hsites, hsitesOther⟩⟩⟩

theorem fit_guarded {handlers : List (List FlowStmt)} (hsite : ArrowFree site.kind) (hbody : FitAll body)
    (hhandlers : ∀ body ∈ handlers, FitAll body) (hother : ∀ body ∈ other, FitAll body) :
    Fit (.guarded site body handlers other) := by
  obtain ⟨hplain, hsites⟩ := fitAll_iff.1 hbody
  obtain ⟨hplainEach, hsitesEach⟩ := fit_each hhandlers
  obtain ⟨hplainOther, hsitesOther⟩ := fit_option hother
  rw [Fit, plainFalls, sites, hplain, hplainEach, hplainOther]
  exact ⟨rfl, List.forall_mem_cons.2 ⟨hsite, List.forall_mem_append.2
    ⟨List.forall_mem_append.2 ⟨hsites, hsitesEach⟩, hsitesOther⟩⟩⟩

theorem fit_ite {c : Prop} [Decidable c] {a b : FlowStmt} (ha : Fit a) (hb : Fit b) :
    Fit (if c then a else b) := by
  split
  · exact ha
  · exact hb

end Fit

end FlowStmt

open FlowStmt

namespace Python

mutual

theorem fit_lower (stmt : SourceTree) : Fit (lower stmt) := by
  have hblock := fitAll_lowerAll (statements (stmt.child? "body"))
  rw [lower]
  refine fit_ite ?_ ?_
  · exact fit_cond (show ArrowFree "if" by decide) (fitAll_lowerAll _) (fitAll_lowerAlternatives _)
  refine fit_ite ?_ ?_
  · exact fit_exit (show ArrowFree "return" by decide)
  refine fit_ite ?_ ?_
  · exact fit_exit (show ArrowFree "raise" by decide)
  refine fit_ite ?_ ?_
  · exact fit_loop (show ArrowFree "for" by decide) hblock
  refine fit_ite ?_ ?_
  · exact fit_loop (show ArrowFree "while" by decide) hblock
  refine fit_ite ?_ ?_
  · refine fit_guarded (show ArrowFree "try" by decide) (List.forall_mem_append.2 ⟨hblock, ?_⟩)
      (fitAll_lowerClauses _) ?_
    · intro inner hinner
      obtain ⟨clause, hclause, hmem⟩ := List.mem_flatten.1 hinner
      exact fitAll_lowerClauses _ clause hclause inner hmem
    · exact fun body hbody => fitAll_lowerClauses _ body (List.mem_of_getLast? hbody)
  refine fit_ite ?_ ?_
  · exact fit_scoped (show ArrowFree "with" by decide) hblock
  refine fit_ite ?_ ?_
  · split
    · exact fit_call (show ArrowFree "call" by decide)
    · exact fit_plain
  · exact fit_plain
termination_by sizeOf stmt
decreasing_by
  all_goals first
    | exact sizeOf_statements_lt fun _ h => SourceTree.sizeOf_lt_of_child? h
    | exact sizeOf_filter_lt _ stmt

/-- **What a Python body is lowered to fits.** -/
theorem fitAll_lowerAll (stmts : List SourceTree) : FitAll (lowerAll stmts) := by
  match stmts with
  | [] =>
    rw [lowerAll]
    exact List.forall_mem_nil _
  | stmt :: rest =>
    rw [lowerAll]
    exact List.forall_mem_cons.2 ⟨fit_lower stmt, fitAll_lowerAll rest⟩
termination_by sizeOf stmts

theorem fitAll_lowerClauses (clauses : List SourceTree) : ∀ body ∈ lowerClauses clauses, FitAll body := by
  match clauses with
  | [] =>
    rw [lowerClauses]
    exact List.forall_mem_nil _
  | clause :: rest =>
    rw [lowerClauses]
    exact List.forall_mem_cons.2 ⟨fitAll_lowerAll _, fitAll_lowerClauses rest⟩
termination_by sizeOf clauses
decreasing_by
  · have : sizeOf (statements (blockOf? clause)) < sizeOf clause :=
      sizeOf_statements_lt fun _ h => sizeOf_lt_of_blockOf? h
    simp only [List.cons.sizeOf_spec]
    omega
  · simp only [List.cons.sizeOf_spec]
    omega

theorem fitAll_lowerAlternatives (alternatives : List SourceTree) :
    ∀ body ∈ lowerAlternatives alternatives, FitAll body := by
  match alternatives with
  | [] =>
    rw [lowerAlternatives]
    rintro _ ⟨⟩
  | next :: rest =>
    have hbody := fitAll_lowerAll (statements (next.child? "consequence"))
    have hrest := fitAll_lowerAlternatives rest
    rw [lowerAlternatives]
    split
    · rintro _ ⟨⟩
      exact List.forall_mem_singleton.2 (fit_cond (show ArrowFree "elif" by decide) hbody hrest)
    · rintro _ ⟨⟩
      exact fitAll_lowerAll _
termination_by sizeOf alternatives
decreasing_by
  · have : sizeOf (statements (next.child? "consequence")) < sizeOf next :=
      sizeOf_statements_lt fun _ h => SourceTree.sizeOf_lt_of_child? h
    simp only [List.cons.sizeOf_spec]
    omega
  · simp only [List.cons.sizeOf_spec]
    omega
  · have : sizeOf (statements (blockOf? next)) < sizeOf next :=
      sizeOf_statements_lt fun _ h => sizeOf_lt_of_blockOf? h
    simp only [List.cons.sizeOf_spec]
    omega

end

end Python

namespace Script

theorem arrowFree_alternativeKind (tree : Option SourceTree) : ArrowFree (alternativeKind tree) := by
  unfold alternativeKind
  split <;> rfl

mutual

theorem fit_lower {condKind : String} (hkind : ArrowFree condKind) (stmt : SourceTree) :
    Fit (lower condKind stmt) := by
  have hif : ArrowFree "if" := by decide
  have hblock := fitAll_lowerAll hif (statements (stmt.child? "body"))
  rw [lower]
  refine fit_ite ?_ ?_
  · refine fit_cond hkind (fitAll_lowerAll hif _) ?_
    split
    · rintro _ ⟨⟩
      exact fitAll_lowerAll (arrowFree_alternativeKind _) _
    · rintro _ ⟨⟩
  refine fit_ite ?_ ?_
  · exact fit_exit (show ArrowFree "return" by decide)
  refine fit_ite ?_ ?_
  · exact fit_exit (show ArrowFree "throw" by decide)
  refine fit_ite ?_ ?_
  · exact fit_loop (show ArrowFree "for" by decide) hblock
  refine fit_ite ?_ ?_
  · exact fit_loop (show ArrowFree "while" by decide) hblock
  refine fit_ite ?_ ?_
  · exact fit_loop (show ArrowFree "do" by decide) hblock
  refine fit_ite ?_ ?_
  · refine fit_guarded (show ArrowFree "try" by decide) hblock ?_ ?_
    · split
      · exact List.forall_mem_singleton.2 (fitAll_lowerAll hif _)
      · exact List.forall_mem_nil _
    · split
      · rintro _ ⟨⟩
        exact fitAll_lowerAll hif _
      · rintro _ ⟨⟩
  refine fit_ite ?_ ?_
  · exact fit_sequence (fitAll_lowerAll hif _)
  refine fit_ite ?_ ?_
  · split
    · exact fit_call (show ArrowFree "call" by decide)
    · exact fit_plain
  · exact fit_plain
termination_by sizeOf stmt
decreasing_by
  · exact sizeOf_statements_child?_lt stmt _
  · exact sizeOf_statements_child?_lt stmt _
  · exact sizeOf_statements_alternative?_lt ‹stmt.child? "alternative" = _›
  · exact sizeOf_statements_of_child?_lt ‹stmt.child? "handler" = _› _
  · exact sizeOf_statements_of_child?_lt ‹stmt.child? "finalizer" = _› _
  · exact Nat.lt_of_le_of_lt (SourceTree.sizeOf_filter_le _ _) stmt.sizeOf_children_lt

theorem fitAll_lowerAll {condKind : String} (hkind : ArrowFree condKind) (stmts : List SourceTree) :
    FitAll (lowerAll condKind stmts) := by
  match stmts with
  | [] =>
    rw [lowerAll]
    exact List.forall_mem_nil _
  | stmt :: rest =>
    rw [lowerAll]
    exact List.forall_mem_cons.2 ⟨fit_lower hkind stmt, fitAll_lowerAll hkind rest⟩
termination_by sizeOf stmts

end

/-- **What the body of a script's function is lowered to fits.** -/
theorem fitAll_lowerBody (body : SourceTree) : FitAll (lowerBody body) := by
  rw [lowerBody]
  split
  · exact fitAll_lowerAll (by decide) _
  · exact List.forall_mem_singleton.2 (fit_exit (show ArrowFree "return" by decide))

end Script

end StructuralDiff
