import StructuralDiff.Proofs.Extract.Exit
import StructuralDiff.Proofs.Extract.Regular

/-!
# Functions among outlines

Every function, method and callback of an outline stands in the tree that the outline is of, and its control flow
is that of its body, given once.

* `Outline.Declares`: what outlines declare, at any depth.
* `Outline.Quiet`, `Outline.keeps_quiet`: only the body of a function has control flow.
* `Language.functions_outlines`: every function that is declared comes from a node of the tree.
* `Python.flows_of_isFunction`, `Script.flows_of_isFunction`: its control flow.
-/

open scoped List

namespace StructuralDiff

namespace Outline

/-- The control flow that an outline gives the symbol around it. -/
def flow? : Outline → Option (List FlowStmt)
  | .flows body => some body
  | .imports _ | .refers _ _ | .declares _ _ => none

/-- A declaration, with what stands inside it, among outlines at any depth. -/
inductive Declares (declaration : Declaration) (inner : List Outline) : List Outline → Prop
  | here {outlines : List Outline} (h : .declares declaration inner ∈ outlines) :
      Declares declaration inner outlines
  | inside {outlines : List Outline} {outer : Declaration} {body : List Outline}
      (h : .declares outer body ∈ outlines) (hbody : Declares declaration inner body) :
      Declares declaration inner outlines

variable {P : Outline → Prop}

/-- The functions that outlines declare at any depth have a property. -/
def AllFunctions (P : Outline → Prop) (outlines : List Outline) : Prop :=
  ∀ declaration inner, Declares declaration inner outlines → declaration.kind.isCallable = true →
    P (.declares declaration inner)

theorem allFunctions_append {a b : List Outline} (ha : AllFunctions P a) (hb : AllFunctions P b) :
    AllFunctions P (a ++ b) := by
  rintro declaration inner (h | ⟨h, hbody⟩) hcallable
  · exact (List.mem_append.1 h).elim (fun h => ha _ _ (.here h) hcallable) fun h => hb _ _ (.here h) hcallable
  · exact (List.mem_append.1 h).elim (fun h => ha _ _ (.inside h hbody) hcallable)
      fun h => hb _ _ (.inside h hbody) hcallable

theorem allFunctions_declares {declaration : Declaration} {inner : List Outline}
    (hhere : declaration.kind.isCallable = true → P (.declares declaration inner))
    (hinside : AllFunctions P inner) : AllFunctions P [.declares declaration inner] := by
  rintro other body (h | ⟨h, hbody⟩) hcallable
  · cases List.mem_singleton.1 h
    exact hhere hcallable
  · cases List.mem_singleton.1 h
    exact hinside other body hbody hcallable

theorem allFunctions_of_undeclared {outlines : List Outline}
    (h : ∀ declaration inner, .declares declaration inner ∉ outlines) : AllFunctions P outlines := by
  rintro declaration inner (hmem | ⟨hmem, -⟩) -
  · exact absurd hmem (h _ _)
  · exact absurd hmem (h _ _)

/-- Outlines that leave the control flow to what they declare, and whose functions have a property. -/
structure Quiet (P : Outline → Prop) (outlines : List Outline) : Prop where
  flows : outlines.filterMap flow? = []
  functions : AllFunctions P outlines

theorem Quiet.declares {declaration : Declaration} {inner : List Outline}
    (hhere : declaration.kind.isCallable = true → P (.declares declaration inner))
    (hinside : AllFunctions P inner) : Quiet P [.declares declaration inner] :=
  ⟨rfl, allFunctions_declares hhere hinside⟩

theorem Quiet.of_isPlain {outlines : List Outline} (h : ∀ outline ∈ outlines, outline.isPlain = true) :
    Quiet P outlines := by
  refine ⟨List.filterMap_eq_nil_iff.2 fun outline houtline => ?_, allFunctions_of_undeclared fun _ _ hmem => ?_⟩
  · have := h outline houtline
    cases outline <;> simp_all [isPlain, flow?]
  · exact absurd (h _ hmem) Bool.false_ne_true

/-- **Outlines are quiet, and only the body of a function has control flow.** -/
theorem keeps_quiet (P : Outline → Prop) : Keeps P (Quiet P) (AllFunctions P) where
  append ha hb := ⟨by rw [List.filterMap_append, ha.flows, hb.flows]; rfl,
    allFunctions_append ha.functions hb.functions⟩
  plain h := .of_isPlain h
  endpoint hkind := by
    refine .declares (fun hcallable => ?_) (Quiet.of_isPlain (List.forall_mem_nil _)).functions
    rw [hkind] at hcallable
    cases hcallable
  container _ hcallable _ hinner := .declares (fun h => absurd (hcallable.symm.trans h) Bool.false_ne_true)
    hinner.functions
  function _ hstands hinner := .declares (fun _ => hstands) hinner
  within h := h.functions
  body _ ha hb := allFunctions_append (allFunctions_append ha.functions
    (allFunctions_of_undeclared fun _ _ hmem => nomatch List.mem_singleton.1 hmem)) hb.functions

end Outline

open Outline

namespace Python

/-- The control flow of a function is that of its body. -/
theorem flows_of_isFunction {outer function : SourceTree} {declaration : Declaration} {inner : List Outline}
    (h : IsFunction outer function (.declares declaration inner)) :
    inner.filterMap flow? = (function.child? "body").toList.map fun body => lowerAll (statements (some body)) := by
  obtain ⟨hkind, -, inClass, decorators, h⟩ := h
  cases hname : function.child? "name" with
  | none =>
    rw [definition, hname] at h
    cases h
  | some name =>
    rw [definition_of_function inClass outer decorators hkind hname] at h
    injection h with h
    injection h with _ hinner
    have hendpoints := (holds_endpoints (keeps_quiet (StandsIn IsFunction function)) decorators).flows
    rw [← hinner, List.filterMap_append, hendpoints, List.nil_append]
    cases hpart : function.child? "body" with
    | none => rfl
    | some body =>
      have hcalls : Quiet (StandsIn IsFunction body) ((calls body).map (.refers .call)) :=
        .of_isPlain (isPlain_of_mem_map fun _ => rfl)
      have hmembers : body.namedChildren ⊆ body.nodes := fun child hchild =>
        SourceTree.children_subset_nodes body.self_mem_nodes (List.mem_filter.1 hchild).1
      have hbody := holds_outlines (keeps_quiet (StandsIn IsFunction body)) false hmembers
      dsimp only
      rw [List.filterMap_append, List.filterMap_append, hcalls.flows, hbody.flows]
      rfl

end Python

namespace Script

/-- The control flow of a function is that of its body. -/
theorem flows_functionBody (function : SourceTree) :
    (functionBody function).filterMap flow? = (function.child? "body").toList.map lowerBody := by
  rw [functionBody]
  split
  · next hnone =>
    rw [hnone]
    rfl
  · next body hbody =>
    have hchildren := SourceTree.children_subset_nodes body.self_mem_nodes
    have hquiet := keeps_quiet (StandsIn IsFunction body)
    have hscan := holds_scanAll hquiet ⟨body, none⟩ none hchildren
    have hinner := holds_outlines hquiet false none none hchildren
    rw [hbody, List.filterMap_append, List.filterMap_append, List.filterMap_append,
      (hquiet.plain isPlain_of_mem_references).flows, hscan.flows]
    split
    · rw [hinner.flows]
      rfl
    · rfl

theorem flows_of_isFunction {outer function : SourceTree} {declaration : Declaration} {inner : List Outline}
    (h : IsFunction outer function (.declares declaration inner)) :
    inner.filterMap flow? = (function.child? "body").toList.map lowerBody := by
  generalize houtline : Outline.declares declaration inner = outline at h
  cases h with
  | named inClass comment name _ =>
    rw [Script.function] at houtline
    injection houtline with _ hinner
    rw [hinner, flows_functionBody]
  | callback callee comment =>
    injection houtline with _ hinner
    rw [hinner, flows_functionBody]

end Script

namespace Language

/-- Where functions of a language are left. -/
def exitRules : Language → ExitRules
  | .python => Python.exitRules
  | .typeScript | .tsx | .javaScript | .unknown => Script.exitRules

/-- A node has the children that the grammar of a language gives it, as far as its statements are concerned. -/
def conforms : Language → SourceTree → Bool
  | .python => Python.conforms
  | .typeScript | .tsx | .javaScript | .unknown => Script.conforms

/-- **Every function that a file declares, at any depth, is one of its tree.** -/
theorem functions_outlines (language : Language) (root : SourceTree) :
    AllFunctions (StandsIn language.IsFunction root) (language.outlines root) :=
  (holds_outlines (keeps_quiet _)).functions

theorem perm_sitesOf_of_flows {rules : ExitRules} {function : SourceTree} {inner : List Outline}
    {lowered : SourceTree → List FlowStmt}
    (hflows : inner.filterMap flow? = (function.child? "body").toList.map lowered)
    (hbody : ∀ body, function.child? "body" = some body →
      (FlowStmt.blockSites (lowered body)).filter Site.isExit ~ rules.sitesOf function) :
    (inner.filterMap flow?).length ≤ 1 ∧
      ((inner.filterMap flow?).flatMap FlowStmt.blockSites).filter Site.isExit ~ rules.sitesOf function := by
  rw [hflows]
  cases hpart : function.child? "body" with
  | none =>
    rw [ExitRules.sitesOf, hpart]
    exact ⟨Nat.zero_le 1, .refl _⟩
  | some body =>
    rw [Option.toList_some, List.map_singleton, List.flatMap_singleton]
    exact ⟨Nat.le_refl 1, hbody body hpart⟩

/-- **A function has one control flow, which is left where its exits are found.** -/
theorem perm_sitesOf {language : Language} {outer function : SourceTree} {declaration : Declaration}
    {inner : List Outline} (h : language.IsFunction outer function (.declares declaration inner))
    (hconforms : function.everywhere language.conforms = true) :
    (inner.filterMap flow?).length ≤ 1 ∧
      ((inner.filterMap flow?).flatMap FlowStmt.blockSites).filter Site.isExit ~
        language.exitRules.sitesOf function := by
  have hscript (h : Script.IsFunction outer function (.declares declaration inner))
      (hconforms : function.everywhere Script.conforms = true) :=
    perm_sitesOf_of_flows (Script.flows_of_isFunction h) fun body => Script.perm_sitesOf hconforms
  cases language with
  | python =>
    exact perm_sitesOf_of_flows (Python.flows_of_isFunction h) fun body => Python.perm_sitesOf hconforms h.1
  | typeScript => exact hscript h hconforms
  | tsx => exact hscript h hconforms
  | javaScript => exact hscript h hconforms
  | unknown => exact h.elim

end Language

end StructuralDiff
