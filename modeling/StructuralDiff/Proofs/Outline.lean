import StructuralDiff.Proofs.Flow.Skeleton
import StructuralDiff.Proofs.Name
import StructuralDiff.Proofs.Source.Bare
import StructuralDiff.Outline

/-!
# Properties of outlines

* `Outline.regular`: only symbols are declared, and nothing inside an endpoint.
* `Outline.bare`: what an outline says apart from the places where it stands and from its documentation.
-/

namespace StructuralDiff

/-- A declaration without its place and its attributes. -/
def Declaration.bare (declaration : Declaration) : Declaration :=
  { declaration with
    localName := Name.gist declaration.localName, lines := (0, 0), metadata := .empty }

theorem Declaration.eq_of_bare_eq {a b : Declaration} (h : a.bare = b.bare) :
    a.kind = b.kind ∧ a.name = b.name ∧ Name.gist a.localName = Name.gist b.localName ∧
      a.signature = b.signature ∧ a.rendersForOwner = b.rendersForOwner := by
  simpa [Declaration.bare] using h

section Bare

variable {number : Nat × Nat → Nat} (hnumber : number.Injective) {tree : SourceTree}
  (h : tree.tidy = true)

include hnumber h

theorem Site.bare_ofTree_bare (kind : String) :
    (Site.ofTree kind (tree.bare number)).bare = (Site.ofTree kind tree).bare := by
  simp only [Site.ofTree, Site.bare, SourceTree.headerSignature_bare hnumber h]

theorem Declaration.bare_ofTree_bare (kind : NodeKind) (name : String) (metadata metadata' : Metadata) :
    (Declaration.ofTree kind name (tree.bare number) metadata).bare =
      (Declaration.ofTree kind name tree metadata').bare := by
  simp only [Declaration.ofTree, Declaration.bare, SourceTree.symbolSignature_bare hnumber h]

end Bare

namespace Outline

mutual

/-- Every declaration is of a symbol, and nothing is declared inside an endpoint. -/
def regular : Outline → Bool
  | .declares declaration body =>
    declaration.kind.isSymbol && (declaration.kind != .endpoint || body.isEmpty) && regularAll body
  | .imports _ => true
  | .refers _ _ => true
  | .flows _ => true

/-- All outlines of a list are regular. -/
def regularAll : List Outline → Bool
  | [] => true
  | outline :: rest => regular outline && regularAll rest

end

theorem regularAll_iff {outlines : List Outline} :
    regularAll outlines = true ↔ ∀ outline ∈ outlines, outline.regular = true := by
  induction outlines with
  | nil => simp [regularAll]
  | cons outline rest ih => rw [regularAll, Bool.and_eq_true, ih, List.forall_mem_cons]

theorem regularAll_append {a b : List Outline} :
    regularAll (a ++ b) = true ↔ regularAll a = true ∧ regularAll b = true := by
  simp only [regularAll_iff, List.forall_mem_append]

/-- A declaration of a symbol that is no endpoint. -/
theorem regular_declares {declaration : Declaration} {body : List Outline}
    (hsymbol : declaration.kind.isSymbol = true) (hkind : declaration.kind ≠ .endpoint)
    (hbody : regularAll body = true) : (Outline.declares declaration body).regular = true := by
  simp [regular, hsymbol, hkind, hbody]

/-! ### Outlines without places -/

mutual

/-- An outline without places and attributes. -/
def bare : Outline → Outline
  | .imports module => .imports module
  | .refers reference name => .refers reference name
  | .flows body => .flows (FlowStmt.bareAll body)
  | .declares declaration body => .declares declaration.bare (bareAll body)

/-- The outlines of a list, each of them without places and attributes. -/
def bareAll : List Outline → List Outline
  | [] => []
  | outline :: rest => bare outline :: bareAll rest

end

/-- What an outline is, by what it is without places. -/
theorem eq_of_bare_imports {outline : Outline} {module : String}
    (h : Outline.bare (.imports module) = outline.bare) : outline = .imports module := by
  cases outline <;> simp_all [bare]

theorem eq_of_bare_refers {outline : Outline} {reference : Reference} {name : String}
    (h : Outline.bare (.refers reference name) = outline.bare) : outline = .refers reference name := by
  cases outline <;> simp_all [bare]

theorem exists_of_bare_flows {outline : Outline} {body : List FlowStmt}
    (h : Outline.bare (.flows body) = outline.bare) :
    ∃ body', outline = .flows body' ∧ FlowStmt.bareAll body = FlowStmt.bareAll body' := by
  cases outline <;> simp_all [bare]

theorem exists_of_bare_declares {outline : Outline} {declaration : Declaration} {body : List Outline}
    (h : Outline.bare (.declares declaration body) = outline.bare) :
    ∃ declaration' body', outline = .declares declaration' body' ∧
      declaration.bare = declaration'.bare ∧ bareAll body = bareAll body' := by
  cases outline <;> simp_all [bare]

theorem bareAll_eq_map (outlines : List Outline) : bareAll outlines = outlines.map bare := by
  induction outlines with
  | nil => rfl
  | cons outline rest ih => rw [bareAll, List.map_cons, ih]

theorem bareAll_append (a b : List Outline) : bareAll (a ++ b) = bareAll a ++ bareAll b := by
  simp only [bareAll_eq_map, List.map_append]

end Outline

end StructuralDiff
