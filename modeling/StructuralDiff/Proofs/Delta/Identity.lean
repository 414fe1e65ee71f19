import StructuralDiff.Proofs.Delta.Emptiness

/-!
# Identity without lines

Callbacks and repeated symbols have the line they stand on in their names, and a callback in a callback has the
suffixes of both. Lines change with every edit above a symbol, so no key and no endpoint may depend on them.

* `Node.key_eq_of_marks`, `Node.endpoint_eq_of_marks`: the identity of a symbol depends on the marks of its name.
* `Node.identity_ignores_lines`: names that differ in their lines only have one identity.
-/

namespace StructuralDiff.Node

variable {a b : Node}

theorem key_eq_of_marks (hkind : a.kind = b.kind) (hsymbol : a.kind ≠ .branch)
    (hmarks : Name.marks a.qualifiedName = Name.marks b.qualifiedName) : a.key = b.key := by
  have hbranch : ¬(a.kind == .branch) = true := fun h => hsymbol (beq_iff_eq.1 h)
  rw [key, key, ← hkind, if_neg hbranch, if_neg hbranch, Name.withoutPositions_eq_of_marks hmarks]

theorem endpoint_eq_of_marks (hkind : a.kind = b.kind) (hpath : a.filePath = b.filePath)
    (hmarks : Name.marks a.qualifiedName = Name.marks b.qualifiedName) : a.endpoint = b.endpoint := by
  rw [endpoint, endpoint, hkind, hpath, Name.withoutPositions_eq_of_marks hmarks]

/-- **The identity of a node goes by no line.** Names with the same marks are the same without their suffixes; a
suffix at the end of a name is left out whatever stands before it; and a symbol, or a branch of one, keeps its key
and its endpoint when the lines in its name change, however many suffixes there are and whatever stands between
them. -/
theorem identity_ignores_lines :
    (∀ name name' : String, Name.marks name = Name.marks name' →
      Name.withoutPositions name = Name.withoutPositions name' ∧
        Name.withoutInstance name = Name.withoutInstance name') ∧
    (∀ name digits : String, digits ≠ "" → (∀ c ∈ digits.toList, Text.isDigit c = true) →
      Name.withoutPositions (name ++ "@L" ++ digits) = Name.withoutPositions name) ∧
    (∀ (a b : Node) (parts parts' : List (String × Nat)) (last : String), a.kind = b.kind → a.kind ≠ .branch →
      a.filePath = b.filePath → parts.map (·.1) = parts'.map (·.1) →
      a.qualifiedName = Name.suffixed last parts → b.qualifiedName = Name.suffixed last parts' →
      a.key = b.key ∧ a.endpoint = b.endpoint) ∧
    (∀ a b : Node, a.Moved b → a.key = b.key ∧ a.endpoint = b.endpoint) := by
  refine ⟨fun name name' h => ?_, fun name digits hne hdigits => ?_, ?_, fun a b h => ?_⟩
  · exact ⟨Name.withoutPositions_eq_of_marks h, Name.withoutInstance_eq_of_marks h⟩
  · exact Name.withoutPositions_append_digits hne hdigits name
  · intro a b parts parts' last hkind hsymbol hpath htexts ha hb
    have hmarks : Name.marks a.qualifiedName = Name.marks b.qualifiedName := by
      rw [ha, hb, Name.marks_suffixed htexts]
    exact ⟨key_eq_of_marks hkind hsymbol hmarks, endpoint_eq_of_marks hkind hpath hmarks⟩
  · exact ⟨h.key_eq, h.endpoint_eq⟩

/-- The parts of the name of a callback in a callback, the outer one of which has its suffix twice. -/
def sampleParts (line : Nat) : List (String × Nat) :=
  [("m.App.map$callback", line), ("", line), (".then$callback", line + 1)]

/-- The inner callback. -/
def sampleCallback (line : Nat) : Node :=
  Delta.sampleNode "c" .function (Name.suffixed "" (sampleParts line)) line "C"

/-- A branch in the inner callback. -/
def sampleCallbackBranch (line : Nat) : Node :=
  { Delta.sampleNode "b" .branch (Name.suffixed "::if#0" (sampleParts line)) line "B" with name := "if" }

theorem sampleCallbackBranch_moved : (sampleCallbackBranch 12).Moved (sampleCallbackBranch 31) := by
  have htexts : (sampleParts 12).map (·.1) = (sampleParts 31).map (·.1) := rfl
  exact ⟨rfl, rfl, Name.marks_suffixed htexts "::if#0", rfl, rfl, rfl, rfl, rfl⟩

theorem identity_ignores_lines_sample :
    (sampleCallback 12).qualifiedName = "m.App.map$callback@L12@L12.then$callback@L13" ∧
      (sampleCallback 12).key = (sampleCallback 31).key ∧
      (sampleCallbackBranch 12).key = (sampleCallbackBranch 31).key ∧
      Name.withoutInstance (sampleCallbackBranch 12).qualifiedName =
        Name.withoutInstance (sampleCallbackBranch 31).qualifiedName ∧
      Name.withoutPositions ("x@L5" ++ "@L" ++ Nat.repr 5) = Name.withoutPositions "x@L5" := by
  obtain ⟨hnames, happend, hsymbols, hmoved⟩ := identity_ignores_lines
  refine ⟨by decide, ?_, ?_, ?_, ?_⟩
  · exact (hsymbols (sampleCallback 12) (sampleCallback 31) (sampleParts 12) (sampleParts 31) "" rfl (by decide) rfl
      rfl rfl rfl).1
  · exact (hmoved _ _ sampleCallbackBranch_moved).1
  · exact (hnames _ _ sampleCallbackBranch_moved.qualifiedName).2
  · exact happend "x@L5" (Nat.repr 5) (Name.repr_ne_empty 5) fun _ => Text.isDigit_of_mem_numeral

end StructuralDiff.Node
