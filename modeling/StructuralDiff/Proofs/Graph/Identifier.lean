import Mathlib.Data.List.Basic
import StructuralDiff.Graph.Basic
import StructuralDiff.Text.Line

/-!
# Ids of nodes and edges

An id is made of texts with separators between them, and names may hold the separators. What an id still
says for sure:

* `Node.makeId_inj`: in one file of one snapshot, an id says the kind and the name of a node.
* `Node.makeId_ne_of_apart`: ids of two files differ, unless one path goes on after the other with a colon.
* `Node.makeId_ne_of_ne`: ids of two snapshots differ, when the ids of the snapshots have no colon.
* `Edge.makeId_inj`: in one file, the id of an edge says its kind, its endpoints and its flow type, as long
  as no source name goes on after another one with an arrow.
-/

namespace StructuralDiff

/-! ### Texts with a separator -/

/-- The text has no colon. -/
def ColonFree (text : String) : Prop :=
  ':' ∉ text.toList

instance (text : String) : Decidable (ColonFree text) :=
  inferInstanceAs (Decidable (':' ∉ text.toList))

/-- A list is cut at the first place of a separator in one way. -/
theorem append_separator_inj {α : Type} {c : α} : ∀ {x x' y y' : List α}, c ∉ x → c ∉ x' →
    x ++ c :: y = x' ++ c :: y' → x = x' ∧ y = y'
  | [], [], _, _, _, _, h => by simpa using h
  | [], d :: x', _, _, _, hx', h => by
    rw [List.nil_append, List.cons_append, List.cons.injEq] at h
    exact absurd (h.1 ▸ List.mem_cons_self) hx'
  | d :: x, [], _, _, hx, _, h => by
    rw [List.nil_append, List.cons_append, List.cons.injEq] at h
    exact absurd (h.1 ▸ List.mem_cons_self) hx
  | d :: x, d' :: x', _, _, hx, hx', h => by
    simp only [List.cons_append, List.cons.injEq] at h
    obtain ⟨rfl, rfl⟩ := append_separator_inj (List.not_mem_of_not_mem_cons hx)
      (List.not_mem_of_not_mem_cons hx') h.2
    exact ⟨by rw [h.1], rfl⟩

theorem NodeKind.colonFree_name (kind : NodeKind) : ColonFree kind.name := by
  cases kind <;> decide

theorem EdgeKind.colonFree_name (kind : EdgeKind) : ColonFree kind.name := by
  cases kind <;> decide

theorem FlowType.colonFree_name (flow : FlowType) : ColonFree flow.name := by
  cases flow <;> decide

/-- Names that are read back are different. -/
theorem eq_of_name_eq {α : Type} {name : α → String} {ofName? : String → Option α}
    (hread : ∀ a, ofName? (name a) = some a) {a b : α} (h : name a = name b) : a = b := by
  have hname := hread a
  rw [h, hread b] at hname
  exact (Option.some.inj hname).symm

theorem NodeKind.name_inj {a b : NodeKind} (h : a.name = b.name) : a = b :=
  eq_of_name_eq ofName?_name h

theorem EdgeKind.name_inj {a b : EdgeKind} (h : a.name = b.name) : a = b :=
  eq_of_name_eq ofName?_name h

theorem FlowType.name_inj {a b : FlowType} (h : a.name = b.name) : a = b :=
  eq_of_name_eq ofName?_name h

/-! ### Ids of nodes -/

namespace Path

/-- The path `q` goes on after `p` with a colon. -/
def continues (p q : String) : Bool :=
  Text.beginsWith (p ++ ":") q

/-- Two paths of which none is the other one or goes on after it with a colon. -/
def Apart (p q : String) : Prop :=
  p ≠ q ∧ continues p q = false ∧ continues q p = false

theorem continues_of_append {p q : String} {x y c : List Char}
    (h : p.toList ++ ':' :: x = q.toList ++ ':' :: y) (hq : q.toList = p.toList ++ c) :
    p = q ∨ continues p q = true := by
  cases c with
  | nil => exact .inl (String.toList_inj.mp (by rw [hq, List.append_nil]))
  | cons d c =>
    right
    rw [hq, List.append_assoc, List.append_cancel_left_eq, List.cons_append, List.cons.injEq] at h
    rw [continues, Text.beginsWith, List.isPrefixOf_iff_prefix, hq, ← h.1]
    exact ⟨c, by simp⟩

/-- No text begins with each of two paths that are apart and a colon. -/
theorem Apart.append_ne {p q : String} (h : Apart p q) (x y : List Char) :
    p.toList ++ ':' :: x ≠ q.toList ++ ':' :: y := by
  intro heq
  rcases List.append_eq_append_iff.1 heq with ⟨c, hq, -⟩ | ⟨c, hp, -⟩
  · rcases continues_of_append heq hq with rfl | hcontinues
    · exact h.1 rfl
    · simp [h.2.1] at hcontinues
  · rcases continues_of_append heq.symm hp with rfl | hcontinues
    · exact h.1 rfl
    · simp [h.2.2] at hcontinues

/-- Different paths without colons are apart. -/
theorem apart_of_colonFree {p q : String} (hp : ColonFree p) (hq : ColonFree q) (hne : p ≠ q) :
    Apart p q := by
  have hnot {a b : String} (hb : ColonFree b) : continues a b = false := by
    rw [Bool.eq_false_iff]
    intro h
    rw [continues, Text.beginsWith, List.isPrefixOf_iff_prefix] at h
    exact hb (h.subset (by simp))
  exact ⟨hne, hnot hq, hnot hp⟩

end Path

namespace Node

theorem makeId_toList (snapshotId : String) (kind : NodeKind) (path name : String) :
    (makeId snapshotId kind path name).toList =
      snapshotId.toList ++ ':' :: (kind.name.toList ++ ':' :: (path.toList ++ ':' :: name.toList)) := by
  simp [makeId]

/-- **In one file of one snapshot, an id says the kind and the name of a node.** -/
theorem makeId_inj {snapshotId path name name' : String} {kind kind' : NodeKind} :
    makeId snapshotId kind path name = makeId snapshotId kind' path name' ↔
      kind = kind' ∧ name = name' := by
  constructor
  · intro h
    have hchars := congrArg String.toList h
    rw [makeId_toList, makeId_toList, List.append_cancel_left_eq, List.cons.injEq] at hchars
    obtain ⟨hkind, hrest⟩ :=
      append_separator_inj kind.colonFree_name kind'.colonFree_name hchars.2
    rw [List.append_cancel_left_eq, List.cons.injEq] at hrest
    exact ⟨NodeKind.name_inj (String.toList_inj.mp hkind), String.toList_inj.mp hrest.2⟩
  · rintro ⟨rfl, rfl⟩
    rfl

/-- **Ids of two files whose paths are apart differ.** -/
theorem makeId_ne_of_apart {path path' : String} (h : Path.Apart path path')
    (snapshotId name name' : String) (kind kind' : NodeKind) :
    makeId snapshotId kind path name ≠ makeId snapshotId kind' path' name' := by
  intro heq
  have hchars := congrArg String.toList heq
  rw [makeId_toList, makeId_toList, List.append_cancel_left_eq, List.cons.injEq] at hchars
  obtain ⟨-, hrest⟩ := append_separator_inj kind.colonFree_name kind'.colonFree_name hchars.2
  exact h.append_ne _ _ hrest

/-- **Ids of two snapshots differ.** -/
theorem makeId_ne_of_ne {snapshotId snapshotId' : String} (hs : ColonFree snapshotId)
    (hs' : ColonFree snapshotId') (hne : snapshotId ≠ snapshotId') (kind kind' : NodeKind)
    (path path' name name' : String) :
    makeId snapshotId kind path name ≠ makeId snapshotId' kind' path' name' := by
  intro heq
  have hchars := congrArg String.toList heq
  rw [makeId_toList, makeId_toList] at hchars
  exact hne (String.toList_inj.mp (append_separator_inj hs hs' hchars).1)

end Node

/-! ### Ids of edges -/

namespace Edge

/-- What follows the target in the id of an edge. -/
def flowSuffix : Option FlowType → List Char
  | some flow => ':' :: flow.name.toList
  | none => []

theorem makeId_toList (kind : EdgeKind) (source target : String) (flow : Option FlowType) :
    (makeId kind source target flow).toList =
      kind.name.toList ++ ':' :: (source.toList ++ '-' :: '>' :: (target.toList ++ flowSuffix flow)) := by
  cases flow <;> simp [makeId, flowSuffix]

/-- The arrow after the shorter one of two different texts lies inside the longer one. -/
theorem arrow_prefix {x x' y y' : List Char} (h : x ++ '-' :: '>' :: y = x' ++ '-' :: '>' :: y') :
    x = x' ∨ x ++ ['-', '>'] <+: x' ∨ x' ++ ['-', '>'] <+: x := by
  have hinside {u u' v v' c : List Char} (h : u ++ '-' :: '>' :: v = u' ++ '-' :: '>' :: v')
      (hu : u' = u ++ c) : u = u' ∨ u ++ ['-', '>'] <+: u' := by
    subst hu
    rw [List.append_assoc, List.append_cancel_left_eq] at h
    match c, h with
    | [], _ => exact .inl (by simp)
    | [d], h => simp at h
    | d :: e :: c, h =>
      simp only [List.cons_append, List.cons.injEq] at h
      obtain ⟨rfl, rfl, -⟩ := h
      exact .inr ⟨c, by simp⟩
  rcases List.append_eq_append_iff.1 h with ⟨c, hx', -⟩ | ⟨c, hx, -⟩
  · rcases hinside h hx' with heq | hprefix
    · exact .inl heq
    · exact .inr (.inl hprefix)
  · rcases hinside h.symm hx with heq | hprefix
    · exact .inl heq.symm
    · exact .inr (.inr hprefix)

theorem flowSuffix_inj {x x' : List Char} {flow flow' : FlowType}
    (h : x ++ flowSuffix (some flow) = x' ++ flowSuffix (some flow')) : x = x' ∧ flow = flow' := by
  have hreverse := congrArg List.reverse h
  simp only [flowSuffix, List.reverse_append, List.reverse_cons, List.append_assoc,
    List.singleton_append] at hreverse
  have hfree (flow : FlowType) : ':' ∉ flow.name.toList.reverse := by
    rw [List.mem_reverse]
    exact flow.colonFree_name
  obtain ⟨hflow, hx⟩ := append_separator_inj (hfree flow) (hfree flow') hreverse
  exact ⟨List.reverse_injective hx,
    FlowType.name_inj (String.toList_inj.mp (List.reverse_injective hflow))⟩

/-- The name `b` goes on after `a` with an arrow. -/
def arrowContinues (a b : String) : Bool :=
  Text.beginsWith (a ++ "->") b

/-- Flow types stand on the calls of branches and nowhere else. -/
def FlowFits (kind : EdgeKind) (target : NodeKind) (flow : Option FlowType) : Prop :=
  flow.isSome = true ↔ kind = .calls ∧ target = .branch

section Inj

variable {snapshotId path source source' target target' : String} {kind kind' : EdgeKind}
  {sourceKind sourceKind' targetKind targetKind' : NodeKind} {flow flow' : Option FlowType}

/-- The beginnings of two equal ids of edges: their kinds, and what they say about the source. -/
theorem source_of_makeId_eq {x y : String}
    (h : makeId kind x target flow = makeId kind' y target' flow') : kind = kind' ∧
      x.toList ++ '-' :: '>' :: (target.toList ++ flowSuffix flow) =
        y.toList ++ '-' :: '>' :: (target'.toList ++ flowSuffix flow') := by
  have hchars := congrArg String.toList h
  rw [makeId_toList, makeId_toList] at hchars
  obtain ⟨hkind, hrest⟩ := append_separator_inj kind.colonFree_name kind'.colonFree_name hchars
  exact ⟨EdgeKind.name_inj (String.toList_inj.mp hkind), hrest⟩

theorem target_of_eq (hflow : FlowFits kind targetKind flow) (hflow' : FlowFits kind targetKind' flow')
    (h : (Node.makeId snapshotId targetKind path target).toList ++ flowSuffix flow =
      (Node.makeId snapshotId targetKind' path target').toList ++ flowSuffix flow') :
    targetKind = targetKind' ∧ target = target' ∧ flow = flow' := by
  have hkind : targetKind = targetKind' := by
    rw [Node.makeId_toList, Node.makeId_toList] at h
    simp only [List.append_assoc, List.append_cancel_left_eq, List.cons_append,
      List.cons.injEq, true_and] at h
    have hname := (append_separator_inj targetKind.colonFree_name targetKind'.colonFree_name h).1
    exact NodeKind.name_inj (String.toList_inj.mp hname)
  subst hkind
  have hsome : flow.isSome = flow'.isSome := Bool.eq_iff_iff.2 (hflow.trans hflow'.symm)
  match flow, flow', hsome with
  | none, none, _ =>
    rw [flowSuffix, List.append_nil, List.append_nil] at h
    exact ⟨rfl, (Node.makeId_inj.1 (String.toList_inj.mp h)).2, rfl⟩
  | some flow, some flow', _ =>
    obtain ⟨hid, rfl⟩ := flowSuffix_inj h
    exact ⟨rfl, (Node.makeId_inj.1 (String.toList_inj.mp hid)).2, rfl⟩

/-- **In one file, the id of an edge says its kind, its endpoints and its flow type**, as long as no source
name goes on after another one of its kind with an arrow. -/
theorem makeId_inj (hflow : FlowFits kind targetKind flow) (hflow' : FlowFits kind' targetKind' flow')
    (harrow : sourceKind = sourceKind' →
      arrowContinues source source' = false ∧ arrowContinues source' source = false)
    (h : makeId kind (Node.makeId snapshotId sourceKind path source)
        (Node.makeId snapshotId targetKind path target) flow =
      makeId kind' (Node.makeId snapshotId sourceKind' path source')
        (Node.makeId snapshotId targetKind' path target') flow') :
    kind = kind' ∧ (sourceKind = sourceKind' ∧ source = source') ∧
      (targetKind = targetKind' ∧ target = target') ∧ flow = flow' := by
  obtain ⟨rfl, hrest⟩ := source_of_makeId_eq h
  rw [Node.makeId_toList snapshotId sourceKind, Node.makeId_toList snapshotId sourceKind'] at hrest
  simp only [List.append_assoc, List.append_cancel_left_eq, List.cons_append, List.cons.injEq,
    true_and] at hrest
  -- a kind has no colon, so it ends at the first one; the name after it goes on to an arrow
  obtain ⟨hsourceKind, hname⟩ :=
    append_separator_inj sourceKind.colonFree_name sourceKind'.colonFree_name hrest
  obtain rfl := NodeKind.name_inj (String.toList_inj.mp hsourceKind)
  rw [List.append_cancel_left_eq, List.cons.injEq] at hname
  have hsource : source = source' := by
    have hnot {a b : String} (hab : arrowContinues a b = false) : ¬a.toList ++ ['-', '>'] <+: b.toList := by
      intro hprefix
      rw [arrowContinues, Text.beginsWith, Bool.eq_false_iff] at hab
      exact hab (List.isPrefixOf_iff_prefix.2 (by simpa using hprefix))
    rcases arrow_prefix hname.2 with heq | hprefix | hprefix
    · exact String.toList_inj.mp heq
    · exact absurd hprefix (hnot (harrow rfl).1)
    · exact absurd hprefix (hnot (harrow rfl).2)
  subst hsource
  rw [List.append_cancel_left_eq, List.cons.injEq, List.cons.injEq] at hname
  obtain ⟨rfl, rfl, rfl⟩ := target_of_eq hflow hflow' hname.2.2.2
  exact ⟨rfl, ⟨rfl, rfl⟩, ⟨rfl, rfl⟩, rfl⟩

/-- Ids of edges of two files whose paths are apart differ. -/
theorem makeId_ne_of_apart {path' : String} (hpaths : Path.Apart path path') :
    makeId kind (Node.makeId snapshotId sourceKind path source) target flow ≠
      makeId kind' (Node.makeId snapshotId sourceKind' path' source') target' flow' := by
  intro h
  obtain ⟨-, hrest⟩ := source_of_makeId_eq h
  rw [Node.makeId_toList, Node.makeId_toList] at hrest
  simp only [List.append_assoc, List.append_cancel_left_eq, List.cons_append, List.cons.injEq,
    true_and] at hrest
  obtain ⟨-, hrest⟩ := append_separator_inj sourceKind.colonFree_name sourceKind'.colonFree_name hrest
  exact hpaths.append_ne _ _ hrest

/-- Ids of edges of two snapshots differ. -/
theorem makeId_ne_of_ne {snapshotId' path' : String} (hs : ColonFree snapshotId)
    (hs' : ColonFree snapshotId') (hne : snapshotId ≠ snapshotId') :
    makeId kind (Node.makeId snapshotId sourceKind path source) target flow ≠
      makeId kind' (Node.makeId snapshotId' sourceKind' path' source') target' flow' := by
  intro h
  obtain ⟨-, hrest⟩ := source_of_makeId_eq h
  rw [Node.makeId_toList, Node.makeId_toList, List.append_assoc, List.append_assoc] at hrest
  exact hne (String.toList_inj.mp (append_separator_inj hs hs' hrest).1)

end Inj

end Edge

end StructuralDiff
