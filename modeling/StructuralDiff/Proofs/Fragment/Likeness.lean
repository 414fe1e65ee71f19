import Mathlib.Data.List.Forall2
import Mathlib.Logic.Relator
import StructuralDiff.Proofs.Fragment.Sound
import StructuralDiff.Proofs.Table

/-!
# Fragments that are alike

Two fragments are recorded side by side, from outlines that differ only in the places where they stand. Each
step adds corresponding things on both sides: nodes with the same key and signature, and edges, parents and
references between corresponding nodes. A relation `P` says which ids correspond; it has to be one to one.

* `Simulates`: the two fragments correspond so far.
* `Matchable`: what has to hold of the finished fragments, that `P` joins their nodes and that no name goes
  on after another one with an arrow. Fragments only grow, so it holds of all earlier ones as well.
* `Simulates.addEdge`, `Simulates.addImport`, `Simulates.addSymbol`: the steps keep the correspondence.
-/

open Relator (BiUnique)

namespace StructuralDiff

/-! ### Lists that are related one by one -/

section Lists

variable {α β : Type} {R : α → β → Prop} {l : List α} {l' : List β}

theorem any_eq_of_forall₂ (h : List.Forall₂ R l l') {p : α → Bool} {q : β → Bool}
    (hpq : ∀ x ∈ l, ∀ y ∈ l', R x y → p x = q y) : l.any p = l'.any q := by
  induction h with
  | nil => rfl
  | cons hxy _ ih =>
    rw [List.any_cons, List.any_cons, hpq _ List.mem_cons_self _ List.mem_cons_self hxy,
      ih fun x hx y hy => hpq x (List.mem_cons_of_mem _ hx) y (List.mem_cons_of_mem _ hy)]

theorem forall₂_filter (h : List.Forall₂ R l l') {p : α → Bool} {q : β → Bool}
    (hpq : ∀ x y, R x y → p x = q y) : List.Forall₂ R (l.filter p) (l'.filter q) := by
  induction h with
  | nil => exact .nil
  | @cons x y _ _ hxy _ ih =>
    rw [List.filter_cons, List.filter_cons, hpq x y hxy]
    split
    · exact .cons hxy ih
    · exact ih

theorem rel_find? (h : List.Forall₂ R l l') {p : α → Bool} {q : β → Bool}
    (hpq : ∀ x y, R x y → p x = q y) : Option.Rel R (l.find? p) (l'.find? q) := by
  induction h with
  | nil => exact .none
  | @cons x y _ _ hxy _ ih =>
    rw [List.find?_cons, List.find?_cons, hpq x y hxy]
    split
    · exact .some hxy
    · exact ih

theorem rel_head? (h : List.Forall₂ R l l') : Option.Rel R l.head? l'.head? := by
  cases h with
  | nil => exact .none
  | cons hxy _ => exact .some hxy

theorem rel_or {o o₁ : Option α} {o' o₁' : Option β} (h : Option.Rel R o o')
    (h₁ : Option.Rel R o₁ o₁') : Option.Rel R (o.or o₁) (o'.or o₁') := by
  cases h with
  | none => exact h₁
  | some hxy => exact .some hxy

theorem forall₂_concat {x : α} {y : β} (h : List.Forall₂ R l l') (hxy : R x y) :
    List.Forall₂ R (l ++ [x]) (l' ++ [y]) :=
  List.rel_append h (.cons hxy .nil)

/-- What is paired with each other at the beginning is paired with each other in the whole lists. -/
theorem zip_initial {l₁ : List α} {l₁' : List β} (h : l <+: l₁) (h' : l' <+: l₁') :
    l.zip l' <+: l₁.zip l₁' := by
  obtain ⟨t, rfl⟩ := h
  obtain ⟨t', rfl⟩ := h'
  induction l generalizing l' with
  | nil => exact List.nil_prefix
  | cons x l ih =>
    cases l' with
    | nil => exact List.nil_prefix
    | cons y l' => exact (List.prefix_cons_inj _).2 ih

end Lists

/-! ### Nodes, edges and references that correspond -/

/-- The node `b` is `a` on other lines: they have the same key and signature. In an exact comparison they
stand on the same lines. -/
structure Node.Alike (exact : Prop) (a b : Node) : Prop where
  kind : a.kind = b.kind
  name : a.name = b.name
  filePath : a.filePath = b.filePath
  qualifiedName : Name.Alike exact a.qualifiedName b.qualifiedName
  signature : a.signature = b.signature
  key : a.key = b.key
  module : a.kind = .module → a.qualifiedName = b.qualifiedName
  position : exact → a.position = b.position

theorem Node.Alike.endpoint_eq {exact : Prop} {a b : Node} (h : a.Alike exact b) :
    a.endpoint = b.endpoint := by
  rw [Node.endpoint, Node.endpoint, h.kind, h.filePath, h.qualifiedName.withoutPositions_eq]

/-- The edge `b` joins the nodes that correspond to those of `a`. -/
structure Edge.Alike (P : String → String → Prop) (a b : Edge) : Prop where
  kind : a.kind = b.kind
  source : P a.source b.source
  target : P a.target b.target
  flowType : a.flowType? = b.flowType?

/-- Two references by the same name from corresponding nodes. -/
structure PendingReference.Alike (P : String → String → Prop) (a b : PendingReference) : Prop where
  reference : a.reference = b.reference
  source : P a.source b.source
  scope : P a.scope b.scope
  name : a.name = b.name

namespace Fragment

/-- No name of a node that can be the source of an edge goes on after another one with an arrow. -/
def StandAlone (fragment : Fragment) : Prop :=
  ∀ a ∈ fragment.nodes, ∀ b ∈ fragment.nodes, a.kind.isSource = true → a.kind = b.kind →
    Edge.arrowContinues a.qualifiedName b.qualifiedName = false

theorem StandAlone.of_grows {a b : Fragment} (h : b.StandAlone) (hgrows : Grows a b) : a.StandAlone :=
  fun x hx y hy => h x (hgrows.mem hx) y (hgrows.mem hy)

/-- Nodes of two fragments with the same number are joined by `P`, and names stand alone; in an exact
comparison the names are the same on both sides. -/
structure Matchable (exact : Prop) (P : String → String → Prop) (a b : Fragment) : Prop where
  paired : ∀ pair ∈ a.nodes.zip b.nodes, pair.1.Alike exact pair.2 → P pair.1.id pair.2.id
  left : a.StandAlone
  right : ¬exact → b.StandAlone

/-- Two fragments correspond. -/
structure Simulates (exact : Prop) (P : String → String → Prop) (a b : Fragment) : Prop where
  left : a.Sound
  right : b.Sound
  path : a.path = b.path
  fileId : P a.fileId b.fileId
  nodes : List.Forall₂ (Node.Alike exact) a.nodes b.nodes
  edges : List.Forall₂ (Edge.Alike P) a.edges b.edges
  parents : List.Forall₂ (fun p q => P p.1 q.1 ∧ P p.2 q.2) a.parents.writes b.parents.writes
  pending : List.Forall₂ (PendingReference.Alike P) a.pending b.pending

variable {exact : Prop} {P : String → String → Prop} {a b a' b' : Fragment}

theorem Matchable.of_grows (h : Matchable exact P a' b') (ha : Grows a a') (hb : Grows b b') :
    Matchable exact P a b :=
  ⟨fun pair hpair => h.paired pair ((zip_initial ha.nodes hb.nodes).subset hpair),
    h.left.of_grows ha, fun he => (h.right he).of_grows hb⟩

theorem Simulates.exists_left (h : Simulates exact P a b) {y : Node} (hy : y ∈ b.nodes) :
    ∃ x ∈ a.nodes, x.Alike exact y := by
  obtain ⟨i, hi, rfl⟩ := List.mem_iff_getElem.1 hy
  have hi' : i < a.nodes.length := h.nodes.length_eq ▸ hi
  exact ⟨a.nodes[i], List.getElem_mem hi', List.Forall₂.get h.nodes hi' hi⟩

theorem Simulates.standAlone_right (h : Simulates exact P a b) (hm : Matchable exact P a b) :
    b.StandAlone := by
  by_cases he : exact
  · intro y hy y' hy' hsource hkind
    obtain ⟨x, hx, hxy⟩ := h.exists_left hy
    obtain ⟨x', hx', hxy'⟩ := h.exists_left hy'
    rw [← hxy.qualifiedName.eq he, ← hxy'.qualifiedName.eq he]
    exact hm.left x hx x' hx' (hxy.kind ▸ hsource) (by rw [hxy.kind, hxy'.kind, hkind])
  · exact hm.right he

/-- Corresponding nodes that can be the source of an edge. -/
structure Speak (P : String → String → Prop) (a b : Fragment) (x y : String) : Prop where
  rel : P x y
  left : a.Speaks x
  right : b.Speaks y

theorem Speak.mono {x y : String} (h : Speak P a b x y) (ha : Grows a a') (hb : Grows b b') :
    Speak P a' b' x y :=
  ⟨h.rel, h.left.mono ha, h.right.mono hb⟩

/-- Corresponding nodes to which an edge of the kind and flow type can go. -/
structure Listen (P : String → String → Prop) (a b : Fragment) (kind : EdgeKind)
    (flow : Option FlowType) (x y : String) : Prop where
  rel : P x y
  left : a.Listens kind x flow
  right : b.Listens kind y flow

/-! ### Edges -/

/-- In a sound fragment whose names stand alone, the id of an edge says what the edge is. -/
theorem Sound.edge_id_iff (h : a.Sound) (halone : a.StandAlone) {kind : EdgeKind}
    {source target : String} {flow : Option FlowType} (hsource : a.Speaks source)
    (htarget : a.Listens kind target flow) {edge : Edge} (hedge : edge ∈ a.edges) :
    edge.id = Edge.makeId kind source target flow ↔
      edge.kind = kind ∧ edge.source = source ∧ edge.target = target ∧ edge.flowType? = flow := by
  obtain ⟨⟨first, hfirst, hfirstId, hspeaks⟩, ⟨last, hlast, hlastId, hfits⟩, hid, -⟩ := h.edges edge hedge
  obtain ⟨first', hfirst', rfl, hspeaks'⟩ := hsource
  obtain ⟨last', hlast', rfl, hfits'⟩ := htarget
  have hids {node : Node} (hnode : node ∈ a.nodes) := (h.nodes node hnode).1
  constructor
  · intro heq
    rw [hid, ← hfirstId, ← hlastId, hids hfirst, hids hlast, hids hfirst', hids hlast'] at heq
    obtain ⟨hkind, ⟨hk, hn⟩, ⟨hk', hn'⟩, hflow⟩ := Edge.makeId_inj hfits hfits' (fun hk =>
      ⟨halone first hfirst first' hfirst' hspeaks hk,
        halone first' hfirst' first hfirst hspeaks' hk.symm⟩) heq
    rw [← hfirstId, ← hlastId, hids hfirst, hids hlast, hids hfirst', hids hlast', hk, hn, hk', hn']
    exact ⟨hkind, rfl, rfl, hflow⟩
  · rintro ⟨hkind, hs, ht, hflow⟩
    rw [hid, hkind, hs, ht, hflow]

theorem Simulates.addEdge (hP : BiUnique P) (h : Simulates exact P a b) (hm : Matchable exact P a b)
    {kind : EdgeKind} {source target source' target' : String} {flow : Option FlowType} {callSite : Bool}
    (hsource : Speak P a b source source') (htarget : Listen P a b kind flow target target') :
    Simulates exact P (a.addEdge kind source target flow callSite)
      (b.addEdge kind source' target' flow callSite) := by
  -- the id is taken on both sides or on neither, since it says what the edge joins
  have hknown : a.edges.any (·.id == Edge.makeId kind source target flow) =
      b.edges.any (·.id == Edge.makeId kind source' target' flow) := by
    refine any_eq_of_forall₂ h.edges fun x hx y hy hxy => ?_
    have hs : x.source = source ↔ y.source = source' := Relator.rel_eq hP hxy.source hsource.rel
    have ht : x.target = target ↔ y.target = target' := Relator.rel_eq hP hxy.target htarget.rel
    rw [Bool.eq_iff_iff, beq_iff_eq, beq_iff_eq,
      h.left.edge_id_iff hm.left hsource.left htarget.left hx,
      h.right.edge_id_iff (h.standAlone_right hm) hsource.right htarget.right hy, hxy.kind, hxy.flowType,
      hs, ht]
  have hleft : (a.addEdge kind source target flow callSite).Sound :=
    h.left.addEdge hsource.left htarget.left
  have hright : (b.addEdge kind source' target' flow callSite).Sound :=
    h.right.addEdge hsource.right htarget.right
  rw [addEdge_eq] at hleft hright ⊢
  rw [addEdge_eq]
  rw [hknown] at hleft ⊢
  split
  · exact h
  · next hfresh =>
    rw [if_neg hfresh] at hleft hright
    refine ⟨hleft, hright, h.path, h.fileId, h.nodes, forall₂_concat h.edges ?_, h.parents, h.pending⟩
    exact ⟨rfl, hsource.rel, htarget.rel, by rw [flowType?_edge, flowType?_edge]⟩

/-! ### Nodes -/

/-- A node that is pushed on both sides at once. -/
theorem Matchable.rel_push {x y : Node} (hm : Matchable exact P (a.push x) (b.push y))
    (hlength : a.nodes.length = b.nodes.length) (hxy : x.Alike exact y) : P x.id y.id := by
  refine hm.paired (x, y) ?_ hxy
  simp only [push, List.zip_append hlength]
  exact List.mem_append_right _ List.mem_cons_self

theorem Simulates.push (h : Simulates exact P a b) {x y : Node} (hxy : x.Alike exact y)
    (hx : x.id = a.makeId x.kind x.qualifiedName ∧ x.filePath = a.path)
    (hy : y.id = b.makeId y.kind y.qualifiedName ∧ y.filePath = b.path) :
    Simulates exact P (a.push x) (b.push y) :=
  ⟨h.left.push x hx.1 hx.2, h.right.push y hy.1 hy.2, h.path, h.fileId, forall₂_concat h.nodes hxy,
    h.edges, h.parents, h.pending⟩

theorem Simulates.declare (hP : BiUnique P) (h : Simulates exact P a b) (hm : Matchable exact P a b)
    {parent child parent' child' : String} (hparent : Speak P a b parent parent')
    (hchild : P child child') (ha : ∃ node ∈ a.nodes, node.id = child)
    (hb : ∃ node ∈ b.nodes, node.id = child') :
    Simulates exact P (a.declare parent child) (b.declare parent' child') := by
  have hparents : Simulates exact P { a with parents := a.parents.insert child parent }
      { b with parents := b.parents.insert child' parent' } :=
    { h with
      left := ⟨h.left.file, h.left.nodes, h.left.edges, h.left.edgeIds, h.left.pending⟩
      right := ⟨h.right.file, h.right.nodes, h.right.edges, h.right.edgeIds, h.right.pending⟩
      parents := .cons ⟨hchild, hparent.rel⟩ h.parents }
  obtain ⟨node, hnode, hid⟩ := ha
  obtain ⟨node', hnode', hid'⟩ := hb
  exact hparents.addEdge hP ⟨hm.paired, hm.left, hm.right⟩ ⟨hparent.rel, hparent.left, hparent.right⟩
    ⟨hchild, ⟨node, hnode, hid, flowFits_none (by simp)⟩, ⟨node', hnode', hid', flowFits_none (by simp)⟩⟩

theorem alike_symbol (hpath : a.path = b.path) (kind : NodeKind) (name : String) {qn qn' : String}
    (lines lines' : Option (Nat × Nat)) (signature : String) (metadata metadata' : Metadata)
    (hbranch : kind ≠ .branch) (hname : Name.Alike exact qn qn') (hmodule : kind = .module → qn = qn')
    (hlines : exact → lines = lines') :
    (a.node kind name qn lines signature metadata).Alike exact
      (b.node kind name qn' lines' signature metadata') := by
  refine ⟨rfl, rfl, hpath, hname, rfl, ?_, hmodule, fun he => ?_⟩
  · have hkey (node : Node) (hnode : node.kind ≠ .branch) :
        node.key = .symbol (Name.withoutPositions node.qualifiedName) node.kind := by
      rw [Node.key, if_neg (by simpa using hnode)]
    rw [hkey _ hbranch, hkey _ hbranch]
    exact congrArg (NodeKey.symbol · kind) hname.withoutPositions_eq
  · rw [Node.position, Node.position, node, node, hlines he]

/-- A node that goes to corresponding places of both fragments, with its parent. -/
theorem Simulates.pushDeclared (hP : BiUnique P) (h : Simulates exact P a b) {x y : Node}
    {parent parent' : String}
    (hm : Matchable exact P ((a.push x).declare parent x.id) ((b.push y).declare parent' y.id))
    (hxy : x.Alike exact y) (hx : x.id = a.makeId x.kind x.qualifiedName ∧ x.filePath = a.path)
    (hy : y.id = b.makeId y.kind y.qualifiedName ∧ y.filePath = b.path)
    (hparent : Speak P a b parent parent') :
    Simulates exact P ((a.push x).declare parent x.id) ((b.push y).declare parent' y.id) ∧
      P x.id y.id := by
  have hpush := hm.of_grows (grows_declare _ _ _) (grows_declare _ _ _)
  have hrel := hpush.rel_push h.nodes.length_eq hxy
  exact ⟨(h.push hxy hx hy).declare hP hpush (hparent.mono (grows_push _ _) (grows_push _ _)) hrel
    ⟨x, mem_push _ _, rfl⟩ ⟨y, mem_push _ _, rfl⟩, hrel⟩

/-! ### Names -/

theorem Sound.hasNode_makeId (h : a.Sound) (kind : NodeKind) (name : String) :
    a.hasNode (a.makeId kind name) =
      a.nodes.any fun node => node.kind == kind && node.qualifiedName == name := by
  unfold hasNode
  rw [Bool.eq_iff_iff, List.any_eq_true, List.any_eq_true]
  refine exists_congr fun node => and_congr_right fun hnode => ?_
  rw [(h.nodes node hnode).1, beq_iff_eq, Bool.and_eq_true, beq_iff_eq, beq_iff_eq]
  exact Node.makeId_inj

/-- A name that is the same on both sides is taken on both sides or on none, as far as it shows. -/
theorem Simulates.hasNode_eq (h : Simulates exact P a b) (kind : NodeKind) {name : String}
    (hname : exact ∨ name = "") : a.hasNode (a.makeId kind name) = b.hasNode (b.makeId kind name) := by
  rw [h.left.hasNode_makeId, h.right.hasNode_makeId]
  refine any_eq_of_forall₂ h.nodes fun x _ y _ hxy => ?_
  rw [hxy.kind]
  rcases hname with he | rfl
  · rw [hxy.qualifiedName.eq he]
  · congr 1
    rw [Bool.eq_iff_iff, beq_iff_eq, beq_iff_eq, hxy.qualifiedName.eq_empty_iff]

theorem Simulates.freeName (h : Simulates exact P a b) (kind : NodeKind) {name name' : String}
    (hname : Name.Alike exact name name') (line line' : Nat) (hline : exact → line = line') :
    Name.Alike exact (a.freeName kind name line) (b.freeName kind name' line') := by
  unfold Fragment.freeName
  refine ⟨?_, fun he => ?_⟩
  · by_cases hempty : name = ""
    · -- The empty name is the only one for which it matters whether it is taken.
      rw [hempty, hname.eq_empty_iff.1 hempty, h.hasNode_eq kind (.inr rfl)]
      split
      · rw [Name.gist_eq_iff, Name.withoutPositions_append_line, Name.withoutPositions_append_line]
        simp
      · rfl
    · have hempty' : name' ≠ "" := fun h => hempty (hname.eq_empty_iff.2 h)
      have hgist {name : String} (hne : name ≠ "") (taken : Bool) (line : Nat) :
          Name.gist (if taken then name ++ "@L" ++ Nat.repr line else name) = Name.gist name := by
        split
        · rw [Name.gist_eq_iff, Name.withoutPositions_append_line]
          simp [hne]
        · rfl
      rw [hgist hempty, hgist hempty', hname.gist]
  · rw [hname.eq he, hline he, h.hasNode_eq kind (.inl he)]

/-! ### Parents, references and imports -/

theorem rel_lookup (hP : BiUnique P) {x y : String} (hxy : P x y) {writes writes' : List (String × String)}
    (h : List.Forall₂ (fun p q => P p.1 q.1 ∧ P p.2 q.2) writes writes') :
    Option.Rel P (writes.lookup x) (writes'.lookup y) := by
  induction h with
  | nil => exact .none
  | @cons p q _ _ hpq _ ih =>
    have hkey : (x == p.1) = (y == q.1) := by
      rw [Bool.eq_iff_iff, beq_iff_eq, beq_iff_eq]
      exact Relator.rel_eq hP hxy hpq.1
    rw [List.lookup_cons, List.lookup_cons, hkey]
    split
    · exact .some hpq.2
    · exact ih

theorem Simulates.rel_parentOf? (hP : BiUnique P) (h : Simulates exact P a b) {x y : String}
    (hxy : P x y) : Option.Rel P (a.parentOf? x) (b.parentOf? y) :=
  rel_lookup hP hxy h.parents

theorem Simulates.rel_scopeOf (hP : BiUnique P) (h : Simulates exact P a b) {x y : String}
    (hxy : P x y) : P (a.scopeOf x) (b.scopeOf y) := by
  have hparent := h.rel_parentOf? hP hxy
  unfold scopeOf
  generalize a.parentOf? x = parent at hparent ⊢
  generalize b.parentOf? y = parent' at hparent ⊢
  cases hparent with
  | none => exact h.fileId
  | some hrel => exact hrel

theorem Simulates.referFrom (h : Simulates exact P a b) (reference : Reference)
    {source scope source' scope' : String} (name : String) (hsource : Speak P a b source source')
    (hscope : P scope scope') :
    Simulates exact P (a.referFrom reference source scope name)
      (b.referFrom reference source' scope' name) :=
  { h with
    left := h.left.referFrom reference scope name hsource.left
    right := h.right.referFrom reference scope' name hsource.right
    pending := forall₂_concat h.pending ⟨rfl, hsource.rel, hscope, rfl⟩ }

theorem Simulates.speak_fileId (h : Simulates exact P a b) : Speak P a b a.fileId b.fileId :=
  ⟨h.fileId, h.left.speaks_fileId, h.right.speaks_fileId⟩

theorem Simulates.addImport (hP : BiUnique P) (h : Simulates exact P a b) (module : String)
    (hm : Matchable exact P (a.addImport module) (b.addImport module)) :
    Simulates exact P (a.addImport module) (b.addImport module) := by
  -- the module is known on both sides or on neither: modules have the same name in both
  have hknown : (a.nodes.any fun node =>
        node.kind == .module && node.qualifiedName == Text.trim module) =
      b.nodes.any fun node => node.kind == .module && node.qualifiedName == Text.trim module := by
    refine any_eq_of_forall₂ h.nodes fun x _ y _ hxy => ?_
    by_cases hkind : x.kind = .module
    · rw [← hxy.kind, hxy.module hkind]
    · rw [← hxy.kind, beq_eq_false_iff_ne.2 hkind, Bool.false_and, Bool.false_and]
  unfold Fragment.addImport at hm ⊢
  dsimp only at hm ⊢
  rw [hknown] at hm ⊢
  split
  · exact h
  · next hfresh =>
    rw [if_neg hfresh, if_neg hfresh] at hm
    have hpush := hm.of_grows (grows_addEdge _ _ _ _ _ _) (grows_addEdge _ _ _ _ _ _)
    have halike := alike_symbol h.path .module
      (Text.afterLast (fun c => c == '.' || c == '/') (Text.trim module)) none none
      (Signature.ofText (Text.trim module)) .empty .empty (by decide)
      (Name.Alike.refl exact (Text.trim module)) (fun _ => rfl) (fun _ => rfl)
    refine (h.push halike ⟨rfl, rfl⟩ ⟨rfl, rfl⟩).addEdge hP hpush
      (h.speak_fileId.mono (grows_push _ _) (grows_push _ _)) ⟨?_, ?_, ?_⟩
    · exact hpush.rel_push h.nodes.length_eq halike
    · exact ⟨_, mem_push _ _, rfl, flowFits_none (by simp)⟩
    · exact ⟨_, mem_push _ _, rfl, flowFits_none (by simp)⟩

/-! ### Symbols -/

theorem Simulates.addSymbol (hP : BiUnique P) (h : Simulates exact P a b) {x y : Declaration}
    (hbare : x.bare = y.bare) (hexact : exact → x = y) (hsymbol : x.kind.isSymbol = true)
    {parent parent' scope scope' : String} (hparent : Speak P a b parent parent')
    (hscope : Name.Alike exact scope scope')
    (hm : Matchable exact P (a.addSymbol x parent scope).2 (b.addSymbol y parent' scope').2) :
    Simulates exact P (a.addSymbol x parent scope).2 (b.addSymbol y parent' scope').2 ∧
      P (a.addSymbol x parent scope).1.id (b.addSymbol y parent' scope').1.id ∧
      Name.Alike exact (a.addSymbol x parent scope).1.qualifiedName
        (b.addSymbol y parent' scope').1.qualifiedName := by
  obtain ⟨hkind, hname, hgist, hsignature, -⟩ := Declaration.eq_of_bare_eq hbare
  have hlocal : Name.Alike exact x.localName y.localName := ⟨hgist, fun he => by rw [hexact he]⟩
  have hqualified := h.freeName x.kind (hscope.qualify hlocal) x.lines.1 y.lines.1
    fun he => by rw [hexact he]
  unfold Fragment.addSymbol at hm ⊢
  dsimp only at hm ⊢
  rw [← hkind, ← hname, ← hsignature] at hm ⊢
  have hne {kind : NodeKind} (hnone : kind.isSymbol = false) : x.kind ≠ kind := by
    rintro rfl
    rw [hsymbol] at hnone
    cases hnone
  have halike := alike_symbol h.path x.kind x.name (some x.lines) (some y.lines) x.signature x.metadata
    y.metadata (hne rfl) hqualified (fun heq => absurd heq (hne rfl)) fun he => by rw [hexact he]
  obtain ⟨hdeclared, hrel⟩ := h.pushDeclared hP hm halike ⟨rfl, rfl⟩ ⟨rfl, rfl⟩ hparent
  exact ⟨hdeclared, hrel, hqualified⟩

/-- Corresponding scopes. -/
structure ScopeAlike (exact : Prop) (P : String → String → Prop) (a b : Fragment) (s s' : Scope) :
    Prop where
  symbol : Speak P a b s.symbol.id s'.symbol.id
  renderer : Speak P a b s.renderer s'.renderer
  name : Name.Alike exact s.symbol.qualifiedName s'.symbol.qualifiedName

theorem ScopeAlike.mono {s s' : Scope} (h : ScopeAlike exact P a b s s') (ha : Grows a a')
    (hb : Grows b b') : ScopeAlike exact P a' b' s s' :=
  ⟨h.symbol.mono ha hb, h.renderer.mono ha hb, h.name⟩

theorem ScopeAlike.speaksFor {s s' : Scope} (h : ScopeAlike exact P a b s s') :
    a.SpeaksFor s ∧ b.SpeaksFor s' :=
  ⟨⟨h.symbol.left, h.renderer.left⟩, ⟨h.symbol.right, h.renderer.right⟩⟩

theorem Simulates.recordSymbol (hP : BiUnique P) (h : Simulates exact P a b) {x y : Declaration}
    (hbare : x.bare = y.bare) (hexact : exact → x = y) (hsymbol : x.kind.isSymbol = true)
    {s s' : Scope} (hscope : ScopeAlike exact P a b s s')
    (hm : Matchable exact P (recordSymbol s x a) (recordSymbol s' y b)) :
    Simulates exact P (recordSymbol s x a) (recordSymbol s' y b) ∧
      P (innerScope s x a).symbol.id (innerScope s' y b).symbol.id ∧
      Name.Alike exact (innerScope s x a).symbol.qualifiedName
        (innerScope s' y b).symbol.qualifiedName := by
  have hkind := (Declaration.eq_of_bare_eq hbare).1
  have hadded := h.addSymbol hP hbare hexact hsymbol hscope.symbol hscope.name
    (hm.of_grows (grows_recordSymbol_of_addSymbol _ _ _) (grows_recordSymbol_of_addSymbol _ _ _))
  refine ⟨?_, hadded.2⟩
  unfold Fragment.recordSymbol at hm ⊢
  dsimp only at hm ⊢
  rw [← hkind] at hm ⊢
  split
  · next hendpoint =>
    rw [if_pos hendpoint, if_pos hendpoint] at hm
    obtain ⟨node, hnode, hid, -⟩ := exists_addSymbol a x s.symbol.id s.symbol.qualifiedName
    obtain ⟨node', hnode', hid', -⟩ := exists_addSymbol b y s'.symbol.id s'.symbol.qualifiedName
    refine hadded.1.addEdge hP (hm.of_grows (grows_addEdge _ _ _ _ _ _) (grows_addEdge _ _ _ _ _ _))
      (hscope.symbol.mono (grows_addSymbol _ _ _ _) (grows_addSymbol _ _ _ _)) ⟨hadded.2.1, ?_, ?_⟩
    · exact ⟨node, hnode, hid, flowFits_none (by simp)⟩
    · exact ⟨node', hnode', hid', flowFits_none (by simp)⟩
  · exact hadded.1

/-- The scopes inside corresponding symbols correspond. -/
theorem ScopeAlike.innerScope {s s' : Scope} (hscope : ScopeAlike exact P a b s s') {x y : Declaration}
    (hbare : x.bare = y.bare) (hsource : x.kind.isSource = true)
    (hid : P (innerScope s x a).symbol.id (innerScope s' y b).symbol.id)
    (hname : Name.Alike exact (innerScope s x a).symbol.qualifiedName
      (innerScope s' y b).symbol.qualifiedName) :
    ScopeAlike exact P (recordSymbol s x a) (recordSymbol s' y b) (innerScope s x a)
      (innerScope s' y b) := by
  obtain ⟨hkind, -, -, -, howner⟩ := Declaration.eq_of_bare_eq hbare
  have hleft := speaksFor_innerScope hscope.speaksFor.1 hsource
  have hright := speaksFor_innerScope hscope.speaksFor.2 (hkind ▸ hsource)
  refine ⟨⟨hid, hleft.1, hright.1⟩, ⟨?_, hleft.2, hright.2⟩, hname⟩
  unfold Fragment.innerScope at hid ⊢
  dsimp only at hid ⊢
  rw [← howner]
  split
  · exact hscope.renderer.rel
  · exact hid

end Fragment

end StructuralDiff
