import StructuralDiff.Proofs.Fragment.Likeness

/-!
# Fragments of files that are alike

Function bodies, outlines and whole files are recorded side by side, one step after the other.

* `InStep`, `InStep.addPieces`: two fragments to which skeletons are added, piece by piece.
* `Simulates.addFlow`: skeletons of functions.
* `Simulates.recordAll`, `Simulates.resolved`: recording and resolving keep the correspondence.
* `simulates_ofTree`: files whose outlines differ in their places only have corresponding fragments.
* `Joined`: nodes correspond by their number. This is one to one for files that are the same, and for files
  in which no id is repeated.
-/

open Relator (BiUnique)

namespace StructuralDiff.Fragment

variable {exact : Prop} {P : String → String → Prop} {a b a' b' : Fragment}

/-! ### Branches -/

theorem get?_branchMetadata (ownerName : String) (site : Site) :
    (branchMetadata ownerName site).get? "owner" = some ownerName ∧
      (branchMetadata ownerName site).get? "branchType" = some site.kind := by
  unfold branchMetadata
  cases site.callee with
  | none => simp [Metadata.ofList, Metadata.get?_insert]
  | some callee => simp [Metadata.ofList, Metadata.get?_insert]

theorem key_branch (fragment : Fragment) (label qn ownerName : String) (site : Site)
    (lines : Option (Nat × Nat)) :
    (fragment.node .branch label qn lines site.signature (branchMetadata ownerName site)).key =
      .branch (Name.withoutInstance ownerName) site.kind site.signature := by
  obtain ⟨howner, htype⟩ := get?_branchMetadata ownerName site
  simp [Node.key, Node.branchOwner, Node.branchContent, Node.attribute?, node, howner, htype]

theorem alike_branch (hpath : a.path = b.path) (label : String) {ownerName ownerName' : String}
    (hname : Name.Alike exact ownerName ownerName') {site site' : Site} (hbare : site.bare = site'.bare)
    (hexact : exact → site = site') :
    (a.node .branch label (ownerName ++ "::" ++ label) (some site.lines) site.signature
        (branchMetadata ownerName site)).Alike exact
      (b.node .branch label (ownerName' ++ "::" ++ label) (some site'.lines) site'.signature
        (branchMetadata ownerName' site')) := by
  obtain ⟨hkind, hsignature, -⟩ := Site.eq_of_bare_eq hbare
  refine ⟨rfl, rfl, hpath, hname.branch label, congrArg some hsignature, ?_, ?_, fun he => ?_⟩
  · rw [key_branch, key_branch, hkind, hsignature,
      Name.withoutInstance_eq_of_withoutPositions hname.withoutPositions_eq]
  · intro h
    cases h
  · rw [Node.position, Node.position, node, node, hexact he]

/-- Corresponding owners of branches. -/
structure OwnerAlike (exact : Prop) (P : String → String → Prop) (a b : Fragment) (x y : Recorded) :
    Prop where
  speak : Speak P a b x.id y.id
  name : Name.Alike exact x.qualifiedName y.qualifiedName

theorem Simulates.addBranch (hP : BiUnique P) (h : Simulates exact P a b) {owner owner' : Recorded}
    (howner : OwnerAlike exact P a b owner owner') {scope scope' : String} (hscope : P scope scope')
    (label : String) {site site' : Site} (hbare : site.bare = site'.bare) (hexact : exact → site = site')
    (hm : Matchable exact P (a.addBranch owner scope label site) (b.addBranch owner' scope' label site')) :
    Simulates exact P (a.addBranch owner scope label site) (b.addBranch owner' scope' label site') ∧
      P (a.makeId .branch (owner.qualifiedName ++ "::" ++ label))
        (b.makeId .branch (owner'.qualifiedName ++ "::" ++ label)) := by
  obtain ⟨hdeclared, hrel⟩ := h.pushDeclared hP
    (hm.of_grows (grows_addBranch_of_declare _ _ _ _ _) (grows_addBranch_of_declare _ _ _ _ _))
    (alike_branch h.path label howner.name hbare hexact) ⟨rfl, rfl⟩ ⟨rfl, rfl⟩ howner.speak
  refine ⟨?_, hrel⟩
  unfold Fragment.addBranch
  dsimp only
  rw [← (Site.eq_of_bare_eq hbare).2.2]
  split
  · refine hdeclared.referFrom _ _ ⟨hrel, ?_, ?_⟩ hscope
    · exact ⟨_, (grows_declare _ _ _).mem (mem_push _ _), rfl, rfl⟩
    · exact ⟨_, (grows_declare _ _ _).mem (mem_push _ _), rfl, rfl⟩
  · exact hdeclared

/-- The branches up to the ordinal `n` are there on both sides and correspond. -/
structure BranchesAlike (P : String → String → Prop) (a b : Fragment) (ids ids' : List String)
    (n : Nat) : Prop where
  rel : ∀ i < n, P (ids.getD i "") (ids'.getD i "")
  left : a.HasBranches ids n
  right : b.HasBranches ids' n

theorem BranchesAlike.mono {ids ids' : List String} {n : Nat} (h : BranchesAlike P a b ids ids' n)
    (ha : Grows a a') (hb : Grows b b') : BranchesAlike P a' b' ids ids' n :=
  ⟨h.rel, h.left.mono ha, h.right.mono hb⟩

theorem BranchesAlike.speak {ids ids' : List String} {n i : Nat} (h : BranchesAlike P a b ids ids' n)
    (hi : i < n) : Speak P a b (ids.getD i "") (ids'.getD i "") := by
  obtain ⟨node, hnode, hid, hkind⟩ := h.left i hi
  obtain ⟨node', hnode', hid', hkind'⟩ := h.right i hi
  exact ⟨h.rel i hi, ⟨node, hnode, hid, by rw [hkind]; rfl⟩, ⟨node', hnode', hid', by rw [hkind']; rfl⟩⟩

theorem BranchesAlike.listen {ids ids' : List String} {n i : Nat} (h : BranchesAlike P a b ids ids' n)
    (hi : i < n) (flow : FlowType) :
    Listen P a b .calls (some flow) (ids.getD i "") (ids'.getD i "") := by
  obtain ⟨node, hnode, hid, hkind⟩ := h.left i hi
  obtain ⟨node', hnode', hid', hkind'⟩ := h.right i hi
  exact ⟨h.rel i hi, ⟨node, hnode, hid, by rw [hkind]; exact flowFits_branch flow⟩,
    ⟨node', hnode', hid', by rw [hkind']; exact flowFits_branch flow⟩⟩

/-- The id of the branch with the next label. -/
theorem getD_branchIds (fragment : Fragment) (owner : Recorded) {labels : List String} {n : Nat}
    (hn : n < labels.length) : (fragment.branchIds owner labels).getD n "" =
      fragment.makeId .branch (owner.qualifiedName ++ "::" ++ (labels.drop n).headD "") := by
  rw [List.headD_eq_head?_getD, List.head?_drop]
  simp [branchIds, hn]

/-- Two fragments to which two skeletons are being added: the owners correspond, the ids of all branches are settled,
and the branches up to the ordinal `n` are there. -/
structure InStep (exact : Prop) (P : String → String → Prop) (owner owner' : Recorded)
    (labels ids ids' : List String) (n : Nat) (a b : Fragment) : Prop where
  simulates : Simulates exact P a b
  owners : OwnerAlike exact P a b owner owner'
  left : a.branchIds owner labels = ids
  right : b.branchIds owner' labels = ids'
  branches : BranchesAlike P a b ids ids' n

section InStep

variable {owner owner' : Recorded} {scope scope' : String} {labels ids ids' : List String} {n : Nat}

/-- A link between branches that are there already. -/
theorem InStep.addLink (hP : BiUnique P) (h : InStep exact P owner owner' labels ids ids' n a b)
    {source target : Nat} (hsource : source < n) (htarget : target < n) (flow : FlowType)
    (hm : Matchable exact P (a.addEdge .calls (ids.getD source "") (ids.getD target "") (some flow) false)
      (b.addEdge .calls (ids'.getD source "") (ids'.getD target "") (some flow) false)) :
    InStep exact P owner owner' labels ids ids' n
      (a.addEdge .calls (ids.getD source "") (ids.getD target "") (some flow) false)
      (b.addEdge .calls (ids'.getD source "") (ids'.getD target "") (some flow) false) := by
  have ha := grows_addEdge a .calls (ids.getD source "") (ids.getD target "") (some flow) false
  have hb := grows_addEdge b .calls (ids'.getD source "") (ids'.getD target "") (some flow) false
  exact {
    simulates := h.simulates.addEdge hP (hm.of_grows ha hb) (h.branches.speak hsource) (h.branches.listen htarget flow)
    owners := ⟨h.owners.speak.mono ha hb, h.owners.name⟩
    left := (branchIds_of_grows ha owner labels).trans h.left
    right := (branchIds_of_grows hb owner' labels).trans h.right
    branches := h.branches.mono ha hb }

/-- The next branch. -/
theorem InStep.addBranch (hP : BiUnique P) (h : InStep exact P owner owner' labels ids ids' n a b)
    (hscope : P scope scope') (hn : n < labels.length) {site site' : Site} (hbare : site.bare = site'.bare)
    (hexact : exact → site = site')
    (hm : Matchable exact P (a.addBranch owner scope ((labels.drop n).headD "") site)
      (b.addBranch owner' scope' ((labels.drop n).headD "") site')) :
    InStep exact P owner owner' labels ids ids' (n + 1)
      (a.addBranch owner scope ((labels.drop n).headD "") site)
      (b.addBranch owner' scope' ((labels.drop n).headD "") site') := by
  have ha := grows_addBranch a owner scope ((labels.drop n).headD "") site
  have hb := grows_addBranch b owner' scope' ((labels.drop n).headD "") site'
  obtain ⟨hbranch, hrel⟩ := h.simulates.addBranch hP h.owners hscope ((labels.drop n).headD "") hbare hexact hm
  refine ⟨hbranch, ⟨h.owners.speak.mono ha hb, h.owners.name⟩, (branchIds_of_grows ha owner labels).trans h.left,
    (branchIds_of_grows hb owner' labels).trans h.right, fun i hi => ?_, ?_, ?_⟩
  · rcases Nat.lt_succ_iff_lt_or_eq.1 hi with hi | rfl
    · exact h.branches.rel i hi
    · rw [← h.left, ← h.right, getD_branchIds a owner hn, getD_branchIds b owner' hn]
      exact hrel
  · exact hasBranches_addBranch h.left h.branches.left hn scope site
  · exact hasBranches_addBranch h.right h.branches.right hn scope' site'

/-- **The pieces of two skeletons are added side by side.** -/
theorem InStep.addPieces (hP : BiUnique P) (hscope : P scope scope') {pieces pieces' : List Piece} {a b : Fragment}
    (h : InStep exact P owner owner' labels ids ids' n a b) (hscoped : Piece.Scoped n pieces)
    (hn : n + Piece.branchCount pieces = labels.length)
    (hbare : pieces.map Piece.bare = pieces'.map Piece.bare) (hexact : exact → pieces = pieces')
    (hm : Matchable exact P (addPieces owner scope ids (labels.drop n) pieces a)
      (addPieces owner' scope' ids' (labels.drop n) pieces' b)) :
    InStep exact P owner owner' labels ids ids' labels.length
      (addPieces owner scope ids (labels.drop n) pieces a)
      (addPieces owner' scope' ids' (labels.drop n) pieces' b) := by
  -- each piece leaves the fragments in step, and what is added later only makes them grow
  induction pieces generalizing pieces' a b n with
  | nil =>
    rw [List.map_nil, eq_comm, List.map_eq_nil_iff] at hbare
    subst hbare
    rw [Piece.branchCount_nil, Nat.add_zero] at hn
    exact hn ▸ h
  | cons piece rest ih =>
    obtain ⟨piece', rest', rfl⟩ : ∃ piece' rest', pieces' = piece' :: rest' := by
      cases pieces' with
      | nil => simp at hbare
      | cons piece' rest' => exact ⟨piece', rest', rfl⟩
    rw [List.map_cons, List.map_cons, List.cons.injEq] at hbare
    have hrest : exact → rest = rest' := fun he => (List.cons.inj (hexact he)).2
    cases piece with
    | link source target flow =>
      cases piece' with
      | branch site => simp [Piece.bare] at hbare
      | link source' target' flow' =>
        obtain ⟨⟨rfl, rfl, rfl⟩, hbareRest⟩ : (source = source' ∧ target = target' ∧ flow = flow') ∧ _ := by
          simpa [Piece.bare] using hbare
        obtain ⟨hsource, htarget, hscopedRest⟩ := hscoped
        rw [Piece.branchCount_link] at hn
        rw [Fragment.addPieces, Fragment.addPieces] at hm ⊢
        have hlink := h.addLink hP hsource htarget flow
          (hm.of_grows (grows_addPieces _ _ _ _ _ _) (grows_addPieces _ _ _ _ _ _))
        exact ih hlink hscopedRest hn hbareRest hrest hm
    | branch site =>
      cases piece' with
      | link source' target' flow' => simp [Piece.bare] at hbare
      | branch site' =>
        obtain ⟨hsite, hbareRest⟩ : site.bare = site'.bare ∧ _ := by simpa [Piece.bare] using hbare
        have hsiteExact : exact → site = site' := fun he => Piece.branch.inj (List.cons.inj (hexact he)).1
        rw [Piece.branchCount_branch] at hn
        rw [Fragment.addPieces, Fragment.addPieces, List.tail_drop] at hm ⊢
        have hbranch := h.addBranch hP hscope (by omega) hsite hsiteExact
          (hm.of_grows (grows_addPieces _ _ _ _ _ _) (grows_addPieces _ _ _ _ _ _))
        exact ih hbranch hscoped (by omega) hbareRest hrest hm

end InStep

theorem Simulates.addFlow (hP : BiUnique P) (h : Simulates exact P a b) {owner owner' : Recorded}
    (howner : OwnerAlike exact P a b owner owner') {body body' : List FlowStmt}
    (hbare : FlowStmt.bareAll body = FlowStmt.bareAll body') (hexact : exact → body = body')
    (hm : Matchable exact P (a.addFlow owner body) (b.addFlow owner' body')) :
    Simulates exact P (a.addFlow owner body) (b.addFlow owner' body') := by
  obtain ⟨hentry, hpieces, hlabels⟩ := Skeleton.ofBody_of_bareAll hbare
  obtain ⟨hscoped, hentryLt⟩ := Skeleton.scoped_ofBody body
  have hcount := Skeleton.length_labels (Skeleton.ofBody body)
  unfold Fragment.addFlow at hm ⊢
  dsimp only at hm ⊢
  rw [← hentry, ← hlabels] at hm ⊢
  have hpiecesMatch : Matchable exact P
      (Fragment.addPieces owner (a.scopeOf owner.id) (a.branchIds owner (Skeleton.ofBody body).labels)
        ((Skeleton.ofBody body).labels.drop 0) (Skeleton.ofBody body).pieces a)
      (Fragment.addPieces owner' (b.scopeOf owner'.id) (b.branchIds owner' (Skeleton.ofBody body).labels)
        ((Skeleton.ofBody body).labels.drop 0) (Skeleton.ofBody body').pieces b) := by
    split at hm
    · exact hm.of_grows (grows_addEdge _ _ _ _ _ _) (grows_addEdge _ _ _ _ _ _)
    · exact hm
  -- no branch is there yet
  have hnone : BranchesAlike P a b (a.branchIds owner (Skeleton.ofBody body).labels)
      (b.branchIds owner' (Skeleton.ofBody body).labels) 0 :=
    ⟨fun i hi => absurd hi (Nat.not_lt_zero i), fun i hi => absurd hi (Nat.not_lt_zero i),
      fun i hi => absurd hi (Nat.not_lt_zero i)⟩
  have hbuilt := InStep.addPieces hP (h.rel_scopeOf hP howner.speak.rel) ⟨h, howner, rfl, rfl, hnone⟩ hscoped
    (by rw [hcount, Nat.zero_add]) hpieces (fun he => by rw [hexact he]) hpiecesMatch
  split
  · next entry hsome =>
    exact hbuilt.simulates.addEdge hP hpiecesMatch hbuilt.owners.speak
      (hbuilt.branches.listen (hentryLt entry hsome) .next)
  · exact hbuilt.simulates

/-! ### Outlines -/

mutual

theorem Simulates.record (hP : BiUnique P) {scope scope' : Scope} {outline outline' : Outline}
    {a b : Fragment} (hregular : outline.regular = true) (hbare : outline.bare = outline'.bare)
    (hexact : exact → outline = outline') (h : Simulates exact P a b)
    (hscope : ScopeAlike exact P a b scope scope')
    (hm : Matchable exact P (record scope outline a) (record scope' outline' b)) :
    Simulates exact P (record scope outline a) (record scope' outline' b) := by
  cases outline with
  | imports module =>
    obtain rfl := Outline.eq_of_bare_imports hbare
    exact h.addImport hP module hm
  | refers reference name =>
    obtain rfl := Outline.eq_of_bare_refers hbare
    have hsource : Speak P a b (if reference == .renders then scope.renderer else scope.symbol.id)
        (if reference == .renders then scope'.renderer else scope'.symbol.id) := by
      split
      · exact hscope.renderer
      · exact hscope.symbol
    exact h.referFrom reference name hsource (h.rel_scopeOf hP hsource.rel)
  | flows body =>
    obtain ⟨body', rfl, hbody⟩ := Outline.exists_of_bare_flows hbare
    exact h.addFlow hP ⟨hscope.symbol, hscope.name⟩ hbody (fun he => Outline.flows.inj (hexact he)) hm
  | declares x body =>
    obtain ⟨y, body', rfl, hdeclared, hbody⟩ := Outline.exists_of_bare_declares hbare
    have hx : exact → x = y := fun he => (Outline.declares.inj (hexact he)).1
    simp only [Outline.regular, Bool.and_eq_true, Bool.or_eq_true] at hregular
    obtain ⟨⟨hsymbol, hendpoint⟩, hregularBody⟩ := hregular
    rw [record_declares, record_declares] at hm ⊢
    obtain ⟨hrecorded, hid, hname⟩ := h.recordSymbol hP hdeclared hx hsymbol hscope
      (hm.of_grows (grows_recordAll _ _ _) (grows_recordAll _ _ _))
    -- an endpoint declares nothing, so whatever declares something can be the source of an edge
    rcases hendpoint with hendpoint | hempty
    · refine Simulates.recordAll hP hregularBody hbody (fun he => (Outline.declares.inj (hexact he)).2)
        hrecorded (hscope.innerScope hdeclared ?_ hid hname) hm
      exact isSource_of_isSymbol hsymbol (by simpa using hendpoint)
    · obtain rfl := List.isEmpty_iff.1 hempty
      rw [Outline.bareAll_eq_map, Outline.bareAll_eq_map, List.map_nil, eq_comm, List.map_eq_nil_iff] at hbody
      subst hbody
      exact hrecorded

theorem Simulates.recordAll (hP : BiUnique P) {scope scope' : Scope} {outlines outlines' : List Outline}
    {a b : Fragment} (hregular : Outline.regularAll outlines = true)
    (hbare : Outline.bareAll outlines = Outline.bareAll outlines') (hexact : exact → outlines = outlines')
    (h : Simulates exact P a b) (hscope : ScopeAlike exact P a b scope scope')
    (hm : Matchable exact P (recordAll scope outlines a) (recordAll scope' outlines' b)) :
    Simulates exact P (recordAll scope outlines a) (recordAll scope' outlines' b) := by
  match outlines with
  | [] =>
    rw [Outline.bareAll_eq_map, Outline.bareAll_eq_map, List.map_nil, eq_comm, List.map_eq_nil_iff] at hbare
    subst hbare
    exact h
  | outline :: rest =>
    obtain ⟨outline', rest', rfl, hfirstBare, hrestBare⟩ : ∃ outline' rest', outlines' = outline' :: rest' ∧
        outline.bare = outline'.bare ∧ Outline.bareAll rest = Outline.bareAll rest' := by
      cases outlines' <;> simp_all [Outline.bareAll]
    rw [Outline.regularAll, Bool.and_eq_true] at hregular
    rw [Fragment.recordAll, Fragment.recordAll] at hm ⊢
    have hfirst := Simulates.record hP hregular.1 hfirstBare (fun he => (List.cons.inj (hexact he)).1) h hscope
      (hm.of_grows (grows_recordAll _ _ _) (grows_recordAll _ _ _))
    exact Simulates.recordAll hP hregular.2 hrestBare (fun he => (List.cons.inj (hexact he)).2) hfirst
      (hscope.mono (grows_record _ _ _) (grows_record _ _ _)) hm

end

/-! ### Resolution -/

/-- Corresponding nodes, with their ids. -/
theorem Simulates.nodes_paired (h : Simulates exact P a b) (hm : Matchable exact P a b) :
    List.Forall₂ (fun x y => x.Alike exact y ∧ P x.id y.id) a.nodes b.nodes := by
  refine List.forall₂_iff_zip.2 ⟨h.nodes.length_eq, fun {x y} hxy => ?_⟩
  have halike := (List.forall₂_iff_zip.1 h.nodes).2 hxy
  exact ⟨halike, hm.paired (x, y) hxy halike⟩

theorem Simulates.rel_target? (hP : BiUnique P) (h : Simulates exact P a b) (hm : Matchable exact P a b)
    {p q : PendingReference} (hpq : p.Alike P q) :
    Option.Rel (fun x y => x.Alike exact y ∧ P x.id y.id) (a.target? p) (b.target? q) := by
  have haccepted := forall₂_filter (h.nodes_paired hm)
    (p := fun node => node.kind.isSymbol && node.kind != .endpoint && node.name == p.name
      && p.reference.accepts node.kind)
    (q := fun node => node.kind.isSymbol && node.kind != .endpoint && node.name == q.name
      && q.reference.accepts node.kind)
    fun x y hxy => by rw [hxy.1.kind, hxy.1.name, hpq.name, hpq.reference]
  have hdeclared {parent parent' : String} (hparent : P parent parent') (x y : Node)
      (hxy : x.Alike exact y ∧ P x.id y.id) :
      (a.parentOf? x.id == some parent) = (b.parentOf? y.id == some parent') := by
    have hrel := h.rel_parentOf? hP hxy.2
    generalize a.parentOf? x.id = o at hrel ⊢
    generalize b.parentOf? y.id = o' at hrel ⊢
    cases hrel with
    | none => rfl
    | some hid =>
      rw [Bool.eq_iff_iff, beq_iff_eq, beq_iff_eq, Option.some.injEq, Option.some.injEq]
      exact Relator.rel_eq hP hid hparent
  -- the same three look-ups on both sides: in the scope, in the file, anywhere
  unfold target?
  dsimp only
  exact rel_or (rel_or (rel_find? haccepted (hdeclared hpq.scope))
    (rel_find? haccepted (hdeclared h.fileId))) (rel_head? haccepted)

theorem Simulates.resolveOne (hP : BiUnique P) (h : Simulates exact P a b) (hm : Matchable exact P a b)
    (ha : Grows a a') (hb : Grows b b') (h' : Simulates exact P a' b') (hm' : Matchable exact P a' b')
    {p q : PendingReference} (hpq : p.Alike P q) (hp : a.Speaks p.source) (hq : b.Speaks q.source) :
    Simulates exact P (a.resolveOne a' p) (b.resolveOne b' q) := by
  have hrel := h.rel_target? hP hm hpq
  have hlisten {fragment : Fragment} {pending : PendingReference} {target : Node}
      (htarget : fragment.target? pending = some target) (kind : EdgeKind) :
      fragment.Listens kind target.id none := by
    obtain ⟨hmem, hsymbol⟩ := target?_eq_some htarget
    refine ⟨target, hmem, rfl, flowFits_none fun _ hbranch => ?_⟩
    rw [hbranch] at hsymbol
    cases hsymbol
  -- a name is found on both sides or on neither, so the mixed cases cannot be
  unfold Fragment.resolveOne
  cases hx : a.target? p with
  | none =>
    rw [hx] at hrel
    cases hy : b.target? q with
    | none => exact h'
    | some y =>
      rw [hy] at hrel
      cases hrel
  | some x =>
    rw [hx] at hrel
    cases hy : b.target? q with
    | none =>
      rw [hy] at hrel
      cases hrel
    | some y =>
      rw [hy] at hrel
      cases hrel with
      | some hxy =>
        dsimp only
        rw [← hpq.reference, ← hxy.1.kind]
        exact h'.addEdge hP hm' ⟨hpq.source, hp.mono ha, hq.mono hb⟩
          ⟨hxy.2, (hlisten hx _).mono ha, (hlisten hy _).mono hb⟩

/-- **Resolving the references of two corresponding fragments keeps them corresponding.** -/
theorem Simulates.resolved (hP : BiUnique P) (h : Simulates exact P a b)
    (hm : Matchable exact P a.resolved b.resolved) : Simulates exact P a.resolved b.resolved := by
  have hm₀ : Matchable exact P a b := hm.of_grows (grows_resolved a) (grows_resolved b)
  -- names are looked up in the fragments as they were, while the edges go to those that grow
  have hfold : ∀ {pending pending' : List PendingReference},
      List.Forall₂ (PendingReference.Alike P) pending pending' →
      (∀ reference ∈ pending, a.Speaks reference.source) →
      (∀ reference ∈ pending', b.Speaks reference.source) →
      ∀ {a' b' : Fragment}, Simulates exact P a' b' → Grows a a' → Grows b b' →
        Matchable exact P (pending.foldl a.resolveOne a') (pending'.foldl b.resolveOne b') →
        Simulates exact P (pending.foldl a.resolveOne a') (pending'.foldl b.resolveOne b') := by
    intro pending pending' hpending
    induction hpending with
    | nil =>
      intro _ _ a' b' h' _ _ _
      exact h'
    | @cons p q rest rest' hpq _ ih =>
      intro hleft hright a' b' h' ha hb hm'
      rw [List.forall_mem_cons] at hleft hright
      rw [List.foldl_cons, List.foldl_cons] at hm' ⊢
      have hone := h.resolveOne hP hm₀ ha hb h' (hm'.of_grows
        ((grows_resolveOne a a' p).trans (grows_foldl_resolveOne a rest _))
        ((grows_resolveOne b b' q).trans (grows_foldl_resolveOne b rest' _))) hpq hleft.1 hright.1
      exact ih hleft.2 hright.2 hone (ha.trans (grows_resolveOne _ _ _))
        (hb.trans (grows_resolveOne _ _ _)) hm'
  exact hfold h.pending h.left.pending h.right.pending h (.refl a) (.refl b) hm

/-! ### Files -/

theorem modulePath_ofFile (label : SnapshotLabel) (path : String) (language : Language)
    (source signature : String) (metadata : Metadata) :
    (ofFile label path language source signature metadata).modulePath = Path.modulePath path := by
  simp only [ofFile, push]

theorem simulates_ofFile {label label' : SnapshotLabel} {path : String} {language language' : Language}
    {source source' signature : String} {metadata metadata' : Metadata}
    (hexact : exact → source = source')
    (hm : Matchable exact P (ofFile label path language source signature metadata)
      (ofFile label' path language' source' signature metadata')) :
    Simulates exact P (ofFile label path language source signature metadata)
      (ofFile label' path language' source' signature metadata') := by
  unfold ofFile at hm ⊢
  dsimp only at hm ⊢
  have hlines (he : exact) : some (1, max (Text.lines source).length 1) =
      some (1, max (Text.lines source').length 1) := by rw [hexact he]
  have halike := alike_symbol (a := ⟨label, path, language, Path.modulePath path,
    Node.makeId label.snapshotId .file path path, [], [], .empty, []⟩) (b := ⟨label', path, language',
    Path.modulePath path, Node.makeId label'.snapshotId .file path path, [], [], .empty, []⟩) rfl .file
    (Path.lastPart path) (some (1, max (Text.lines source).length 1))
    (some (1, max (Text.lines source').length 1)) signature metadata metadata' (by decide)
    (Name.Alike.refl exact path) (fun _ => rfl) hlines
  exact ⟨sound_ofFile _ _ _ _ _ _, sound_ofFile _ _ _ _ _ _, rfl,
    hm.rel_push rfl halike, .cons halike .nil, .nil, .nil, .nil⟩

/-- Corresponding files as scopes. -/
theorem Simulates.fileScope (h : Simulates exact P a b) (hmodule : a.modulePath = b.modulePath) :
    ScopeAlike exact P a b a.fileScope b.fileScope := by
  refine ⟨h.speak_fileId, h.speak_fileId, ?_⟩
  unfold Fragment.fileScope
  rw [hmodule]
  exact Name.Alike.refl exact b.modulePath

/-- **Two files with outlines that differ in their places only have corresponding fragments.** -/
theorem simulates_ofTree (hP : BiUnique P) {label label' : SnapshotLabel} {path text text' : String}
    {tree tree' : SourceTree} (hsignature : tree.signature = tree'.signature)
    (houtlines : Outline.bareAll ((Language.ofPath path).outlines tree) =
      Outline.bareAll ((Language.ofPath path).outlines tree'))
    (hexact : exact → text = text' ∧ tree = tree')
    (hm : Matchable exact P (ofTree label path text tree) (ofTree label' path text' tree')) :
    Simulates exact P (ofTree label path text tree) (ofTree label' path text' tree') := by
  have hfile := hm.of_grows (grows_ofTree label path text tree) (grows_ofTree label' path text' tree')
  rw [← hsignature] at hfile
  have hwhole := simulates_ofFile (fun he => (hexact he).1) hfile
  rw [ofTree, ofTree, ← hsignature] at hm ⊢
  have hscope := hwhole.fileScope ((modulePath_ofFile _ _ _ _ _ _).trans (modulePath_ofFile _ _ _ _ _ _).symm)
  exact Simulates.resolved hP (Simulates.recordAll hP (Language.regularAll_outlines _ _) houtlines
    (fun he => by rw [(hexact he).2]) hwhole hscope
    (hm.of_grows (grows_resolved _) (grows_resolved _))) hm

/-! ### The nodes of two fragments by their number -/

/-- The ids of nodes with the same number that are alike. -/
def Joined (exact : Prop) (a b : Fragment) (i j : String) : Prop :=
  ∃ pair ∈ a.nodes.zip b.nodes, pair.1.Alike exact pair.2 ∧ pair.1.id = i ∧ pair.2.id = j

theorem matchable_joined (ha : a.StandAlone) (hb : ¬exact → b.StandAlone) :
    Matchable exact (Joined exact a b) a b :=
  ⟨fun pair hpair halike => ⟨pair, hpair, halike, rfl, rfl⟩, ha, hb⟩

/-- In an exact comparison ids are joined by what they say. -/
theorem biUnique_joined_of_exact (he : exact) (ha : a.Sound) (hb : b.Sound) :
    BiUnique (Joined exact a b) := by
  have hsame {x x' y y' : Node} (hx : x ∈ a.nodes) (hx' : x' ∈ a.nodes) (hy : y ∈ b.nodes)
      (hy' : y' ∈ b.nodes) (hxy : x.Alike exact y) (hxy' : x'.Alike exact y') :
      x.id = x'.id ↔ y.id = y'.id := by
    rw [(ha.nodes x hx).1, (ha.nodes x' hx').1, (hb.nodes y hy).1, (hb.nodes y' hy').1]
    unfold makeId
    rw [Node.makeId_inj, Node.makeId_inj, hxy.kind, hxy'.kind, hxy.qualifiedName.eq he,
      hxy'.qualifiedName.eq he]
  constructor
  · rintro i j i' ⟨⟨x, y⟩, hpair, hxy, rfl, rfl⟩ ⟨⟨x', y'⟩, hpair', hxy', rfl, hid⟩
    exact (hsame (List.of_mem_zip hpair).1 (List.of_mem_zip hpair').1 (List.of_mem_zip hpair).2
      (List.of_mem_zip hpair').2 hxy hxy').2 hid.symm
  · rintro i j j' ⟨⟨x, y⟩, hpair, hxy, rfl, rfl⟩ ⟨⟨x', y'⟩, hpair', hxy', hid, rfl⟩
    exact (hsame (List.of_mem_zip hpair).1 (List.of_mem_zip hpair').1 (List.of_mem_zip hpair).2
      (List.of_mem_zip hpair').2 hxy hxy').1 hid.symm

/-- Where ids are not repeated they are joined by the number of their node. -/
theorem biUnique_joined_of_nodup (ha : (a.nodes.map (·.id)).Nodup) (hb : (b.nodes.map (·.id)).Nodup) :
    BiUnique (Joined exact a b) := by
  have hnumber {pair pair' : Node × Node} (hpair : pair ∈ a.nodes.zip b.nodes)
      (hpair' : pair' ∈ a.nodes.zip b.nodes) : pair.1.id = pair'.1.id ↔ pair.2.id = pair'.2.id := by
    obtain ⟨i, hi, rfl⟩ := List.mem_iff_getElem.1 hpair
    obtain ⟨j, hj, rfl⟩ := List.mem_iff_getElem.1 hpair'
    simp only [List.getElem_zip]
    rw [List.length_zip, Nat.lt_min] at hi hj
    have hleft := @List.Nodup.getElem_inj_iff _ _ ha i (by simpa using hi.1) j (by simpa using hj.1)
    have hright := @List.Nodup.getElem_inj_iff _ _ hb i (by simpa using hi.2) j (by simpa using hj.2)
    rw [List.getElem_map, List.getElem_map] at hleft hright
    exact hleft.trans hright.symm
  constructor
  · rintro i j i' ⟨pair, hpair, -, rfl, rfl⟩ ⟨pair', hpair', -, rfl, hid⟩
    exact (hnumber hpair hpair').2 hid.symm
  · rintro i j j' ⟨pair, hpair, -, rfl, rfl⟩ ⟨pair', hpair', -, hid, rfl⟩
    exact (hnumber hpair hpair').1 hid.symm

/-- Joined ids are those of nodes that are alike. -/
theorem Joined.exists_alike {i j : String} (h : Joined exact a b i j) :
    ∃ x ∈ a.nodes, ∃ y ∈ b.nodes, x.Alike exact y ∧ x.id = i ∧ y.id = j := by
  obtain ⟨⟨x, y⟩, hpair, hrest⟩ := h
  exact ⟨x, (List.of_mem_zip hpair).1, y, (List.of_mem_zip hpair).2, hrest⟩

end StructuralDiff.Fragment
