import Mathlib.Data.List.Forall2
import Mathlib.Data.List.Nodup
import StructuralDiff.Proofs.Delta.Outcome
import StructuralDiff.Proofs.Fragment.Simulation
import StructuralDiff.Proofs.Source.Stream
import StructuralDiff.Proofs.Text.Utf8

/-!
# The snapshot of a list of files

Fragments are put together by their ids. Whatever the files are, the result is a valid snapshot.

* `valid_merge`: a merged snapshot is valid.
* `validate_ofFiles`: the snapshot of a list of files passes its own check.
* `nodes_ofFiles_at`, `edges_ofFiles_at`: what a file contributes, when its path is apart from the others.
* `separate_ofFiles`, `disjoint_edgeIds_ofFiles`: snapshots with different ids share no id of a node or edge.
-/

open Relator (BiUnique)

namespace StructuralDiff

namespace Snapshot

/-! ### Elements with different ids -/

section Distinct

variable {α : Type} {id : α → String}

theorem distinctBy_sublist (seen : List String) (l : List α) : (distinctBy id seen l).Sublist l := by
  induction l generalizing seen with
  | nil => exact .refl _
  | cons a rest ih =>
    rw [distinctBy]
    split
    · exact (ih seen).cons a
    · exact (ih _).cons_cons a

theorem mem_map_distinctBy {seen : List String} {l : List α} {i : String} :
    i ∈ (distinctBy id seen l).map id ↔ i ∈ l.map id ∧ i ∉ seen := by
  induction l generalizing seen with
  | nil => simp [distinctBy]
  | cons a rest ih =>
    by_cases hseen : id a ∈ seen
    · rw [distinctBy, if_pos (by simpa using hseen), ih, List.map_cons, List.mem_cons]
      constructor
      · rintro ⟨hrest, hi⟩
        exact ⟨.inr hrest, hi⟩
      · rintro ⟨rfl | hrest, hi⟩
        · exact absurd hseen hi
        · exact ⟨hrest, hi⟩
    · rw [distinctBy, if_neg (by simpa using hseen), List.map_cons, List.mem_cons, ih, List.map_cons,
        List.mem_cons, List.mem_cons, not_or]
      constructor
      · rintro (rfl | ⟨hrest, -, hi⟩)
        · exact ⟨.inl rfl, hseen⟩
        · exact ⟨.inr hrest, hi⟩
      · rintro ⟨rfl | hrest, hi⟩
        · exact .inl rfl
        · by_cases heq : i = id a
          · exact .inl heq
          · exact .inr ⟨hrest, heq, hi⟩

theorem nodup_map_distinctBy (seen : List String) (l : List α) :
    ((distinctBy id seen l).map id).Nodup := by
  induction l generalizing seen with
  | nil => exact List.nodup_nil
  | cons a rest ih =>
    rw [distinctBy]
    split
    · exact ih seen
    · rw [List.map_cons, List.nodup_cons]
      exact ⟨fun hmem => (mem_map_distinctBy.1 hmem).2 List.mem_cons_self, ih _⟩

theorem distinctBy_of_nodup {seen : List String} {l : List α} (h : (l.map id).Nodup)
    (hseen : ∀ a ∈ l, id a ∉ seen) : distinctBy id seen l = l := by
  induction l generalizing seen with
  | nil => rfl
  | cons a rest ih =>
    rw [List.map_cons, List.nodup_cons] at h
    rw [List.forall_mem_cons] at hseen
    rw [distinctBy, if_neg (by simpa using hseen.1), ih h.2 fun b hb => ?_]
    rw [List.mem_cons, not_or]
    exact ⟨fun heq => h.1 (heq ▸ List.mem_map_of_mem hb), hseen.2 b hb⟩

/-- Only those ids that occur matter among the ids that have been seen. -/
theorem distinctBy_congr {seen seen' : List String} {l : List α}
    (h : ∀ a ∈ l, id a ∈ seen ↔ id a ∈ seen') : distinctBy id seen l = distinctBy id seen' l := by
  induction l generalizing seen seen' with
  | nil => rfl
  | cons a rest ih =>
    rw [List.forall_mem_cons] at h
    have hcontains : seen.contains (id a) = seen'.contains (id a) := by
      rw [Bool.eq_iff_iff, List.contains_iff_mem, List.contains_iff_mem, h.1]
    rw [distinctBy, distinctBy, hcontains]
    split
    · exact ih h.2
    · rw [ih fun b hb => ?_]
      rw [List.mem_cons, List.mem_cons, h.2 b hb]

/-- A part of a list that shares no ids with the rest can be looked at on its own. -/
theorem filter_distinctBy {p : α → Bool} {seen : List String} {l : List α}
    (h : ∀ a ∈ l, ∀ b ∈ l, p a = true → p b = false → id a ≠ id b) :
    (distinctBy id seen l).filter p = distinctBy id seen (l.filter p) := by
  induction l generalizing seen with
  | nil => rfl
  | cons a rest ih =>
    have hrest : ∀ b ∈ rest, ∀ c ∈ rest, p b = true → p c = false → id b ≠ id c := fun b hb c hc =>
      h b (List.mem_cons_of_mem _ hb) c (List.mem_cons_of_mem _ hc)
    cases hp : p a with
    | true =>
      rw [distinctBy, List.filter_cons_of_pos hp, distinctBy]
      split
      · exact ih hrest
      · rw [List.filter_cons_of_pos hp, ih hrest]
    | false =>
      have hneg : ¬p a = true := by simp [hp]
      rw [distinctBy, List.filter_cons_of_neg hneg]
      split
      · exact ih hrest
      · rw [List.filter_cons_of_neg hneg, ih hrest]
        refine distinctBy_congr fun b hb => ?_
        rw [List.mem_filter] at hb
        have hne := h b (List.mem_cons_of_mem _ hb.1) a List.mem_cons_self hb.2 hp
        rw [List.mem_cons, or_iff_right hne]

/-- Lists that are related one by one lose corresponding elements. -/
theorem forall₂_distinctBy {P : String → String → Prop} (hP : BiUnique P) {R : α → α → Prop}
    (hR : ∀ a b, R a b → P (id a) (id b)) {seen seen' : List String} {l l' : List α}
    (hseen : List.Forall₂ P seen seen') (h : List.Forall₂ R l l') :
    List.Forall₂ R (distinctBy id seen l) (distinctBy id seen' l') := by
  induction h generalizing seen seen' with
  | nil => exact .nil
  | @cons a b rest rest' hab _ ih =>
    have hcontains : seen.contains (id a) = seen'.contains (id b) := by
      clear ih
      induction hseen with
      | nil => rfl
      | @cons i j _ _ hij _ ih' =>
        have hhead : (id a == i) = (id b == j) := by
          rw [Bool.eq_iff_iff, beq_iff_eq, beq_iff_eq]
          exact Relator.rel_eq hP (hR a b hab) hij
        rw [List.contains_cons, List.contains_cons, hhead, ih']
    rw [distinctBy, distinctBy, hcontains]
    split
    · exact ih hseen
    · exact .cons hab (ih (.cons (hR a b hab) hseen))

end Distinct

/-! ### Merged fragments -/

section Merge

variable {label : SnapshotLabel} {fragments : List Fragment}

theorem mem_nodeIds_merge {id : String} : id ∈ (merge label fragments).nodeIds ↔
    ∃ fragment ∈ fragments, ∃ node ∈ fragment.nodes, node.id = id := by
  have h : id ∈ (merge label fragments).nodeIds ↔ _ := mem_map_distinctBy
  rw [h, List.mem_map]
  constructor
  · rintro ⟨⟨node, hnode, rfl⟩, -⟩
    obtain ⟨fragment, hfragment, hmem⟩ := List.mem_flatMap.1 hnode
    exact ⟨fragment, hfragment, node, hmem, rfl⟩
  · rintro ⟨fragment, hfragment, node, hmem, rfl⟩
    exact ⟨⟨node, List.mem_flatMap.2 ⟨fragment, hfragment, hmem⟩, rfl⟩, List.not_mem_nil⟩

/-- **A merged snapshot is valid.** -/
theorem valid_merge (label : SnapshotLabel) (fragments : List Fragment) :
    (merge label fragments).Valid := by
  have hends : ∀ edge ∈ (merge label fragments).edges,
      edge.source ∈ (merge label fragments).nodeIds ∧ edge.target ∈ (merge label fragments).nodeIds := by
    intro edge hedge
    have hkept := (List.mem_filter.1 ((distinctBy_sublist [] _).subset hedge)).2
    rwa [Bool.and_eq_true, List.contains_iff_mem, List.contains_iff_mem] at hkept
  exact ⟨nodup_map_distinctBy _ _, nodup_map_distinctBy _ _, fun edge hedge => (hends edge hedge).1,
    fun edge hedge => (hends edge hedge).2⟩

/-- No edge of a sound fragment is left out for a missing endpoint. -/
theorem edges_merge (h : ∀ fragment ∈ fragments, fragment.Sound) :
    (merge label fragments).edges = distinctBy Edge.id [] (fragments.flatMap (·.edges)) := by
  have hall : (fragments.flatMap (·.edges)).filter (fun edge =>
      (merge label fragments).nodeIds.contains edge.source &&
        (merge label fragments).nodeIds.contains edge.target) = fragments.flatMap (·.edges) := by
    refine List.filter_eq_self.2 fun edge hedge => ?_
    obtain ⟨fragment, hfragment, hmem⟩ := List.mem_flatMap.1 hedge
    obtain ⟨⟨first, hfirst, hsource, -⟩, ⟨last, hlast, htarget, -⟩, -⟩ :=
      (h fragment hfragment).edges edge hmem
    rw [Bool.and_eq_true, List.contains_iff_mem, List.contains_iff_mem, mem_nodeIds_merge,
      mem_nodeIds_merge]
    exact ⟨⟨fragment, hfragment, first, hfirst, hsource⟩, ⟨fragment, hfragment, last, hlast, htarget⟩⟩
  exact congrArg (distinctBy Edge.id []) hall

end Merge

/-! ### Files -/

section Files

variable {config : AnalysisConfig} {label : SnapshotLabel} {files : List SourceFile}

theorem valid_ofFiles (config : AnalysisConfig) (label : SnapshotLabel) (files : List SourceFile) :
    (ofFiles config label files).Valid :=
  valid_merge _ _

/-- **The snapshot of any files passes its own check**: paths may repeat, and files may fail in any way. -/
theorem validate_ofFiles (config : AnalysisConfig) (label : SnapshotLabel) (files : List SourceFile) :
    (ofFiles config label files).validate = .ok () ∧
      (ofFiles config label files).nodeIds.Nodup ∧
      (ofFiles config label files).edgeIds.Nodup ∧
      ∀ edge ∈ (ofFiles config label files).edges,
        edge.source ∈ (ofFiles config label files).nodeIds ∧
        edge.target ∈ (ofFiles config label files).nodeIds := by
  have hvalid := valid_ofFiles config label files
  exact ⟨validate_eq_ok_iff.2 hvalid, hvalid.nodeIds_nodup, hvalid.edgeIds_nodup,
    fun edge hedge => ⟨hvalid.source_mem edge hedge, hvalid.target_mem edge hedge⟩⟩

/-- The fragment that a file contributes. -/
abbrev fragmentOf (config : AnalysisConfig) (label : SnapshotLabel) (file : SourceFile) : Fragment :=
  Fragment.ofSourceFile config.maxFileBytes label file

theorem label_fragmentOf (file : SourceFile) : (fragmentOf config label file).label = label :=
  congrArg (·.1) (Fragment.origin_ofSourceFile _ label file)

theorem path_fragmentOf (file : SourceFile) : (fragmentOf config label file).path = file.path :=
  congrArg (·.2.1) (Fragment.origin_ofSourceFile _ label file)

theorem sound_fragmentOf (file : SourceFile) : (fragmentOf config label file).Sound :=
  Fragment.sound_ofSourceFile _ _ _

theorem nodes_ofFiles : (ofFiles config label files).nodes =
    distinctBy Node.id [] (files.flatMap fun file => (fragmentOf config label file).nodes) := by
  rw [ofFiles, merge, List.flatMap_map]

theorem edges_ofFiles : (ofFiles config label files).edges =
    distinctBy Edge.id [] (files.flatMap fun file => (fragmentOf config label file).edges) := by
  rw [ofFiles, edges_merge, List.flatMap_map]
  intro fragment hfragment
  obtain ⟨file, -, rfl⟩ := List.mem_map.1 hfragment
  exact sound_fragmentOf file

/-- What the ids of the nodes of a file say. -/
theorem id_of_mem_nodes {file : SourceFile} {node : Node}
    (h : node ∈ (fragmentOf config label file).nodes) :
    node.id = Node.makeId label.snapshotId node.kind file.path node.qualifiedName ∧
      node.filePath = file.path := by
  have hsound := (sound_fragmentOf file).nodes node h
  rw [Fragment.makeId, label_fragmentOf, path_fragmentOf] at hsound
  exact hsound

/-- What the ids of the edges of a file say. -/
theorem id_of_mem_edges {file : SourceFile} {edge : Edge}
    (h : edge ∈ (fragmentOf config label file).edges) :
    (∃ kind name, edge.id = Edge.makeId edge.kind (Node.makeId label.snapshotId kind file.path name)
      edge.target edge.flowType?) ∧ edge.filePath = some file.path := by
  obtain ⟨⟨first, hfirst, hsource, -⟩, -, hid, hpath⟩ := (sound_fragmentOf file).edges edge h
  rw [path_fragmentOf] at hpath
  rw [← hsource, (id_of_mem_nodes hfirst).1] at hid
  exact ⟨⟨first.kind, first.qualifiedName, hid⟩, hpath⟩

/-- Of what the files give, a part that only one file can give is what this file gives. -/
theorem filter_flatMap_files {α : Type} {p : α → Bool} {g : SourceFile → List α} {file : SourceFile}
    (hnodup : (files.map (·.path)).Nodup) (hmem : file ∈ files) (hfile : ∀ a ∈ g file, p a = true)
    (hother : ∀ other ∈ files, other.path ≠ file.path → ∀ a ∈ g other, p a = false) :
    (files.flatMap g).filter p = g file := by
  obtain ⟨before, after, rfl⟩ := List.append_of_mem hmem
  have hne : ∀ other ∈ before ++ after, other.path ≠ file.path := by
    rw [List.map_append, List.map_cons] at hnodup
    have hnot := (List.nodup_cons.1 (List.perm_middle.nodup_iff.1 hnodup)).1
    rintro other hmem heq
    rw [← List.map_append] at hnot
    exact hnot (heq ▸ List.mem_map_of_mem hmem)
  have hnone {part : List SourceFile} (hpart : ∀ other ∈ part, other ∈ before ++ after) :
      (part.flatMap g).filter p = [] := by
    rw [List.filter_eq_nil_iff]
    intro a ha
    obtain ⟨other, hmem, hg⟩ := List.mem_flatMap.1 ha
    have hin : other ∈ before ++ file :: after := by
      rcases List.mem_append.1 (hpart other hmem) with hleft | hright
      · exact List.mem_append_left _ hleft
      · exact List.mem_append_right _ (List.mem_cons_of_mem _ hright)
    simp [hother other hin (hne other (hpart other hmem)) a hg]
  rw [List.flatMap_append, List.flatMap_cons, List.filter_append, List.filter_append,
    hnone fun other => List.mem_append_left _, hnone fun other => List.mem_append_right _,
    List.filter_eq_self.2 hfile, List.nil_append, List.append_nil]

section At

variable {file : SourceFile} (hnodup : (files.map (·.path)).Nodup) (hmem : file ∈ files)
  (hapart : ∀ other ∈ files, other.path ≠ file.path → Path.Apart file.path other.path)

include hnodup hmem hapart

/-- **The nodes with the path of a file are those that the file contributes.** -/
theorem nodes_ofFiles_at : (ofFiles config label files).nodes.filter (·.filePath = file.path) =
    distinctBy Node.id [] (fragmentOf config label file).nodes := by
  rw [nodes_ofFiles, filter_distinctBy, filter_flatMap_files hnodup hmem]
  · intro node hnode
    simp [(id_of_mem_nodes hnode).2]
  · intro other _ hne node hnode
    simp [(id_of_mem_nodes hnode).2, hne]
  · intro a ha b hb hpa hpb
    obtain ⟨fa, hfa, ha⟩ := List.mem_flatMap.1 ha
    obtain ⟨fb, hfb, hb⟩ := List.mem_flatMap.1 hb
    have hida := id_of_mem_nodes ha
    have hidb := id_of_mem_nodes hb
    rw [decide_eq_true_eq, hida.2] at hpa
    rw [decide_eq_false_iff_not, hidb.2] at hpb
    rw [hida.1, hidb.1, hpa]
    exact Node.makeId_ne_of_apart (hapart fb hfb hpb) _ _ _ _ _

/-- **The edges with the path of a file are those that the file contributes.** -/
theorem edges_ofFiles_at : (ofFiles config label files).edges.filter (·.filePath = some file.path) =
    (fragmentOf config label file).edges := by
  rw [edges_ofFiles, filter_distinctBy, filter_flatMap_files hnodup hmem]
  · exact distinctBy_of_nodup (sound_fragmentOf file).edgeIds (by simp)
  · intro edge hedge
    simp [(id_of_mem_edges hedge).2]
  · intro other _ hne edge hedge
    simp [(id_of_mem_edges hedge).2, hne]
  · intro a ha b hb hpa hpb
    obtain ⟨fa, hfa, ha⟩ := List.mem_flatMap.1 ha
    obtain ⟨fb, hfb, hb⟩ := List.mem_flatMap.1 hb
    obtain ⟨⟨ka, na, hida⟩, hpatha⟩ := id_of_mem_edges ha
    obtain ⟨⟨kb, nb, hidb⟩, hpathb⟩ := id_of_mem_edges hb
    rw [decide_eq_true_eq, hpatha, Option.some.injEq] at hpa
    rw [decide_eq_false_iff_not, hpathb, Option.some.injEq] at hpb
    rw [hida, hidb, hpa]
    exact Edge.makeId_ne_of_apart (hapart fb hfb hpb)

/-- The id of a node of the file stands for this node, or for one that is the same endpoint. -/
theorem endpoint_ofFiles {node : Node} (hnode : node ∈ (fragmentOf config label file).nodes) :
    (ofFiles config label files).endpoint node.id = node.endpoint := by
  have hin : node.id ∈ (distinctBy Node.id [] (fragmentOf config label file).nodes).map Node.id :=
    mem_map_distinctBy.2 ⟨List.mem_map_of_mem hnode, List.not_mem_nil⟩
  obtain ⟨found, hfound, hid⟩ := List.mem_map.1 hin
  have hfragment := (distinctBy_sublist _ _).subset hfound
  rw [← nodes_ofFiles_at hnodup hmem hapart] at hfound
  have hsome := ((valid_ofFiles config label files).node?_eq_some_iff).2
    ⟨(List.mem_filter.1 hfound).1, hid⟩
  rw [Snapshot.endpoint, hsome]
  obtain ⟨hids, hpath⟩ := id_of_mem_nodes hnode
  obtain ⟨hids', hpath'⟩ := id_of_mem_nodes hfragment
  rw [hids, hids', Node.makeId_inj] at hid
  simp only [Node.endpoint, hid.1, hid.2, hpath, hpath']

/-- An edge of the file starts in the file. -/
theorem filePath_source {edge : Edge} (hedge : edge ∈ (ofFiles config label files).edges)
    (hpath : edge.filePath = some file.path) :
    ((ofFiles config label files).edgeKey edge).source.filePath = file.path := by
  have hin : edge ∈ (fragmentOf config label file).edges := by
    rw [← edges_ofFiles_at hnodup hmem hapart]
    exact List.mem_filter.2 ⟨hedge, by simpa using hpath⟩
  obtain ⟨⟨first, hfirst, hsource, -⟩, -⟩ := (sound_fragmentOf file).edges edge hin
  rw [Snapshot.edgeKey, ← hsource, endpoint_ofFiles hnodup hmem hapart hfirst]
  exact (id_of_mem_nodes hfirst).2

/-- Only an edge of the file starts in the file. -/
theorem mem_edges_of_filePath_source {edge : Edge} (hedge : edge ∈ (ofFiles config label files).edges)
    (hpath : ((ofFiles config label files).edgeKey edge).source.filePath = file.path) :
    edge ∈ (fragmentOf config label file).edges := by
  obtain ⟨found, hfound, hid⟩ := List.mem_map.1 ((valid_ofFiles config label files).source_mem edge hedge)
  rw [Snapshot.edgeKey, Snapshot.endpoint,
    ((valid_ofFiles config label files).node?_eq_some_iff).2 ⟨hfound, hid⟩] at hpath
  have hnode : found ∈ (fragmentOf config label file).nodes := by
    have hat : found ∈ (ofFiles config label files).nodes.filter (·.filePath = file.path) :=
      List.mem_filter.2 ⟨hfound, by simpa [Node.endpoint] using hpath⟩
    rw [nodes_ofFiles_at hnodup hmem hapart] at hat
    exact (distinctBy_sublist _ _).subset hat
  rw [edges_ofFiles] at hedge
  obtain ⟨other, hother, hin⟩ := List.mem_flatMap.1 ((distinctBy_sublist _ _).subset hedge)
  obtain ⟨⟨first, hfirst, hsource, -⟩, -⟩ := (sound_fragmentOf other).edges edge hin
  -- Two files that are apart share no id, so it is the same file.
  have hsame : other.path = file.path := by
    by_contra hne
    rw [← hsource, (id_of_mem_nodes hnode).1, (id_of_mem_nodes hfirst).1] at hid
    exact Node.makeId_ne_of_apart (hapart other hother hne) _ _ _ _ _ hid
  rw [← List.inj_on_of_nodup_map hnodup hother hmem hsame]
  exact hin

/-- The edges under a key that starts in the file are edges of the file. -/
theorem count_edgeKey_ofFiles {key : EdgeKey} (hkey : key.source.filePath = file.path) :
    ((ofFiles config label files).edges.map (ofFiles config label files).edgeKey).count key =
      ((fragmentOf config label file).edges.map (ofFiles config label files).edgeKey).count key := by
  simp only [← edges_ofFiles_at hnodup hmem hapart, List.count_eq_countP, List.countP_map,
    List.countP_filter]
  refine List.countP_congr fun edge hedge => ?_
  rw [Function.comp_apply, Bool.and_eq_true, decide_eq_true_eq, beq_iff_eq]
  refine ⟨fun heq => ⟨heq, ?_⟩, fun h => h.1⟩
  exact (id_of_mem_edges (mem_edges_of_filePath_source hnodup hmem hapart hedge (heq ▸ hkey))).2

end At

/-! ### Corresponding files of two snapshots -/

/-- **Corresponding edges of corresponding files have the same keys.** -/
theorem map_edgeKey_eq {config' : AnalysisConfig} {label' : SnapshotLabel} {files' : List SourceFile}
    {exact : Prop} {file file' : SourceFile} (hnodup : (files.map (·.path)).Nodup)
    (hnodup' : (files'.map (·.path)).Nodup) (hmem : file ∈ files) (hmem' : file' ∈ files')
    (hapart : ∀ other ∈ files, other.path ≠ file.path → Path.Apart file.path other.path)
    (hapart' : ∀ other ∈ files', other.path ≠ file'.path → Path.Apart file'.path other.path)
    (h : Fragment.Simulates exact
      (Fragment.Joined exact (fragmentOf config label file) (fragmentOf config' label' file'))
      (fragmentOf config label file) (fragmentOf config' label' file')) :
    (fragmentOf config label file).edges.map (ofFiles config label files).edgeKey =
      (fragmentOf config' label' file').edges.map (ofFiles config' label' files').edgeKey := by
  have hendpoint {i j : String}
      (hij : Fragment.Joined exact (fragmentOf config label file) (fragmentOf config' label' file') i j) :
      (ofFiles config label files).endpoint i = (ofFiles config' label' files').endpoint j := by
    obtain ⟨x, hx, y, hy, hxy, rfl, rfl⟩ := hij.exists_alike
    rw [endpoint_ofFiles hnodup hmem hapart hx, endpoint_ofFiles hnodup' hmem' hapart' hy,
      hxy.endpoint_eq]
  rw [← List.forall₂_eq_eq_eq, List.forall₂_map_left_iff, List.forall₂_map_right_iff]
  refine h.edges.imp fun edge edge' hedge => ?_
  rw [Snapshot.edgeKey, Snapshot.edgeKey, hedge.kind, hedge.flowType, hendpoint hedge.source,
    hendpoint hedge.target]

/-! ### Two snapshots -/

section Two

variable {config' : AnalysisConfig} {label' : SnapshotLabel} {files' : List SourceFile}
  (hcolon : ColonFree label.snapshotId) (hcolon' : ColonFree label'.snapshotId)
  (hne : label.snapshotId ≠ label'.snapshotId)

include hcolon hcolon' hne

/-- **Snapshots with different ids share no id of a node.** -/
theorem separate_ofFiles :
    Delta.Separate (ofFiles config label files) (ofFiles config' label' files') := by
  refine ⟨valid_ofFiles _ _ _, valid_ofFiles _ _ _, ?_⟩
  rintro id hold hnew
  obtain ⟨fragment, hfragment, node, hnode, rfl⟩ := mem_nodeIds_merge.1 hold
  obtain ⟨fragment', hfragment', node', hnode', hid⟩ := mem_nodeIds_merge.1 hnew
  obtain ⟨file, -, rfl⟩ := List.mem_map.1 hfragment
  obtain ⟨file', -, rfl⟩ := List.mem_map.1 hfragment'
  rw [(id_of_mem_nodes hnode).1, (id_of_mem_nodes hnode').1] at hid
  exact Node.makeId_ne_of_ne hcolon' hcolon hne.symm _ _ _ _ _ _ hid

/-- **Snapshots with different ids share no id of an edge.** -/
theorem disjoint_edgeIds_ofFiles :
    List.Disjoint (ofFiles config label files).edgeIds (ofFiles config' label' files').edgeIds := by
  rintro id hold hnew
  rw [edgeIds, edges_ofFiles, mem_map_distinctBy] at hold hnew
  obtain ⟨edge, hedge, rfl⟩ := List.mem_map.1 hold.1
  obtain ⟨edge', hedge', hid⟩ := List.mem_map.1 hnew.1
  obtain ⟨file, -, hmem⟩ := List.mem_flatMap.1 hedge
  obtain ⟨file', -, hmem'⟩ := List.mem_flatMap.1 hedge'
  obtain ⟨⟨kind, name, hids⟩, -⟩ := id_of_mem_edges hmem
  obtain ⟨⟨kind', name', hids'⟩, -⟩ := id_of_mem_edges hmem'
  rw [hids, hids'] at hid
  exact Edge.makeId_ne_of_ne hcolon' hcolon hne.symm hid

end Two

end Files

end Snapshot

/-! ### Files with a tree written out -/

/-- A file whose tree has the given rows. -/
def SourceFile.ofRows (path text : String) (rows : List SourceTree.Row) : SourceFile :=
  { path, bytes := text.toUTF8, tree := some (.ofRows text rows) }

theorem SourceFile.parsed_ofRows {maxFileBytes : Nat} {path text : String} {rows : List SourceTree.Row}
    (hsize : text.utf8ByteSize ≤ maxFileBytes) (hlanguage : (Language.ofPath path).isAnalyzable = true)
    (herror : (SourceTree.ofRows text rows).hasError = false) :
    (SourceFile.ofRows path text rows).parsed maxFileBytes = .ok (text, .ofRows text rows) := by
  simp [SourceFile.parsed, SourceFile.ofRows, Nat.not_lt.2 hsize, hlanguage, Text.ofBytes?_toByteArray,
    SourceTree.firstErrorLine?, herror]

/-- The fragment of a file with the given outlines. -/
def Fragment.withOutlines (label : SnapshotLabel) (file : SourceFile) (text : String)
    (outlines : List Outline) : Fragment :=
  let whole := ofFile label file.path (Language.ofPath file.path) text
    (file.tree.getD default).signature .empty
  (recordAll whole.fileScope outlines whole).resolved

/-- The extractors recurse along a measure, so a run on a written-out file starts from its outlines. -/
theorem Fragment.ofSourceFile_of_parsed {maxFileBytes : Nat} {file : SourceFile} {text : String}
    {outlines : List Outline} (hparsed : file.parsed maxFileBytes = .ok (text, file.tree.getD default))
    (houtlines : (Language.ofPath file.path).outlines (file.tree.getD default) = outlines)
    (label : SnapshotLabel) :
    ofSourceFile maxFileBytes label file = withOutlines label file text outlines := by
  rw [ofSourceFile, hparsed, ← houtlines]
  rfl

theorem Fragment.ofSourceFile_ofRows {maxFileBytes : Nat} {path text : String} {rows : List SourceTree.Row}
    {outlines : List Outline} (hsize : text.utf8ByteSize ≤ maxFileBytes)
    (hlanguage : (Language.ofPath path).isAnalyzable = true)
    (herror : (SourceTree.ofRows text rows).hasError = false)
    (houtlines : (Language.ofPath path).outlines (.ofRows text rows) = outlines) (label : SnapshotLabel) :
    ofSourceFile maxFileBytes label (.ofRows path text rows) =
      withOutlines label (.ofRows path text rows) text outlines :=
  ofSourceFile_of_parsed (SourceFile.parsed_ofRows hsize hlanguage herror) houtlines label

/-- A file with nothing but an import statement has its modules as outlines. -/
theorem Python.outlines_of_import {root : SourceTree} {modules : List String}
    (hkinds : root.namedChildren.map (·.kind) = ["import_statement"])
    (hmodules : root.namedChildren.flatMap importedModules = modules) :
    Language.python.outlines root = modules.map .imports := by
  obtain ⟨stmt, hroot, hkind⟩ := List.map_eq_singleton_iff.1 hkinds
  rw [hroot, List.flatMap_singleton] at hmodules
  rw [Language.outlines, hroot, outlines, outlines, List.append_nil, outline, hkind, if_pos (by decide), hmodules]

@[inherit_doc Python.outlines_of_import]
theorem Script.outlines_of_import {root : SourceTree} {module : String}
    (hkinds : root.children.map (fun stmt => (stmt.kind, stmt.named)) = [("import_statement", true)])
    (hmodule : (root.children.flatMap (·.childrenIn "source")).map (fun source => stringValue source.text) = [module]) :
    Language.javaScript.outlines root = [.imports module] := by
  obtain ⟨stmt, hroot, hstmt⟩ := List.map_eq_singleton_iff.1 hkinds
  obtain ⟨hkind, hnamed⟩ := Prod.mk.inj hstmt
  rw [hroot, List.flatMap_singleton] at hmodule
  obtain ⟨source, hsource, rfl⟩ := List.map_eq_singleton_iff.1 hmodule
  have hfirst : stmt.child? "source" = some source := by
    rw [SourceTree.child?, ← List.head?_filter]
    exact congrArg List.head? hsource
  rw [Language.outlines, hroot, outlines, if_pos hnamed, outlines, List.append_nil, outline, hkind,
    if_pos (by decide), sourceModule, hfirst]
  rfl

end StructuralDiff
