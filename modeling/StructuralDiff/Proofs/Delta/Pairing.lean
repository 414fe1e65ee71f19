import StructuralDiff.Proofs.Delta.Greedy
import StructuralDiff.Proofs.Standing

/-!
# The pairing of two sides

What `Pairing.ofSides` gives for two lists of nodes: two greedy rounds, the first by signature and position
and the second by signature alone, and a `zip` of what they leave over.

* `ofSides_old_perm`, `ofSides_new_perm`: every node is in one pair or is left over.
* `countP_signature_unchanged`, `countP_place_unchanged`: the unchanged pairs are as many as there can be,
  also among those at one position.
* `signature_ne_of_mem_left`: nodes that are left over on the two sides share no signature.
* `pairwise_oldLeft`, `modified_ofSides`: what is left over stands in order and is paired in this order.
* `unchanged_swap`, `oldLeft_swap`: exchanging the two sides exchanges the result.
-/

open scoped List

namespace StructuralDiff

/-! ### The order of nodes -/

namespace Node

/-- Where a node stands. -/
def standing (node : Node) : Standing :=
  ⟨node.position.1, node.position.2, node.id⟩

theorem standsBefore_eq (a b : Node) : a.standsBefore b = a.standing.le b.standing := rfl

theorem standsBefore_total (a b : Node) : (a.standsBefore b || b.standsBefore a) = true :=
  Standing.le_total a.standing b.standing

theorem standsBefore_trans (a b c : Node) (hab : a.standsBefore b = true)
    (hbc : b.standsBefore c = true) : a.standsBefore c = true := by
  rw [standsBefore_eq] at *
  exact Standing.le_trans hab hbc

/-- Two nodes of which neither stands after the other have the same id. -/
theorem id_eq_of_standsBefore {a b : Node} (hab : a.standsBefore b = true)
    (hba : b.standsBefore a = true) : a.id = b.id := by
  rw [standsBefore_eq] at hab hba
  exact Standing.name_eq_of_le hab hba

theorem pairwise_sorted (nodes : List Node) :
    (nodes.mergeSort standsBefore).Pairwise fun a b => a.standsBefore b = true :=
  List.pairwise_mergeSort standsBefore_trans standsBefore_total nodes

end Node

namespace Pairing

/-! ### The two rounds -/

theorem sameSignature_iff (o n : Node) : sameSignature o n = true ↔ n.signature = o.signature := by
  rw [sameSignature, beq_iff_eq]

/-- The class of a node in the first round. -/
def place (node : Node) : Option String × (Nat × Nat) :=
  (node.signature, node.position)

theorem samePlace_iff (o n : Node) : samePlace o n = true ↔ place n = place o := by
  rw [samePlace, Bool.and_eq_true, sameSignature_iff, place, place, Prod.mk.injEq]
  exact and_congr_right fun _ => beq_iff_eq

/-- The first round: the same signature at the same position. -/
def exactRound (old new : List Node) : Round :=
  greedy samePlace (old.mergeSort Node.standsBefore) (new.mergeSort Node.standsBefore)

/-- The second round: the same signature. -/
def similarRound (old new : List Node) : Round :=
  greedy sameSignature (exactRound old new).old (exactRound old new).new

/-- The old nodes without an unchanged partner. -/
def oldLeft (pairing : Pairing) : List Node :=
  pairing.modified.map Prod.fst ++ pairing.removed

/-- The new nodes without an unchanged partner. -/
def newLeft (pairing : Pairing) : List Node :=
  pairing.modified.map Prod.snd ++ pairing.added

section

variable (old new : List Node)

theorem unchanged_ofSides : (ofSides old new).unchanged =
    (exactRound old new).pairs ++ (similarRound old new).pairs := rfl

theorem oldLeft_ofSides : (ofSides old new).oldLeft = (similarRound old new).old :=
  Round.zip_old _ _

theorem newLeft_ofSides : (ofSides old new).newLeft = (similarRound old new).new :=
  Round.zip_new _ _

/-- **What is left over is paired in order.** -/
theorem modified_ofSides : (ofSides old new).modified =
    (ofSides old new).oldLeft.zip (ofSides old new).newLeft := by
  rw [oldLeft_ofSides, newLeft_ofSides]
  rfl

theorem removed_ofSides : (ofSides old new).removed =
    (ofSides old new).oldLeft.drop (ofSides old new).newLeft.length := by
  rw [oldLeft_ofSides, newLeft_ofSides]
  rfl

theorem added_ofSides : (ofSides old new).added =
    (ofSides old new).newLeft.drop (ofSides old new).oldLeft.length := by
  rw [oldLeft_ofSides, newLeft_ofSides]
  rfl

/-! ### Coverage -/

/-- Every old node is in one unchanged pair or is left over. -/
theorem ofSides_old_perm :
    (ofSides old new).unchanged.map Prod.fst ++ (ofSides old new).oldLeft ~ old := by
  rw [unchanged_ofSides, oldLeft_ofSides, List.map_append, List.append_assoc]
  have hsimilar : (similarRound old new).pairs.map Prod.fst ++ (similarRound old new).old ~
      (exactRound old new).old := greedy_old_perm _ _ _
  have hexact : (exactRound old new).pairs.map Prod.fst ++ (exactRound old new).old ~
      old.mergeSort Node.standsBefore := greedy_old_perm _ _ _
  exact ((hsimilar.append_left _).trans hexact).trans (List.mergeSort_perm _ _)

/-- Every new node is in one unchanged pair or is left over. -/
theorem ofSides_new_perm :
    (ofSides old new).unchanged.map Prod.snd ++ (ofSides old new).newLeft ~ new := by
  rw [unchanged_ofSides, newLeft_ofSides, List.map_append, List.append_assoc]
  have hsimilar : (similarRound old new).pairs.map Prod.snd ++ (similarRound old new).new ~
      (exactRound old new).new := greedy_new_perm _ _ _
  have hexact : (exactRound old new).pairs.map Prod.snd ++ (exactRound old new).new ~
      new.mergeSort Node.standsBefore := greedy_new_perm _ _ _
  exact ((hsimilar.append_left _).trans hexact).trans (List.mergeSort_perm _ _)

/-- What is left over stands in order. -/
theorem pairwise_oldLeft :
    (ofSides old new).oldLeft.Pairwise fun a b => a.standsBefore b = true := by
  rw [oldLeft_ofSides]
  exact (Node.pairwise_sorted old).sublist
    ((greedy_old_sublist _ _ _).trans (greedy_old_sublist _ _ _))

/-! ### Maximality -/

theorem signature_eq_of_mem_unchanged {pair : Node × Node}
    (h : pair ∈ (ofSides old new).unchanged) : pair.2.signature = pair.1.signature := by
  rw [unchanged_ofSides, List.mem_append] at h
  rcases h with h | h
  · have hplace := (samePlace_iff _ _).mp (fits_of_mem_greedy _ _ _ h)
    exact congrArg Prod.fst hplace
  · exact (sameSignature_iff _ _).mp (fits_of_mem_greedy _ _ _ h)

/-- Nodes that are left over on the two sides share no signature. -/
theorem signature_ne_of_mem_left {o n : Node} (ho : o ∈ (ofSides old new).oldLeft)
    (hn : n ∈ (ofSides old new).newLeft) : o.signature ≠ n.signature := by
  rw [oldLeft_ofSides] at ho
  rw [newLeft_ofSides] at hn
  exact ne_of_mem_greedy sameSignature_iff _ _ ho hn

theorem countP_exactRound_old (p : Node → Bool) :
    (exactRound old new).pairs.countP (fun pair => p pair.1) + (exactRound old new).old.countP p =
      old.countP p := by
  have h := (greedy_old_perm samePlace (old.mergeSort Node.standsBefore)
    (new.mergeSort Node.standsBefore)).countP_eq p
  rw [List.countP_append, List.countP_map, (List.mergeSort_perm _ _).countP_eq p] at h
  exact h

theorem countP_exactRound_new (p : Node → Bool) :
    (exactRound old new).pairs.countP (fun pair => p pair.2) + (exactRound old new).new.countP p =
      new.countP p := by
  have h := (greedy_new_perm samePlace (old.mergeSort Node.standsBefore)
    (new.mergeSort Node.standsBefore)).countP_eq p
  rw [List.countP_append, List.countP_map, (List.mergeSort_perm _ _).countP_eq p] at h
  exact h

/-- The first round takes as many nodes with a signature from the old side as from the new. -/
theorem countP_exactRound_pairs (s : Option String) :
    (exactRound old new).pairs.countP (fun pair => pair.2.signature = s) =
      (exactRound old new).pairs.countP (fun pair => pair.1.signature = s) := by
  refine List.countP_congr fun pair hpair => ?_
  have hplace := (samePlace_iff _ _).mp (fits_of_mem_greedy _ _ _ hpair)
  rw [show pair.2.signature = pair.1.signature from congrArg Prod.fst hplace]

/-- **As many unchanged pairs with a signature as there can be.** -/
theorem countP_signature_unchanged (s : Option String) :
    (ofSides old new).unchanged.countP (fun pair => pair.1.signature = s) =
      min (old.countP (·.signature = s)) (new.countP (·.signature = s)) := by
  have hold := countP_exactRound_old old new (·.signature = s)
  have hnew := countP_exactRound_new old new (·.signature = s)
  have hboth := countP_exactRound_pairs old new s
  have hsimilar : (similarRound old new).pairs.countP (fun pair => pair.1.signature = s) =
      min ((exactRound old new).old.countP (·.signature = s))
        ((exactRound old new).new.countP (·.signature = s)) :=
    countP_greedy_pairs sameSignature_iff _ _ s
  -- the first round takes as many from either side, and the second exhausts one of them
  rw [unchanged_ofSides, List.countP_append]
  omega

/-- The old nodes with a signature that are left over are those that the new side lacks. -/
theorem countP_signature_oldLeft (s : Option String) :
    (ofSides old new).oldLeft.countP (·.signature = s) =
      old.countP (·.signature = s) - new.countP (·.signature = s) := by
  have hall := (ofSides_old_perm old new).countP_eq (·.signature = s)
  have hpairs := countP_signature_unchanged old new s
  rw [List.countP_append, List.countP_map] at hall
  simp only [Function.comp_def] at hall
  omega

theorem countP_signature_newLeft (s : Option String) :
    (ofSides old new).newLeft.countP (·.signature = s) =
      new.countP (·.signature = s) - old.countP (·.signature = s) := by
  have hall := (ofSides_new_perm old new).countP_eq (·.signature = s)
  have hpairs := countP_signature_unchanged old new s
  have hboth : (ofSides old new).unchanged.countP (fun pair => pair.2.signature = s) =
      (ofSides old new).unchanged.countP (fun pair => pair.1.signature = s) :=
    List.countP_congr fun pair hpair => by rw [signature_eq_of_mem_unchanged old new hpair]
  rw [List.countP_append, List.countP_map] at hall
  simp only [Function.comp_def] at hall
  omega

/-- **As many of them at one position as there can be.** -/
theorem countP_place_unchanged (s : Option String) (p : Nat × Nat) :
    (ofSides old new).unchanged.countP
        (fun pair => pair.1.signature = s ∧ pair.1.position = p ∧ pair.2.position = p) =
      min (old.countP fun o => o.signature = s ∧ o.position = p)
        (new.countP fun n => n.signature = s ∧ n.position = p) := by
  have hplace : ∀ node : Node, place node = (s, p) ↔ node.signature = s ∧ node.position = p := by
    intro node
    rw [place, Prod.mk.injEq]
  have hexact : (exactRound old new).pairs.countP
        (fun pair => pair.1.signature = s ∧ pair.1.position = p ∧ pair.2.position = p) =
      min (old.countP (place · = (s, p))) (new.countP (place · = (s, p))) := by
    rw [← (List.mergeSort_perm old Node.standsBefore).countP_eq,
      ← (List.mergeSort_perm new Node.standsBefore).countP_eq, ← countP_greedy_pairs samePlace_iff]
    refine List.countP_congr fun pair hpair => ?_
    have hfit := (samePlace_iff _ _).mp (fits_of_mem_greedy _ _ _ hpair)
    have hpos : pair.2.position = pair.1.position := congrArg Prod.snd hfit
    simp [hplace, hpos]
  -- at a position where the first round left nodes on both sides it would have paired them
  have hsimilar : (similarRound old new).pairs.countP
      (fun pair => pair.1.signature = s ∧ pair.1.position = p ∧ pair.2.position = p) = 0 := by
    rw [List.countP_eq_zero]
    intro pair hpair hat
    obtain ⟨hs, hp₁, hp₂⟩ := of_decide_eq_true hat
    have hfit := (sameSignature_iff _ _).mp (fits_of_mem_greedy _ _ _ hpair)
    have ho : pair.1 ∈ (exactRound old new).old :=
      (greedy_old_perm _ _ _).subset (List.mem_append_left _ (List.mem_map_of_mem hpair))
    have hn : pair.2 ∈ (exactRound old new).new :=
      (greedy_new_perm _ _ _).subset (List.mem_append_left _ (List.mem_map_of_mem hpair))
    refine ne_of_mem_greedy samePlace_iff _ _ ho hn ?_
    rw [(hplace pair.1).mpr ⟨hs, hp₁⟩, (hplace pair.2).mpr ⟨hfit.trans hs, hp₂⟩]
  rw [unchanged_ofSides, List.countP_append, hexact, hsimilar]
  simp [hplace]

/-! ### Exchanging the two sides -/

variable {old new}

theorem exactRound_swap_old (hnew : new.Nodup) :
    (exactRound new old).old = (exactRound old new).new :=
  greedy_swap_old samePlace_iff _ _ ((List.mergeSort_perm _ _).nodup_iff.mpr hnew)

theorem similarRound_swap_old (hold : old.Nodup) (hnew : new.Nodup) :
    (similarRound new old).old = (similarRound old new).new := by
  have hsub : (exactRound old new).new.Nodup :=
    ((List.mergeSort_perm _ _).nodup_iff.mpr hnew).sublist (greedy_new_sublist _ _ _)
  rw [similarRound, exactRound_swap_old hnew, ← exactRound_swap_old hold]
  exact greedy_swap_old sameSignature_iff _ _ hsub

theorem oldLeft_swap (hold : old.Nodup) (hnew : new.Nodup) :
    (ofSides new old).oldLeft = (ofSides old new).newLeft := by
  rw [oldLeft_ofSides, newLeft_ofSides, similarRound_swap_old hold hnew]

/-- Exchanging the two sides exchanges the members of the unchanged pairs. -/
theorem unchanged_swap (hold : old.Nodup) (hnew : new.Nodup) :
    (ofSides new old).unchanged ~ (ofSides old new).unchanged.map Prod.swap := by
  rw [unchanged_ofSides, unchanged_ofSides, List.map_append]
  refine (greedy_swap_pairs samePlace_iff _ _).append ?_
  rw [similarRound, exactRound_swap_old hnew, ← exactRound_swap_old hold]
  exact greedy_swap_pairs sameSignature_iff _ _

/-- Exchanging the two sides exchanges the members of the modified pairs. -/
theorem modified_swap (hold : old.Nodup) (hnew : new.Nodup) :
    (ofSides new old).modified = (ofSides old new).modified.map Prod.swap := by
  rw [modified_ofSides, modified_ofSides, oldLeft_swap hold hnew, ← oldLeft_swap hnew hold,
    List.zip_swap]

/-- Exchanging the two sides makes removed nodes of added ones. -/
theorem removed_swap (hold : old.Nodup) (hnew : new.Nodup) :
    (ofSides new old).removed = (ofSides old new).added := by
  rw [removed_ofSides, added_ofSides, oldLeft_swap hold hnew, ← oldLeft_swap hnew hold]

end

/-- Paired with themselves, nodes are all unchanged. -/
theorem ofSides_self (nodes : List Node) : ofSides nodes nodes =
    { unchanged := (nodes.mergeSort Node.standsBefore).map fun o => (o, o)
      modified := [], removed := [], added := [] } := by
  have hexact := greedy_self samePlace (fun o => (samePlace_iff o o).mpr rfl)
    (nodes.mergeSort Node.standsBefore)
  simp [ofSides, hexact, greedy]

end Pairing

end StructuralDiff
