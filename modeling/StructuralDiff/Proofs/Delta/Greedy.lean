import Mathlib.Data.List.Zip
import StructuralDiff.Proofs.Delta.Grouping

/-!
# One round of greedy pairing

In a round each old node in turn takes the first free new node that fits it. The pool of free nodes
shrinks as it is used, so what a node gets depends on all nodes before it. When fitting means belonging to
the same class, the round is nevertheless easy to describe: class by class it is a `zip`.

* `greedy_old_perm`, `greedy_new_perm`: every node is paired once or left over once.
* `within_greedy`: inside a class the first old node gets the first new node, the second the second, and
  the longer side keeps its surplus.
* `greedy_swap_pairs`, `greedy_swap_old`: exchanging the two sides exchanges the result.
-/

open scoped List

namespace StructuralDiff.Pairing

/-! ### Taking the first element that fits -/

theorem takeFirst?_eq_none_iff {fits : Node → Bool} {l : List Node} :
    takeFirst? fits l = none ↔ ∀ n ∈ l, fits n = false := by
  induction l with
  | nil => simp [takeFirst?]
  | cons n l ih =>
    rw [takeFirst?]
    by_cases hn : fits n = true
    · simp [hn]
    · rw [if_neg hn, Option.map_eq_none_iff, ih]
      simpa using fun _ => hn

/-- What is taken is the first element that fits, and nothing else is lost. -/
theorem takeFirst?_eq_some {fits : Node → Bool} : ∀ {l : List Node} {n : Node} {rest : List Node},
    takeFirst? fits l = some (n, rest) →
      ∃ before after, l = before ++ n :: after ∧ rest = before ++ after ∧
        fits n = true ∧ ∀ m ∈ before, fits m = false := by
  intro l
  induction l with
  | nil =>
    intro n rest h
    simp [takeFirst?] at h
  | cons m l ih =>
    intro n rest h
    rw [takeFirst?] at h
    by_cases hm : fits m = true
    · rw [if_pos hm] at h
      cases h
      exact ⟨[], l, rfl, rfl, hm, by simp⟩
    · rw [if_neg hm] at h
      obtain ⟨⟨found, left⟩, hfound, heq⟩ := Option.map_eq_some_iff.mp h
      cases heq
      obtain ⟨before, after, rfl, rfl, hfits, hbefore⟩ := ih hfound
      refine ⟨m :: before, after, rfl, rfl, hfits, ?_⟩
      intro k hk
      rcases List.mem_cons.mp hk with rfl | hk
      · simpa using hm
      · exact hbefore k hk

theorem perm_of_takeFirst? {fits : Node → Bool} {l rest : List Node} {n : Node}
    (h : takeFirst? fits l = some (n, rest)) : n :: rest ~ l := by
  obtain ⟨before, after, rfl, rfl, -, -⟩ := takeFirst?_eq_some h
  exact List.perm_middle.symm

theorem sublist_of_takeFirst? {fits : Node → Bool} {l rest : List Node} {n : Node}
    (h : takeFirst? fits l = some (n, rest)) : rest <+ l := by
  obtain ⟨before, after, rfl, rfl, -, -⟩ := takeFirst?_eq_some h
  exact List.Sublist.append (List.Sublist.refl before) (List.sublist_cons_self n after)

/-! ### Coverage -/

section Coverage

variable (fits : Node → Node → Bool) (old new : List Node)

theorem greedy_old_sublist : (greedy fits old new).old <+ old := by
  induction old generalizing new with
  | nil => exact List.Sublist.refl _
  | cons o old ih =>
    rw [greedy]
    split
    · next n rest _ => exact (ih rest).cons o
    · exact (ih new).cons_cons o

theorem greedy_new_sublist : (greedy fits old new).new <+ new := by
  induction old generalizing new with
  | nil => exact List.Sublist.refl _
  | cons o old ih =>
    rw [greedy]
    split
    · next n rest h => exact (ih rest).trans (sublist_of_takeFirst? h)
    · exact ih new

/-- Every old node is the first member of one pair or is left over. -/
theorem greedy_old_perm :
    (greedy fits old new).pairs.map Prod.fst ++ (greedy fits old new).old ~ old := by
  induction old generalizing new with
  | nil => exact List.Perm.refl _
  | cons o old ih =>
    rw [greedy]
    split
    · next n rest _ => exact (ih rest).cons o
    · exact List.perm_middle.trans ((ih new).cons o)

/-- Every new node is the second member of one pair or is left over. -/
theorem greedy_new_perm :
    (greedy fits old new).pairs.map Prod.snd ++ (greedy fits old new).new ~ new := by
  induction old generalizing new with
  | nil => exact List.Perm.refl _
  | cons o old ih =>
    rw [greedy]
    split
    · next n rest h => exact ((ih rest).cons n).trans (perm_of_takeFirst? h)
    · exact ih new

theorem fits_of_mem_greedy {pair : Node × Node} (h : pair ∈ (greedy fits old new).pairs) :
    fits pair.1 pair.2 = true := by
  induction old generalizing new with
  | nil => simp [greedy] at h
  | cons o old ih =>
    rw [greedy] at h
    split at h
    · next n rest htake =>
      rcases List.mem_cons.mp h with rfl | h
      · obtain ⟨-, -, -, -, hfits, -⟩ := takeFirst?_eq_some htake
        exact hfits
      · exact ih rest h
    · exact ih new h

/-- Paired with themselves, nodes that fit themselves each take themselves. -/
theorem greedy_self (hself : ∀ o, fits o o = true) (nodes : List Node) :
    greedy fits nodes nodes = ⟨nodes.map fun o => (o, o), [], []⟩ := by
  induction nodes with
  | nil => rfl
  | cons o nodes ih =>
    have : takeFirst? (fits o) (o :: nodes) = some (o, nodes) := by
      rw [takeFirst?, if_pos (hself o)]
    rw [greedy, this]
    simp [ih]

end Coverage

/-! ### Class by class -/

/-- The part of a round inside one class of nodes; a pair belongs to the class of its old node. -/
def Round.within {γ : Type} [DecidableEq γ] (c : Node → γ) (v : γ) (round : Round) : Round :=
  { pairs := round.pairs.filter fun pair => c pair.1 = v
    old := round.old.filter (c · = v)
    new := round.new.filter (c · = v) }

/-- The round that pairs two lists from the front until one of them is exhausted. -/
def Round.zip (old new : List Node) : Round :=
  { pairs := old.zip new
    old := old.drop new.length
    new := new.drop old.length }

theorem Round.zip_swap (old new : List Node) :
    Round.zip new old =
      ⟨(Round.zip old new).pairs.map Prod.swap, (Round.zip old new).new, (Round.zip old new).old⟩ := by
  rw [Round.zip, Round.zip, List.zip_swap]

theorem Round.zip_old : ∀ old new : List Node,
    (Round.zip old new).pairs.map Prod.fst ++ (Round.zip old new).old = old
  | [], _ => by simp [Round.zip]
  | _ :: _, [] => rfl
  | o :: old, _ :: new => congrArg (o :: ·) (Round.zip_old old new)

theorem Round.zip_new (old new : List Node) :
    (Round.zip old new).pairs.map Prod.snd ++ (Round.zip old new).new = new := by
  have h := Round.zip_old new old
  rw [Round.zip_swap old new, List.map_map] at h
  exact h

section Classes

variable {γ : Type} [DecidableEq γ] {fits : Node → Node → Bool} {c : Node → γ}
  (hfits : ∀ o n, fits o n = true ↔ c n = c o)

include hfits

/-- Taking removes the first element of its class and nothing from the others. -/
theorem filter_of_takeFirst? {o n : Node} {l rest : List Node}
    (h : takeFirst? (fits o) l = some (n, rest)) (v : γ) :
    l.filter (c · = v) = if c o = v then n :: rest.filter (c · = v) else rest.filter (c · = v) := by
  obtain ⟨before, after, rfl, rfl, hn, hbefore⟩ := takeFirst?_eq_some h
  have hcn : c n = c o := (hfits o n).mp hn
  by_cases hv : c o = v
  · have hnone : before.filter (c · = v) = [] := by
      rw [List.filter_eq_nil_iff]
      intro m hm hcm
      have : fits o m = true := (hfits o m).mpr ((of_decide_eq_true hcm).trans hv.symm)
      rw [hbefore m hm] at this
      cases this
    simp [hnone, hcn, hv]
  · simp [hcn, hv]

theorem filter_of_takeFirst?_eq_none {o : Node} {l : List Node}
    (h : takeFirst? (fits o) l = none) : l.filter (c · = c o) = [] := by
  rw [List.filter_eq_nil_iff]
  intro m hm hcm
  have : fits o m = true := (hfits o m).mpr (of_decide_eq_true hcm)
  rw [takeFirst?_eq_none_iff.mp h m hm] at this
  cases this

/-- **Inside a class a round is a `zip`**: the first old node gets the first new node, the second the
second, and the longer side keeps its surplus. -/
theorem within_greedy (old new : List Node) (v : γ) :
    (greedy fits old new).within c v = Round.zip (old.filter (c · = v)) (new.filter (c · = v)) := by
  -- the pool shrinks along the old side, so the claim is proved for every pool at once
  induction old generalizing new with
  | nil => simp [greedy, Round.within, Round.zip]
  | cons o old ih =>
    rw [greedy]
    split
    · next n rest htake =>
      have hrest := ih rest
      simp only [Round.within, Round.zip, Round.mk.injEq] at hrest
      rw [filter_of_takeFirst? hfits htake v]
      by_cases hv : c o = v
      · simp [Round.within, Round.zip, hv, hrest]
      · simp [Round.within, Round.zip, hv, hrest]
    · next htake =>
      have hnew := ih new
      simp only [Round.within, Round.zip, Round.mk.injEq] at hnew
      by_cases hv : c o = v
      · -- the class is exhausted on the new side, so every old node of it stays
        subst hv
        simp [Round.within, Round.zip, hnew, filter_of_takeFirst?_eq_none hfits htake]
      · simp [Round.within, Round.zip, hv, hnew]

variable (old new : List Node) (v : γ)

theorem filter_greedy_pairs :
    (greedy fits old new).pairs.filter (fun pair => c pair.1 = v) =
      (old.filter (c · = v)).zip (new.filter (c · = v)) :=
  congrArg Round.pairs (within_greedy hfits old new v)

theorem filter_greedy_old :
    (greedy fits old new).old.filter (c · = v) =
      (old.filter (c · = v)).drop (new.filter (c · = v)).length :=
  congrArg Round.old (within_greedy hfits old new v)

theorem filter_greedy_new :
    (greedy fits old new).new.filter (c · = v) =
      (new.filter (c · = v)).drop (old.filter (c · = v)).length :=
  congrArg Round.new (within_greedy hfits old new v)

/-- As many pairs of a class as both sides have nodes of it. -/
theorem countP_greedy_pairs :
    (greedy fits old new).pairs.countP (fun pair => c pair.1 = v) =
      min (old.countP (c · = v)) (new.countP (c · = v)) := by
  simp only [List.countP_eq_length_filter]
  rw [filter_greedy_pairs hfits, List.length_zip]

theorem countP_greedy_old :
    (greedy fits old new).old.countP (c · = v) =
      old.countP (c · = v) - new.countP (c · = v) := by
  simp only [List.countP_eq_length_filter]
  rw [filter_greedy_old hfits, List.length_drop]

theorem countP_greedy_new :
    (greedy fits old new).new.countP (c · = v) =
      new.countP (c · = v) - old.countP (c · = v) := by
  simp only [List.countP_eq_length_filter]
  rw [filter_greedy_new hfits, List.length_drop]

/-- **A class is exhausted on one side**: no two nodes that are left over fit. -/
theorem ne_of_mem_greedy {o n : Node} (ho : o ∈ (greedy fits old new).old)
    (hn : n ∈ (greedy fits old new).new) : c o ≠ c n := by
  intro hc
  have hold : 0 < (greedy fits old new).old.countP (c · = c n) :=
    List.countP_pos_iff.mpr ⟨o, ho, by simpa using hc⟩
  have hnew : 0 < (greedy fits old new).new.countP (c · = c n) :=
    List.countP_pos_iff.mpr ⟨n, hn, by simp⟩
  rw [countP_greedy_old hfits] at hold
  rw [countP_greedy_new hfits] at hnew
  omega

/-! ### Exchanging the two sides -/

/-- Exchanging the two sides exchanges the members of every pair. -/
theorem greedy_swap_pairs :
    (greedy fits new old).pairs ~ (greedy fits old new).pairs.map Prod.swap := by
  refine Delta.perm_of_filter_perm (fun pair => c pair.1) fun v => ?_
  -- a pair may as well be counted to the class of its new node
  have hclass : (greedy fits old new).pairs.filter (fun pair => c pair.2 = v) =
      (greedy fits old new).pairs.filter (fun pair => c pair.1 = v) :=
    List.filter_congr fun pair hpair => by
      rw [(hfits _ _).mp (fits_of_mem_greedy fits old new hpair)]
  rw [filter_greedy_pairs hfits, List.filter_map]
  show _ ~ ((greedy fits old new).pairs.filter (fun pair => c pair.2 = v)).map Prod.swap
  rw [hclass, filter_greedy_pairs hfits, List.zip_swap]

/-- Exchanging the two sides exchanges what is left over. -/
theorem greedy_swap_old (hnew : new.Nodup) :
    (greedy fits new old).old = (greedy fits old new).new := by
  -- both are sublists of the new side, so it is enough to compare their elements
  refine Delta.eq_of_sublist_of_mem_iff hnew (greedy_old_sublist fits new old)
    (greedy_new_sublist fits old new) fun a => List.Perm.mem_iff ?_
  refine Delta.perm_of_filter_perm c fun v => ?_
  rw [filter_greedy_old hfits, filter_greedy_new hfits]

end Classes

end StructuralDiff.Pairing
