import Mathlib.Algebra.Order.BigOperators.Group.List
import Mathlib.Algebra.Order.Ring.Nat
import Mathlib.Order.Bounds.Basic
import StructuralDiff.Proofs.Delta.Risk

/-!
# The scores of files

A file is scored by the eight highest scores of its symbols, found by sorting, and by capped terms for its
churn, its most called symbol and its status. The sorting does not show: the eight scores are those that add up
to the most, whatever eight symbols are chosen.

* `Risk.isGreatest_topTotal`: no choice of at most eight symbols adds up to more than the eight highest scores.
* `Risk.Grows`: a symbol more, a symbol that counts more, or more churn.
* `Risk.fileTotal_le_of_grows`, `Risk.fileTotal_le_of_reflTransGen`: none of these lowers what a file amounts to.
* `Risk.fileTotal_le_of_subset`: symbols of a comparison never come near the bound of 32 bits.
* `Risk.ratesFiles_fileScore`: all of this about the scores.
-/

open scoped List
open Relation (ReflTransGen)

namespace StructuralDiff

/-- The second symbol counts at least as much as the first one. -/
def SymbolRisk.CountsUpTo (a b : SymbolRisk) : Prop :=
  a.score ≤ b.score ∧ a.incomingCalls ≤ b.incomingCalls

instance : Std.Refl SymbolRisk.CountsUpTo :=
  ⟨fun _ => ⟨Nat.le_refl _, Nat.le_refl _⟩⟩

instance : IsTrans SymbolRisk SymbolRisk.CountsUpTo :=
  ⟨fun _ _ _ hab hbc => ⟨Nat.le_trans hab.1 hbc.1, Nat.le_trans hab.2 hbc.2⟩⟩

theorem FileStatus.bonus_le (status : FileStatus) : status.bonus ≤ 3 := by
  cases status <;> decide

namespace Risk

variable {symbols symbols' : List SymbolRisk}

/-- What the scores of symbols add up to. -/
def scoreSum (symbols : List SymbolRisk) : Nat :=
  (symbols.map (·.score)).sum

/-- What at most eight of the symbols can add up to; a symbol may be chosen as often as it is listed. -/
def ChoiceSums (symbols : List SymbolRisk) : Set Nat :=
  {total | ∃ chosen, chosen <+~ symbols ∧ chosen.length ≤ 8 ∧ scoreSum chosen = total}

/-- The scores of symbols, the highest first. -/
def sortedScores (symbols : List SymbolRisk) : List Nat :=
  (symbols.map (·.score)).mergeSort fun a b => b.ble a

/-- The eight highest scores together. -/
def topTotal (symbols : List SymbolRisk) : Nat :=
  ((sortedScores symbols).take topSymbols).sum

/-- The calls of the most called symbol, or none without symbols. -/
def mostCalls (symbols : List SymbolRisk) : Nat :=
  (symbols.map (·.incomingCalls)).foldl max 0

theorem fileTotal_eq (symbols : List SymbolRisk) (churn : Nat) (status : FileStatus) :
    fileTotal symbols churn status =
      topTotal symbols + min (churn / 15) 10 + min (mostCalls symbols / 2) 6 + status.bonus :=
  rfl

/-! ### The eight highest scores -/

theorem sortedScores_perm (symbols : List SymbolRisk) : sortedScores symbols ~ symbols.map (·.score) :=
  List.mergeSort_perm _ _

theorem pairwise_sortedScores (symbols : List SymbolRisk) :
    (sortedScores symbols).Pairwise fun a b => b ≤ a := by
  have htrans (a b c : Nat) (hab : b.ble a = true) (hbc : c.ble b = true) : c.ble a = true := by
    rw [Nat.ble_eq] at *
    exact Nat.le_trans hbc hab
  have htotal (a b : Nat) : (b.ble a || a.ble b) = true := by
    rw [Bool.or_eq_true, Nat.ble_eq, Nat.ble_eq]
    exact Nat.le_total b a
  exact (List.pairwise_mergeSort htrans htotal _).imp Nat.le_of_ble_eq_true

/-- **The exchange**: from numbers that go down, the first ones add up to the most. -/
theorem sum_le_sum_take {scores chosen : List Nat} (hdown : scores.Pairwise fun a b => b ≤ a)
    (hchosen : chosen <+ scores) {k : Nat} (hlength : chosen.length ≤ k) :
    chosen.sum ≤ (scores.take k).sum := by
  induction scores generalizing chosen k with
  | nil =>
    rw [List.sublist_nil.1 hchosen]
    exact Nat.zero_le _
  | cons score rest ih =>
    obtain ⟨hfirst, hrest⟩ := List.pairwise_cons.1 hdown
    cases chosen with
    | nil => exact Nat.zero_le _
    | cons c later =>
      cases k with
      | zero => exact absurd hlength (by simp)
      | succ k =>
        have hshort : later.length ≤ k := Nat.le_of_succ_le_succ hlength
        -- whichever comes first in the choice, the head of the list is worth as much
        have hexchange : c ≤ score ∧ later <+ rest := by
          cases hchosen with
          | cons _ hskip => exact ⟨hfirst c (hskip.subset List.mem_cons_self), List.sublist_of_cons_sublist hskip⟩
          | cons_cons _ htake => exact ⟨Nat.le_refl _, htake⟩
        calc (c :: later).sum = c + later.sum := List.sum_cons
          _ ≤ score + (rest.take k).sum := Nat.add_le_add hexchange.1 (ih hrest hexchange.2 hshort)
          _ = ((score :: rest).take (k + 1)).sum := by rw [List.take_succ_cons, List.sum_cons]

/-- **The eight highest scores add up to the most that eight symbols can.** -/
theorem isGreatest_topTotal (symbols : List SymbolRisk) :
    IsGreatest (ChoiceSums symbols) (topTotal symbols) := by
  constructor
  · -- the highest scores are those of some of the symbols
    obtain ⟨scores, hperm, hsublist⟩ :
        (sortedScores symbols).take topSymbols <+~ symbols.map (·.score) :=
      (List.take_sublist _ _).subperm.trans (sortedScores_perm symbols).subperm
    obtain ⟨chosen, hchosen, rfl⟩ := List.sublist_map_iff.1 hsublist
    refine ⟨chosen, hchosen.subperm, ?_, hperm.sum_eq⟩
    rw [← List.length_map (f := fun symbol : SymbolRisk => symbol.score), hperm.length_eq, List.length_take]
    exact Nat.min_le_left _ _
  · rintro total ⟨chosen, hchosen, hlength, rfl⟩
    obtain ⟨listed, hlisted, hsub⟩ := hchosen
    obtain ⟨scores, hperm, hsublist⟩ : chosen.map (·.score) <+~ sortedScores symbols :=
      (hlisted.map _).symm.subperm.trans ((hsub.map _).subperm.trans (sortedScores_perm symbols).symm.subperm)
    rw [scoreSum, ← hperm.sum_eq]
    refine sum_le_sum_take (pairwise_sortedScores symbols) hsublist ?_
    rw [hperm.length_eq, List.length_map]
    exact hlength

/-! ### The most called symbol -/

theorem foldl_max_le_iff {numbers : List Nat} {start bound : Nat} :
    numbers.foldl max start ≤ bound ↔ start ≤ bound ∧ ∀ n ∈ numbers, n ≤ bound := by
  induction numbers generalizing start with
  | nil => simp
  | cons n rest ih => rw [List.foldl_cons, ih, Nat.max_le, List.forall_mem_cons, and_assoc]

theorem mostCalls_le_iff {bound : Nat} :
    mostCalls symbols ≤ bound ↔ ∀ symbol ∈ symbols, symbol.incomingCalls ≤ bound := by
  rw [mostCalls, foldl_max_le_iff, List.forall_mem_map, and_iff_right (Nat.zero_le bound)]

theorem isLeast_mostCalls (symbols : List SymbolRisk) :
    IsLeast {bound | ∀ symbol ∈ symbols, symbol.incomingCalls ≤ bound} (mostCalls symbols) :=
  ⟨mostCalls_le_iff.1 (Nat.le_refl _), fun _ hbound => mostCalls_le_iff.2 hbound⟩

/-! ### The order of the symbols -/

theorem topTotal_eq_of_perm (h : symbols ~ symbols') : topTotal symbols = topTotal symbols' := by
  have hchoices : ChoiceSums symbols = ChoiceSums symbols' := by
    ext total
    simp only [ChoiceSums, Set.mem_ofPred_eq, h.subperm_left]
  exact (isGreatest_topTotal symbols).unique (hchoices ▸ isGreatest_topTotal symbols')

theorem mostCalls_eq_of_perm (h : symbols ~ symbols') : mostCalls symbols = mostCalls symbols' := by
  refine eq_of_forall_ge_iff fun bound => ?_
  simp only [mostCalls_le_iff, h.mem_iff]

/-- **A file amounts to the same in whatever order its symbols are listed.** -/
theorem fileTotal_eq_of_perm (h : symbols ~ symbols') (churn : Nat) (status : FileStatus) :
    fileTotal symbols churn status = fileTotal symbols' churn status := by
  rw [fileTotal_eq, fileTotal_eq, topTotal_eq_of_perm h, mostCalls_eq_of_perm h]

/-! ### More to count -/

/-- Symbols can add up to as much as others when each of these has a match among them that counts more. -/
theorem topTotal_le (h : List.SublistForall₂ SymbolRisk.CountsUpTo symbols symbols') :
    topTotal symbols ≤ topTotal symbols' := by
  obtain ⟨chosen, ⟨listed, hperm, hlisted⟩, hlength, hsum⟩ := (isGreatest_topTotal symbols).1
  -- what was chosen has its matches as well
  have hmatch : List.SublistForall₂ SymbolRisk.CountsUpTo listed symbols' :=
    IsTrans.trans _ _ _ hlisted.sublistForall₂ h
  obtain ⟨raised, hraised, hsub⟩ := List.sublistForall₂_iff.1 hmatch
  calc topTotal symbols = scoreSum listed := by rw [← hsum, scoreSum, scoreSum, (hperm.map _).sum_eq]
    _ ≤ scoreSum raised := by
      refine List.Forall₂.sum_le_sum ?_
      rw [List.forall₂_map_left_iff, List.forall₂_map_right_iff]
      exact hraised.imp fun _ _ hcounts => hcounts.1
    _ ≤ topTotal symbols' := by
      refine (isGreatest_topTotal symbols').2 ⟨raised, hsub.subperm, ?_, rfl⟩
      rwa [← hraised.length_eq, hperm.length_eq]

/-- Every symbol has a match. -/
theorem exists_countsUpTo (h : List.SublistForall₂ SymbolRisk.CountsUpTo symbols symbols') :
    ∀ symbol ∈ symbols, ∃ other ∈ symbols', symbol.CountsUpTo other := by
  induction h with
  | nil => exact nofun
  | cons hcounts _ ih =>
    rw [List.forall_mem_cons]
    exact ⟨⟨_, List.mem_cons_self, hcounts⟩, fun symbol hsymbol =>
      (ih symbol hsymbol).imp fun _ hother => ⟨List.mem_cons_of_mem _ hother.1, hother.2⟩⟩
  | cons_right _ ih =>
    intro symbol hsymbol
    obtain ⟨other, hother, hcounts⟩ := ih symbol hsymbol
    exact ⟨other, List.mem_cons_of_mem _ hother, hcounts⟩

theorem mostCalls_le (h : List.SublistForall₂ SymbolRisk.CountsUpTo symbols symbols') :
    mostCalls symbols ≤ mostCalls symbols' := by
  rw [mostCalls_le_iff]
  intro symbol hsymbol
  obtain ⟨other, hother, hcounts⟩ := exists_countsUpTo h symbol hsymbol
  exact Nat.le_trans hcounts.2 (mostCalls_le_iff.1 (Nat.le_refl _) other hother)

theorem fileTotal_le (h : List.SublistForall₂ SymbolRisk.CountsUpTo symbols symbols') {churn churn' : Nat}
    (hchurn : churn ≤ churn') (status : FileStatus) :
    fileTotal symbols churn status ≤ fileTotal symbols' churn' status := by
  have htop := topTotal_le h
  have hcalls : mostCalls symbols / 2 ≤ mostCalls symbols' / 2 := Nat.div_le_div_right (mostCalls_le h)
  have hlines : churn / 15 ≤ churn' / 15 := Nat.div_le_div_right hchurn
  rw [fileTotal_eq, fileTotal_eq]
  omega

/-- One change to the symbols and the churn of a file after which nothing counts less. -/
inductive Grows : List SymbolRisk × Nat → List SymbolRisk × Nat → Prop
  /-- A symbol is added to the list. -/
  | add (front back : List SymbolRisk) (symbol : SymbolRisk) (churn : Nat) :
      Grows (front ++ back, churn) (front ++ symbol :: back, churn)
  /-- The score or the calls of a symbol rise. -/
  | raise (front back : List SymbolRisk) {a b : SymbolRisk} (churn : Nat) (h : a.CountsUpTo b) :
      Grows (front ++ a :: back, churn) (front ++ b :: back, churn)
  /-- The churn rises. -/
  | churn (symbols : List SymbolRisk) {churn churn' : Nat} (h : churn ≤ churn') :
      Grows (symbols, churn) (symbols, churn')

/-- **No such change lowers what a file amounts to.** -/
theorem fileTotal_le_of_grows {before after : List SymbolRisk × Nat} (h : Grows before after)
    (status : FileStatus) : fileTotal before.1 before.2 status ≤ fileTotal after.1 after.2 status := by
  cases h with
  | add front back symbol churn =>
    have hsub : front ++ back <+ front ++ symbol :: back := (List.sublist_cons_self symbol back).append_left front
    exact fileTotal_le hsub.sublistForall₂ (Nat.le_refl churn) status
  | raise front back churn hcounts =>
    have hmatch : List.Forall₂ SymbolRisk.CountsUpTo (front ++ _ :: back) (front ++ _ :: back) :=
      List.rel_append (List.forall₂_refl front) (.cons hcounts (List.forall₂_refl back))
    exact fileTotal_le (List.sublistForall₂_iff.2 ⟨_, hmatch, List.Sublist.refl _⟩) (Nat.le_refl churn) status
  | churn symbols hchurn => exact fileTotal_le (List.Sublist.refl symbols).sublistForall₂ hchurn status

/-- Nor does any number of them. -/
theorem fileTotal_le_of_reflTransGen {before after : List SymbolRisk × Nat} (h : ReflTransGen Grows before after)
    (status : FileStatus) : fileTotal before.1 before.2 status ≤ fileTotal after.1 after.2 status := by
  induction h with
  | refl => exact Nat.le_refl _
  | tail _ hstep ih => exact Nat.le_trans ih (fileTotal_le_of_grows hstep status)

/-! ### The symbols of a comparison -/

theorem score_le_of_mem_symbolRisks {delta : Delta} {risk : SymbolRisk} (h : risk ∈ delta.symbolRisks) :
    risk.score ≤ 22 := by
  obtain ⟨node, -, -, -, rfl⟩ | ⟨node, -, -, status, -, hchanged, rfl⟩ := Delta.mem_symbolRisks.1 h
  · exact (Delta.bounded_ofNode _ rfl node).2.1
  · exact (Delta.bounded_ofNode _ hchanged node).2.1

/-- Eight symbols of a comparison add up to 176 at the most. -/
theorem topTotal_le_of_subset {delta : Delta} (h : symbols ⊆ delta.symbolRisks) : topTotal symbols ≤ 176 := by
  obtain ⟨chosen, hchosen, hlength, hsum⟩ := (isGreatest_topTotal symbols).1
  have heach : ∀ score ∈ chosen.map (·.score), score ≤ 22 := by
    rw [List.forall_mem_map]
    exact fun symbol hsymbol => score_le_of_mem_symbolRisks (h (hchosen.subset hsymbol))
  have hbound : (chosen.map (·.score)).sum ≤ (chosen.map (·.score)).length * 22 :=
    List.sum_le_card_nsmul _ 22 heach
  rw [List.length_map] at hbound
  rw [← hsum, scoreSum]
  omega

theorem fileTotal_le_of_subset {delta : Delta} (h : symbols ⊆ delta.symbolRisks) (churn : Nat)
    (status : FileStatus) : fileTotal symbols churn status ≤ 195 := by
  have htop := topTotal_le_of_subset h
  have hbonus := FileStatus.bonus_le status
  rw [fileTotal_eq]
  omega

/-! ### Scores -/

theorem fileScore_eq_fileTotal {churn : Nat} {status : FileStatus}
    (h : fileTotal symbols churn status < Bound.nat32) :
    fileScore symbols churn status = fileTotal symbols churn status :=
  Nat.mod_eq_of_lt h

/-- How the scores of files depend on what they are made of. -/
structure RatesFiles (score : List SymbolRisk → Nat → FileStatus → Nat) : Prop where
  /-- The order of the symbols does not count. -/
  order_free : ∀ symbols symbols' churn status, symbols ~ symbols' →
    score symbols churn status = score symbols' churn status
  /-- The symbols count with the most that eight of them add up to, and the most called one with its calls. -/
  composed : ∀ symbols, ∃ top calls, IsGreatest (ChoiceSums symbols) top ∧
    IsLeast {bound | ∀ symbol ∈ symbols, symbol.incomingCalls ≤ bound} calls ∧
    ∀ churn status, score symbols churn status =
      (top + min (churn / 15) 10 + min (calls / 2) 6 + status.bonus) % Bound.nat32
  /-- More to count never lowers the score, as long as the sum fits into 32 bits. -/
  monotone : ∀ before after status, ReflTransGen Grows before after →
    fileTotal after.1 after.2 status < Bound.nat32 →
    score before.1 before.2 status ≤ score after.1 after.2 status
  /-- With symbols of a comparison the sum always fits. -/
  bounded : ∀ (delta : Delta) symbols churn status, symbols ⊆ delta.symbolRisks →
    score symbols churn status ≤ 195 ∧ fileTotal symbols churn status < Bound.nat32

/-- **The scores of files** do not depend on the order of the symbols, count those eight of them that add up to
the most, never fall when there is more to count, and stay below 196 in a comparison. -/
theorem ratesFiles_fileScore : RatesFiles fileScore where
  order_free symbols symbols' churn status h := by
    rw [fileScore, fileTotal_eq_of_perm h, fileScore]
  composed symbols :=
    ⟨topTotal symbols, mostCalls symbols, isGreatest_topTotal symbols, isLeast_mostCalls symbols,
      fun _ _ => rfl⟩
  monotone before after status h hfits := by
    have hle := fileTotal_le_of_reflTransGen h status
    rw [fileScore_eq_fileTotal hfits, fileScore_eq_fileTotal (Nat.lt_of_le_of_lt hle hfits)]
    exact hle
  bounded delta symbols churn status h := by
    have hle := fileTotal_le_of_subset h churn status
    have hfits : fileTotal symbols churn status < Bound.nat32 := Nat.lt_of_le_of_lt hle (by decide)
    rw [fileScore_eq_fileTotal hfits]
    exact ⟨hle, hfits⟩

/-- A symbol that is known by its score and its calls. -/
def sampleRisk (score incomingCalls : Nat) : SymbolRisk :=
  { id := "s", name := "s", qualifiedName := "m.s", kind := .function, filePath := "m.py", status := .modified
    score, level := .ofScore score, incomingCalls }

-- Of eleven symbols, eight count with 5 + 7; the others add 45 / 15, 9 / 2 and 2.
example : fileScore ((List.range 10).map (sampleRisk 1) ++ [sampleRisk 5 0]) 45 .renamed = 21 := by
  cbv

end Risk

end StructuralDiff
