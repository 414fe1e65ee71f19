import StructuralDiff.Proofs.Flow.Shape

/-!
# Guarded blocks

Where the body, the handlers and the end of a guarded block are entered, and which of them the block leads to. A
statement may stand anywhere in a function, so it is looked at as a part of the function first.

* `FlowStmt.IsPart`: the links of a statement are among those of a function, and its branches are marked there.
* `FlowStmt.isPart_blockBranching`: every statement that becomes a branch is a part of its function.
* `FlowStmt.reflTransGen_of_live`: a statement leads to each branch in it that is live when the statement is.
* `FlowStmt.reflTransGen_guarded`: so a guarded block leads to its body and its handlers, and to its end when one
  of these completes.
-/

namespace StructuralDiff

namespace FlowStmt

open Piece Lowered

/-! ### Parts of a function -/

/-- The statement stands in a function with the links and the live branches, where its first branch has the
ordinal `n`. -/
structure IsPart (Link : Nat → Nat → Prop) (Live : Nat → Prop) (n : Nat) (stmt : FlowStmt) : Prop where
  plain : plainFalls stmt = true
  links : ∀ a b, Joins (lower n stmt).pieces a b → Link a b
  marked : ∃ live, Agrees Live n (marks live stmt)

/-- The same for a block, or for what is left of one. -/
structure IsBlock (Link : Nat → Nat → Prop) (Live : Nat → Prop) (n : Nat) (body : List FlowStmt) : Prop where
  plain : blockPlainFalls body = true
  links : ∃ entry pending, ∀ a b, Joins (lowerFrom n entry pending body).pieces a b → Link a b
  marked : ∃ live, Agrees Live n (blockMarks live body)

variable {Link : Nat → Nat → Prop} {Live : Nat → Prop}

theorem joins_ofCond {n : Nat} {site : Site} {truth : Option Bool} {thenSide elseSide : Lowered}
    {hasElse : Bool} {a b : Nat} (h : Joins thenSide.pieces a b ∨ Joins elseSide.pieces a b) :
    Joins (ofCond n site truth thenSide elseSide hasElse).pieces a b := by
  cases hasElse
  all_goals
    simp only [ofCond, if_true, Bool.false_eq_true, if_false, List.cons_append, joins_branch, joins_append]
    exact .inl (.inl h)

theorem joins_ofGuarded {n : Nat} {site : Site} {body handlers finalSide : Lowered} {a b : Nat}
    (h : Joins body.pieces a b ∨ Joins handlers.pieces a b ∨ Joins finalSide.pieces a b) :
    Joins (ofGuarded n site body handlers finalSide).pieces a b := by
  unfold ofGuarded
  split
  all_goals
    simp only [List.cons_append, joins_branch, joins_append]
    grind

theorem length_marks (live : Bool) (stmt : FlowStmt) : (marks live stmt).length = (branching stmt).length := by
  have h := next_lower 0 live stmt
  rw [next_lower_eq] at h
  omega

theorem length_blockMarks (live : Bool) (body : List FlowStmt) :
    (blockMarks live body).length = (blockBranching body).length := by
  have h := next_lowerBlock 0 live body
  rw [next_lowerFrom] at h
  omega

theorem length_allMarks (live : Bool) (bodies : List (List FlowStmt)) :
    (allMarks live bodies).length = (allBranching bodies).length := by
  have h := next_lowerHandlers Nat.one_pos live bodies
  rw [next_lowerHandlers_eq] at h
  omega

/-- What stands in one of two lists stands in the first of them, or in the second behind the first. -/
theorem getElem?_append_cases {α : Type} {a b : List α} {k : Nat} {x : α} (h : (a ++ b)[k]? = some x) :
    a[k]? = some x ∨ ∃ j, k = a.length + j ∧ b[j]? = some x := by
  rcases Nat.lt_or_ge k a.length with hlt | hge
  · exact .inl (by rwa [List.getElem?_append_left hlt] at h)
  · refine .inr ⟨k - a.length, by omega, ?_⟩
    rwa [List.getElem?_append_right hge] at h

mutual

/-- A statement that becomes a branch in a part of a function is itself one. -/
theorem isPart_branching {n k : Nat} {stmt inner : FlowStmt} (h : IsPart Link Live n stmt)
    (hk : (branching stmt)[k]? = some inner) : IsPart Link Live (n + k) inner := by
  obtain ⟨hplain, hlinks, live, hagrees⟩ := h
  -- the first branch is that of the statement; those behind it are in its parts, which are marked one after the
  -- other
  match stmt with
  | .cond site truth thenBody elseBody =>
    cases k with
    | zero => exact Option.some.inj hk ▸ ⟨hplain, hlinks, live, hagrees⟩
    | succ k =>
      rw [plainFalls, Bool.and_eq_true] at hplain
      obtain ⟨hthen, helse⟩ := agrees_append.1 hagrees.2
      rw [length_blockMarks] at helse
      rw [Nat.add_comm k, ← Nat.add_assoc]
      rcases getElem?_append_cases hk with hk | ⟨j, rfl, hj⟩
      · exact isPart_blockBranching
          ⟨hplain.1, ⟨none, [], fun a b hab => hlinks a b (joins_ofCond (.inl hab))⟩, _, hthen⟩ hk
      · rw [← Nat.add_assoc]
        refine isPart_optionBranching hplain.2 (fun a b hab => hlinks a b (joins_ofCond (.inr ?_))) helse hj
        rwa [next_lowerFrom]
  | .exit _ | .call _ =>
    cases k with
    | zero => exact Option.some.inj hk ▸ ⟨hplain, hlinks, live, hagrees⟩
    | succ k => cases hk
  | .loop site body | .scoped site body =>
    cases k with
    | zero => exact Option.some.inj hk ▸ ⟨hplain, hlinks, live, hagrees⟩
    | succ k =>
      have hk : (blockBranching body)[k]? = some inner := hk
      rw [Nat.add_comm k, ← Nat.add_assoc]
      refine isPart_blockBranching ⟨hplain, ⟨none, [], fun a b hab => hlinks a b ?_⟩, _, hagrees.2⟩ hk
      simp only [lower, List.cons_append, joins_branch, joins_append]
      exact .inl hab
  | .guarded site body handlers finalBody =>
    cases k with
    | zero => exact Option.some.inj hk ▸ ⟨hplain, hlinks, live, hagrees⟩
    | succ k =>
      simp only [plainFalls, Bool.and_eq_true] at hplain
      obtain ⟨hagrees, hfinal⟩ := agrees_append.1 hagrees.2
      obtain ⟨hbody, hhandlers⟩ := agrees_append.1 hagrees
      rw [List.length_append, length_blockMarks, length_allMarks, ← Nat.add_assoc] at hfinal
      rw [length_blockMarks] at hhandlers
      rw [Nat.add_comm k, ← Nat.add_assoc]
      rcases getElem?_append_cases hk with hk | ⟨j, rfl, hj⟩
      · rcases getElem?_append_cases hk with hk | ⟨j, rfl, hj⟩
        · exact isPart_blockBranching
            ⟨hplain.1.1, ⟨none, [], fun a b hab => hlinks a b (joins_ofGuarded (.inl hab))⟩, _, hbody⟩ hk
        · rw [← Nat.add_assoc]
          refine isPart_allBranching n hplain.1.2
            (fun a b hab => hlinks a b (joins_ofGuarded (.inr (.inl ?_)))) hhandlers hj
          rwa [next_lowerFrom]
      · rw [List.length_append, ← Nat.add_assoc, ← Nat.add_assoc]
        refine isPart_optionBranching hplain.2
          (fun a b hab => hlinks a b (joins_ofGuarded (.inr (.inr ?_)))) hfinal hj
        rwa [next_lowerHandlers_eq, next_lowerFrom]
  | .sequence body => exact isPart_blockBranching ⟨hplain, ⟨none, [], hlinks⟩, live, hagrees⟩ hk
  | .plain _ => cases hk

/-- **Every statement that becomes a branch is a part of its function.** -/
theorem isPart_blockBranching {n k : Nat} {body : List FlowStmt} {inner : FlowStmt}
    (h : IsBlock Link Live n body) (hk : (blockBranching body)[k]? = some inner) : IsPart Link Live (n + k) inner := by
  obtain ⟨hplain, ⟨entry, pending, hlinks⟩, live, hagrees⟩ := h
  match body with
  | [] => cases hk
  | stmt :: rest =>
    rw [blockPlainFalls, Bool.and_eq_true] at hplain
    obtain ⟨hfirst, hrest⟩ := agrees_append.1 hagrees
    rw [length_marks] at hrest
    rcases getElem?_append_cases hk with hk | ⟨j, rfl, hj⟩
    · refine isPart_branching ⟨hplain.1, fun a b hab => hlinks a b ?_, _, hfirst⟩ hk
      simp only [lowerFrom, joins_append]
      exact .inl (.inl hab)
    · rw [← Nat.add_assoc]
      -- What the rest is lowered with depends on the entry of the first statement.
      refine isPart_blockBranching ⟨hplain.2, ?_, _, hrest⟩ hj
      rw [← next_lower_eq]
      cases hentry : (lower n stmt).entry
      all_goals
        simp only [lowerFrom, hentry, joins_append] at hlinks
        exact ⟨_, _, fun a b hab => hlinks a b (.inr hab)⟩

theorem isPart_optionBranching {n k : Nat} {body : Option (List FlowStmt)} {inner : FlowStmt} {live : Bool}
    (hplain : optionPlainFalls body = true) (hlinks : ∀ a b, Joins (lowerOption n body).pieces a b → Link a b)
    (hagrees : Agrees Live n (optionMarks live body)) (hk : (optionBranching body)[k]? = some inner) :
    IsPart Link Live (n + k) inner := by
  match body with
  | none => cases hk
  | some body => exact isPart_blockBranching ⟨hplain, ⟨none, [], hlinks⟩, live, hagrees⟩ hk

theorem isPart_allBranching (source : Nat) {n k : Nat} {bodies : List (List FlowStmt)} {inner : FlowStmt} {live : Bool}
    (hplain : allPlainFall bodies = true)
    (hlinks : ∀ a b, Joins (lowerHandlers source n bodies).pieces a b → Link a b)
    (hagrees : Agrees Live n (allMarks live bodies)) (hk : (allBranching bodies)[k]? = some inner) :
    IsPart Link Live (n + k) inner := by
  match bodies with
  | [] => cases hk
  | body :: rest =>
    rw [allPlainFall, Bool.and_eq_true] at hplain
    obtain ⟨hfirst, hrest⟩ := agrees_append.1 hagrees
    rw [length_blockMarks] at hrest
    simp only [lowerHandlers, joins_append] at hlinks
    rcases getElem?_append_cases hk with hk | ⟨j, rfl, hj⟩
    · exact isPart_blockBranching
        ⟨hplain.1, ⟨none, [], fun a b hab => hlinks a b (.inl (.inl hab))⟩, _, hfirst⟩ hk
    · rw [← Nat.add_assoc]
      refine isPart_allBranching source hplain.2 (fun a b hab => hlinks a b (.inr ?_)) hrest hj
      rwa [next_lowerFrom]

end

/-! ### Entries -/

variable {n : Nat}

/-- Where blocks are entered that come one after the other, when the first branch in them has the ordinal `n`. -/
def entries : (n : Nat) → List (List FlowStmt) → List Nat
  | _, [] => []
  | n, body :: rest => (lowerBlock n body).entry.toList ++ entries (lowerBlock n body).next rest

/-- Where what is done after a guarded block is entered, when its branch has the ordinal `n`. -/
def finalEntry (n : Nat) (body : List FlowStmt) (handlers : List (List FlowStmt))
    (finalBody : Option (List FlowStmt)) : Option Nat :=
  (lowerOption (lowerHandlers n (lowerBlock (n + 1) body).next handlers).next finalBody).entry

/-- The entry of a block is live when the block is. -/
theorem live_entry {live : Bool} {body : List FlowStmt} (hplain : blockPlainFalls body = true)
    (hagrees : Agrees Live n (blockMarks live body)) {i : Nat} (hi : (lowerBlock n body).entry = some i) :
    Live i ↔ live = true := by
  cases follows_lowerBlock hplain hagrees with
  | entered entry first => exact Option.some.inj (entry.symm.trans hi) ▸ first
  | empty entry => cases entry.symm.trans hi

theorem lt_of_entry {body : List FlowStmt} {i : Nat} (hi : (lowerBlock n body).entry = some i) :
    i < (lowerBlock n body).next :=
  (wellScoped_lowerFrom n none [] body (by simp) (by simp)).entry i hi

theorem live_of_mem_entries {live : Bool} {bodies : List (List FlowStmt)} (hplain : allPlainFall bodies = true)
    (hagrees : Agrees Live n (allMarks live bodies)) {i : Nat} (hi : i ∈ entries n bodies) :
    (Live i ↔ live = true) ∧ i < n + (allBranching bodies).length := by
  induction bodies generalizing n with
  | nil => cases hi
  | cons body rest ih =>
    rw [allPlainFall, Bool.and_eq_true] at hplain
    obtain ⟨hfirst, hrest⟩ := agrees_append.1 hagrees
    rw [← next_lowerBlock] at hrest
    rw [allBranching, List.length_append, ← Nat.add_assoc, ← next_lowerFrom n none []]
    rcases List.mem_append.1 hi with hi | hi
    · have hentry := Option.mem_toList.1 hi
      exact ⟨live_entry hplain.1 hfirst hentry, Nat.lt_add_right _ (lt_of_entry hentry)⟩
    · exact ih hplain.2 hrest hi

/-- The same for what is done after a guarded block: it is live when the body or a handler completes. -/
theorem live_finalEntry {live : Bool} {site : Site} {body : List FlowStmt} {handlers : List (List FlowStmt)}
    {finalBody : Option (List FlowStmt)} (hplain : plainFalls (.guarded site body handlers finalBody) = true)
    (hagrees : Agrees Live n (marks live (.guarded site body handlers finalBody))) {i : Nat}
    (hi : finalEntry n body handlers finalBody = some i) :
    (Live i ↔ (live && (blockCompletes body || anyCompletes handlers)) = true) ∧
      i < (lower n (.guarded site body handlers finalBody)).next := by
  match finalBody with
  | none => cases hi
  | some finalBody =>
    simp only [plainFalls, Bool.and_eq_true] at hplain
    obtain ⟨-, hfinal⟩ := agrees_append.1 hagrees.2
    rw [List.length_append, length_blockMarks, length_allMarks, ← Nat.add_assoc,
      ← next_lowerFrom _ none [], ← next_lowerHandlers_eq n] at hfinal
    refine ⟨live_entry hplain.2 hfinal hi, ?_⟩
    have hlt := lt_of_entry hi
    rw [lowerBlock, lowerBlock, next_lowerFrom, next_lowerHandlers_eq, next_lowerFrom] at hlt
    rw [next_lower_eq, branching, optionBranching, List.length_cons, List.length_append, List.length_append]
    omega

/-! ### What a statement leads to -/

/-- **A statement leads to each of its branches that is live when the statement is.** -/
theorem reflTransGen_of_live {stmt : FlowStmt} (hplain : plainFalls stmt = true)
    (hentry : (lower n stmt).entry = some n) (hagrees : Agrees Live n (marks true stmt))
    (hbehind : ∀ i, Live i → n ≤ i) {i : Nat} (hlive : Live i) (hlt : i < (lower n stmt).next) :
    Relation.ReflTransGen (Joins (lower n stmt).pieces) n i := by
  cases follows_lower hplain hagrees with
  | entered _ _ links =>
    -- A live branch is the first one, or it is led to from a live branch before it.
    induction i using Nat.strongRecOn with
    | ind i ih =>
      rcases Nat.eq_or_lt_of_le (hbehind i hlive) with rfl | hpos
      · exact .refl
      · obtain ⟨a, hlink, ha⟩ := links.reached hpos hlt hlive
        exact (ih a (links.forward hlink) ha (Nat.lt_trans (links.forward hlink) hlt)).tail hlink
  | empty entry => cases entry.symm.trans hentry

/-- **A guarded block leads to its body and to its handlers, and to what is done after them** when one of them
completes. -/
theorem reflTransGen_guarded {site : Site} {body : List FlowStmt} {handlers : List (List FlowStmt)}
    {finalBody : Option (List FlowStmt)} (hplain : plainFalls (.guarded site body handlers finalBody) = true) :
    (∀ i ∈ entries (n + 1) (body :: handlers),
      Relation.ReflTransGen (Joins (lower n (.guarded site body handlers finalBody)).pieces) n i) ∧
    ((blockCompletes body || anyCompletes handlers) = true → ∀ i ∈ finalEntry n body handlers finalBody,
      Relation.ReflTransGen (Joins (lower n (.guarded site body handlers finalBody)).pieces) n i) := by
  -- Nothing is live before the block, and in the block what its marks say.
  let before := List.replicate n ((site, false) : Site × Bool)
  let all := marks true (.guarded site body handlers finalBody)
  have hagrees : Agrees (fun i => (before ++ all)[i]?.any (·.2) = true) n all := by
    have h := Skeleton.agrees_marks before all
    rwa [List.length_replicate] at h
  have hbehind (i : Nat) (hi : (before ++ all)[i]?.any (·.2) = true) : n ≤ i := by
    by_contra hlt
    rw [List.getElem?_append_left (by simpa [before] using hlt), List.getElem?_replicate_of_lt (by omega)] at hi
    cases hi
  have hentry : (lower n (.guarded site body handlers finalBody)).entry = some n := entry_lower _ _
  have hleads {i : Nat} := @reflTransGen_of_live _ n _ hplain hentry hagrees hbehind i
  refine ⟨fun i hi => ?_, fun hcompletes i hi => ?_⟩
  · simp only [plainFalls, Bool.and_eq_true] at hplain
    have hblocks : allPlainFall (body :: handlers) = true := by
      rw [allPlainFall, hplain.1.1, hplain.1.2]
      rfl
    obtain ⟨hlive, hlt⟩ := live_of_mem_entries hblocks (agrees_append.1 hagrees.2).1 hi
    refine hleads (hlive.2 rfl) ?_
    rw [next_lower_eq, branching, List.length_cons, List.length_append]
    rw [allBranching] at hlt
    omega
  · obtain ⟨hlive, hlt⟩ := live_finalEntry hplain hagrees hi
    exact hleads (hlive.2 (by rw [hcompletes]; rfl)) hlt

end FlowStmt

end StructuralDiff
