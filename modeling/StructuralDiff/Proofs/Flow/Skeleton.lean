import Mathlib.Data.List.Basic
import StructuralDiff.Flow.Skeleton
import StructuralDiff.Proofs.Text.Number

/-!
# The scope of skeletons

A skeleton refers to its branches by their ordinals.

* `FlowStmt.wellScoped_lower`: lowering numbers its branches without gaps, and a link only joins branches
  that stand before it.
* `Skeleton.scoped_ofBody`: so every link of a function, and its entry, is at one of its branches.
* `Skeleton.nodup_labels`: no two branches of a function have the same label.
* `Skeleton.ofBody_of_bareAll`: where the sites stand, and how they are written, has no part in this.
-/

namespace StructuralDiff

/-! ### Scopes -/

namespace Piece

/-- The pieces that are branches. -/
def isBranch : Piece → Bool
  | .branch _ => true
  | .link _ _ _ => false

/-- How many branches a list of pieces has. -/
def branchCount (pieces : List Piece) : Nat :=
  pieces.countP isBranch

/-- Each link joins branches that stand before it, when there are `n` of them before the list. -/
def Scoped : (n : Nat) → List Piece → Prop
  | _, [] => True
  | n, .branch _ :: rest => Scoped (n + 1) rest
  | n, .link source target _ :: rest => source < n ∧ target < n ∧ Scoped n rest

@[simp]
theorem branchCount_nil : branchCount [] = 0 := rfl

@[simp]
theorem branchCount_append (a b : List Piece) : branchCount (a ++ b) = branchCount a + branchCount b :=
  List.countP_append

@[simp]
theorem branchCount_branch (site : Site) (rest : List Piece) :
    branchCount (.branch site :: rest) = branchCount rest + 1 :=
  List.countP_cons_of_pos rfl

@[simp]
theorem branchCount_link (source target : Nat) (flow : FlowType) (rest : List Piece) :
    branchCount (.link source target flow :: rest) = branchCount rest :=
  List.countP_cons_of_neg (by simp [isBranch])

/-- The sites of the branches among the pieces. -/
def sites (pieces : List Piece) : List Site :=
  pieces.filterMap fun
    | .branch site => some site
    | .link _ _ _ => none

@[simp]
theorem sites_append (a b : List Piece) : sites (a ++ b) = sites a ++ sites b :=
  List.filterMap_append

@[simp]
theorem sites_branch (site : Site) (rest : List Piece) :
    sites (.branch site :: rest) = site :: sites rest := rfl

@[simp]
theorem sites_link (source target : Nat) (flow : FlowType) (rest : List Piece) :
    sites (.link source target flow :: rest) = sites rest := rfl

theorem length_sites (pieces : List Piece) : (sites pieces).length = branchCount pieces := by
  induction pieces with
  | nil => rfl
  | cons piece rest ih =>
    cases piece with
    | branch site => rw [sites_branch, List.length_cons, ih, branchCount_branch]
    | link source target flow => rw [sites_link, ih, branchCount_link]

theorem sites_eq_nil {pieces : List Piece} (h : branchCount pieces = 0) : sites pieces = [] := by
  rw [← List.length_eq_zero_iff, length_sites, h]

theorem scoped_append {n : Nat} {a b : List Piece} :
    Scoped n (a ++ b) ↔ Scoped n a ∧ Scoped (n + branchCount a) b := by
  induction a generalizing n with
  | nil => simp [Scoped]
  | cons piece rest ih =>
    cases piece with
    | branch site =>
      rw [List.cons_append, Scoped, Scoped, ih, branchCount_branch, Nat.add_right_comm, Nat.add_assoc]
    | link source target flow =>
      rw [List.cons_append, Scoped, Scoped, ih, branchCount_link]
      constructor
      · rintro ⟨hs, ht, ha, hb⟩
        exact ⟨⟨hs, ht, ha⟩, hb⟩
      · rintro ⟨⟨hs, ht, ha⟩, hb⟩
        exact ⟨hs, ht, ha, hb⟩

end Piece

namespace Lowered

open Piece

/-- What a statement or a block becomes when `n` branches stand before it: its branches are numbered on from
there, and nothing in it refers to a branch that is not there yet. -/
structure WellScoped (n : Nat) (lowered : Lowered) : Prop where
  next : lowered.next = n + branchCount lowered.pieces
  pieces : Scoped n lowered.pieces
  entry : ∀ branch ∈ lowered.entry, branch < lowered.next
  exits : ∀ anchor ∈ lowered.exits, anchor.source < lowered.next

variable {n source : Nat} {flow : FlowType} {block : Lowered}

theorem WellScoped.le_next (h : WellScoped n block) : n ≤ block.next := by
  rw [h.next]
  exact Nat.le_add_right _ _

@[simp]
theorem branchCount_connect (anchors : List Anchor) (target : Nat) :
    branchCount (connect anchors target) = 0 := by
  induction anchors with
  | nil => rfl
  | cons anchor rest ih => simpa [connect] using ih

@[simp]
theorem branchCount_enter (source : Nat) (flow : FlowType) (block : Lowered) :
    branchCount (enter source flow block) = 0 := by
  unfold enter
  split <;> rfl

theorem scoped_connect {anchors : List Anchor} {target : Nat}
    (hanchors : ∀ anchor ∈ anchors, anchor.source < n) (htarget : target < n) :
    Scoped n (connect anchors target) := by
  induction anchors with
  | nil => trivial
  | cons anchor rest ih =>
    rw [List.forall_mem_cons] at hanchors
    exact ⟨hanchors.1, htarget, ih hanchors.2⟩

theorem scoped_enter (hsource : source < n) (hentry : ∀ branch ∈ block.entry, branch < n) :
    Scoped n (enter source flow block) := by
  unfold enter
  split
  · next entry h => exact ⟨hsource, hentry entry h, trivial⟩
  · trivial

theorem source_lt_of_mem_continuations (hsource : source < n)
    (hexits : ∀ anchor ∈ block.exits, anchor.source < n) :
    ∀ anchor ∈ continuations source flow block, anchor.source < n := by
  intro anchor hanchor
  unfold continuations at hanchor
  split at hanchor
  · exact hexits anchor hanchor
  · split at hanchor
    · rw [List.mem_singleton] at hanchor
      rw [hanchor]
      exact hsource
    · cases hanchor

theorem wellScoped_absent (n : Nat) : WellScoped n (absent n) :=
  ⟨rfl, trivial, by simp [absent], by simp [absent]⟩

end Lowered

namespace FlowStmt

open Piece Lowered

/-- A site with a block that is entered from it. -/
theorem wellScoped_of_block {n : Nat} {site : Site} {flow : FlowType} {inner : Lowered}
    (h : WellScoped (n + 1) inner) {exits : List Anchor} {falls : Bool}
    (hexits : ∀ anchor ∈ exits, anchor.source < inner.next) :
    WellScoped n
      { entry := some n, exits, falls, next := inner.next
        pieces := .branch site :: inner.pieces ++ enter n flow inner } := by
  have hle := h.le_next
  refine ⟨?_, ?_, ?_, hexits⟩
  · have := h.next
    simp only [List.cons_append, branchCount_branch, branchCount_append, branchCount_enter]
    omega
  · refine scoped_append.2 ⟨h.pieces, ?_⟩
    have := h.next
    refine scoped_enter ?_ fun branch hbranch => ?_
    · simp only [branchCount_branch]
      omega
    · have := h.entry branch hbranch
      simp only [branchCount_branch]
      omega
  · rintro branch ⟨⟩
    exact hle

/-- The links into one side of a condition, if it can be reached. -/
theorem scoped_side {n source : Nat} {flow : FlowType} {side : Lowered} (reachable : Bool)
    (hsource : source < n) (hentry : ∀ branch ∈ side.entry, branch < n) :
    Scoped n (if reachable then enter source flow side else []) := by
  split
  · exact scoped_enter hsource hentry
  · trivial

theorem branchCount_side (source : Nat) (flow : FlowType) (side : Lowered) (reachable : Bool) :
    branchCount (if reachable then enter source flow side else []) = 0 := by
  split
  · exact branchCount_enter _ _ _
  · rfl

theorem wellScoped_ofCond {n : Nat} {site : Site} {truth : Option Bool} {thenSide elseSide : Lowered}
    {hasElse : Bool} (hthen : WellScoped (n + 1) thenSide) (helse : WellScoped thenSide.next elseSide) :
    WellScoped n (ofCond n site truth thenSide elseSide hasElse) := by
  have hthenNext := hthen.next
  have helseNext := helse.next
  have hthenEntry : ∀ branch ∈ thenSide.entry, branch < elseSide.next := fun branch h =>
    Nat.lt_of_lt_of_le (hthen.entry branch h) helse.le_next
  have hn : n < elseSide.next := Nat.lt_of_lt_of_le hthen.le_next helse.le_next
  -- The links of the two sides come last, when all branches are there.
  have hpieces : Scoped n (Piece.branch site :: thenSide.pieces ++ elseSide.pieces
      ++ (if truth != some false then enter n .true thenSide else [])
      ++ (if truth != some true then enter n .false elseSide else [])) := by
    have hall : n + branchCount (Piece.branch site :: thenSide.pieces ++ elseSide.pieces)
        = elseSide.next := by
      simp only [List.cons_append, branchCount_branch, branchCount_append]
      omega
    refine scoped_append.2 ⟨scoped_append.2 ⟨scoped_append.2 ⟨hthen.pieces, ?_⟩, ?_⟩, ?_⟩
    · rw [branchCount_branch, show n + (branchCount thenSide.pieces + 1) = thenSide.next by omega]
      exact helse.pieces
    · rw [hall]
      exact scoped_side _ hn hthenEntry
    · rw [branchCount_append, branchCount_side, Nat.add_zero, hall]
      exact scoped_side _ hn helse.entry
  have hcount : elseSide.next = n + branchCount (Piece.branch site :: thenSide.pieces
      ++ elseSide.pieces ++ (if truth != some false then enter n .true thenSide else [])
      ++ (if truth != some true then enter n .false elseSide else [])) := by
    rw [branchCount_append, branchCount_append, branchCount_side, branchCount_side]
    simp only [List.cons_append, branchCount_branch, branchCount_append]
    omega
  have hentry : ∀ branch ∈ some n, branch < elseSide.next := by
    rintro branch ⟨⟩
    exact hn
  cases hasElse with
  | true =>
    refine ⟨hcount, hpieces, hentry, fun anchor hanchor => ?_⟩
    simp only [ofCond, if_true, List.mem_eraseDups, List.mem_append] at hanchor
    rcases hanchor with ((hanchor | hanchor) | hanchor) | hanchor
    · exact Nat.lt_of_lt_of_le (hthen.exits anchor (List.mem_ite_nil_right.1 hanchor |>.2)) helse.le_next
    · exact helse.exits anchor (List.mem_ite_nil_right.1 hanchor |>.2)
    · rw [List.mem_singleton.1 (List.mem_ite_nil_right.1 hanchor |>.2)]
      exact hn
    · rw [List.mem_singleton.1 (List.mem_ite_nil_right.1 hanchor |>.2)]
      exact hn
  | false =>
    refine ⟨hcount, hpieces, hentry, fun anchor hanchor => ?_⟩
    rw [List.mem_singleton.1 hanchor]
    exact hn

theorem wellScoped_ofGuarded {n : Nat} {site : Site} {body handlers finalSide : Lowered}
    (hbody : WellScoped (n + 1) body) (hhandlers : WellScoped body.next handlers)
    (hfinal : WellScoped handlers.next finalSide) :
    WellScoped n (ofGuarded n site body handlers finalSide) := by
  have hbodyNext := hbody.next
  have hhandlersNext := hhandlers.next
  have hfinalNext := hfinal.next
  have hn : n < handlers.next := Nat.lt_of_lt_of_le hbody.le_next hhandlers.le_next
  have hle := hfinal.le_next
  -- what waits for the end has its branch already
  have hexits : ∀ anchor ∈ continuations n .next body ++ handlers.exits,
      anchor.source < finalSide.next := by
    intro anchor hanchor
    rcases List.mem_append.1 hanchor with hanchor | hanchor
    · refine Nat.lt_of_lt_of_le ?_ hle
      refine source_lt_of_mem_continuations hn (fun anchor h => ?_) anchor hanchor
      exact Nat.lt_of_lt_of_le (hbody.exits anchor h) hhandlers.le_next
    · exact Nat.lt_of_lt_of_le (hhandlers.exits anchor hanchor) hle
  -- each part begins with the ordinal at which the one before it ends
  have hpieces : Scoped n (Piece.branch site :: body.pieces ++ enter n .next body ++ handlers.pieces
      ++ finalSide.pieces) := by
    refine scoped_append.2 ⟨scoped_append.2 ⟨scoped_append.2 ⟨hbody.pieces, ?_⟩, ?_⟩, ?_⟩
    · rw [branchCount_branch, show n + (branchCount body.pieces + 1) = body.next by omega]
      exact scoped_enter hbody.le_next hbody.entry
    · rw [branchCount_append, branchCount_enter, branchCount_branch,
        show n + (branchCount body.pieces + 1 + 0) = body.next by omega]
      exact hhandlers.pieces
    · rw [branchCount_append, branchCount_append, branchCount_enter, branchCount_branch,
        show n + (branchCount body.pieces + 1 + 0 + branchCount handlers.pieces) = handlers.next by omega]
      exact hfinal.pieces
  have hcount : n + branchCount (Piece.branch site :: body.pieces ++ enter n .next body
      ++ handlers.pieces ++ finalSide.pieces) = finalSide.next := by
    simp only [List.cons_append, branchCount_branch, branchCount_append, branchCount_enter]
    omega
  have hentry : ∀ branch ∈ some n, branch < finalSide.next := by
    rintro branch ⟨⟩
    exact Nat.lt_of_lt_of_le hn hle
  unfold ofGuarded
  dsimp only
  split
  · next entry hsome =>
    refine ⟨?_, scoped_append.2 ⟨hpieces, ?_⟩, hentry, fun anchor hanchor => ?_⟩
    · rw [branchCount_append, branchCount_connect, Nat.add_zero, hcount]
    · rw [hcount]
      exact scoped_connect hexits (hfinal.entry entry hsome)
    · exact hfinal.exits anchor (List.mem_eraseDups.1 hanchor)
  · exact ⟨hcount.symm, hpieces, hentry, fun anchor hanchor =>
      hexits anchor (List.mem_eraseDups.1 hanchor)⟩

mutual

/-- **Lowering numbers its branches without gaps, and a link only joins branches before it.** -/
theorem wellScoped_lower (n : Nat) (stmt : FlowStmt) : WellScoped n (lower n stmt) := by
  match stmt with
  | .cond site truth thenBody elseBody =>
    have hthen := wellScoped_lowerFrom (n + 1) none [] thenBody (by simp) (by simp)
    exact wellScoped_ofCond hthen (wellScoped_lowerOption _ elseBody)
  | .exit site =>
    exact ⟨rfl, trivial, by simp [lower], by simp [lower]⟩
  | .call site =>
    exact ⟨rfl, trivial, by simp [lower], by simp [lower]⟩
  | .loop site body =>
    have hinner := wellScoped_lowerFrom (n + 1) none [] body (by simp) (by simp)
    refine wellScoped_of_block hinner fun anchor hanchor => ?_
    rcases List.mem_cons.1 (List.mem_eraseDups.1 hanchor) with rfl | hanchor
    · exact hinner.le_next
    · exact hinner.exits anchor hanchor
  | .guarded site body handlers finalBody =>
    have hbody := wellScoped_lowerFrom (n + 1) none [] body (by simp) (by simp)
    have hhandlers := wellScoped_lowerHandlers n _ handlers hbody.le_next
    exact wellScoped_ofGuarded hbody hhandlers (wellScoped_lowerOption _ finalBody)
  | .scoped site body =>
    have hinner := wellScoped_lowerFrom (n + 1) none [] body (by simp) (by simp)
    exact wellScoped_of_block hinner (source_lt_of_mem_continuations hinner.le_next hinner.exits)
  | .sequence body => exact wellScoped_lowerFrom n none [] body (by simp) (by simp)
  | .plain falls => exact ⟨rfl, trivial, by simp [lower], by simp [lower]⟩

theorem wellScoped_lowerFrom (n : Nat) (entry : Option Nat) (pending : List Anchor)
    (body : List FlowStmt) (hentry : ∀ branch ∈ entry, branch < n)
    (hpending : ∀ anchor ∈ pending, anchor.source < n) :
    WellScoped n (lowerFrom n entry pending body) := by
  match body with
  | [] => exact ⟨rfl, trivial, hentry, hpending⟩
  | stmt :: rest =>
    have hfirst := wellScoped_lower n stmt
    have hle := hfirst.le_next
    have hnext := hfirst.next
    -- a statement with an entry takes the anchors that wait and leaves its own exits; one without leaves them
    -- waiting
    cases hsome : (lower n stmt).entry with
    | some target =>
      have htarget := hfirst.entry target hsome
      have hlater := wellScoped_lowerFrom (lower n stmt).next (entry.or (some target))
        (lower n stmt).exits rest ?_ hfirst.exits
      · have hlaterNext := hlater.next
        simp only [lowerFrom, hsome]
        refine ⟨?_, scoped_append.2 ⟨scoped_append.2 ⟨hfirst.pieces, ?_⟩, ?_⟩, hlater.entry, hlater.exits⟩
        · simp only [branchCount_append, branchCount_connect]
          omega
        · rw [← hnext]
          exact scoped_connect (fun anchor h => Nat.lt_of_lt_of_le (hpending anchor h) hle) htarget
        · rw [branchCount_append, branchCount_connect, Nat.add_zero, ← hnext]
          exact hlater.pieces
      · intro branch hbranch
        cases entry with
        | none => exact Option.some.inj hbranch ▸ htarget
        | some first => exact Nat.lt_of_lt_of_le (hentry branch hbranch) hle
    | none =>
      have hlater := wellScoped_lowerFrom (lower n stmt).next entry
        (if (lower n stmt).falls then pending else []) rest
        (fun branch h => Nat.lt_of_lt_of_le (hentry branch h) hle)
        (fun anchor h =>
          Nat.lt_of_lt_of_le (hpending anchor (List.mem_ite_nil_right.1 h).2) hle)
      have hlaterNext := hlater.next
      simp only [lowerFrom, hsome, List.append_nil]
      refine ⟨?_, scoped_append.2 ⟨hfirst.pieces, ?_⟩, hlater.entry, hlater.exits⟩
      · simp only [branchCount_append]
        omega
      · rw [← hnext]
        exact hlater.pieces

theorem wellScoped_lowerOption (n : Nat) (body : Option (List FlowStmt)) :
    WellScoped n (lowerOption n body) := by
  match body with
  | none => exact wellScoped_absent n
  | some body => exact wellScoped_lowerFrom n none [] body (by simp) (by simp)

theorem wellScoped_lowerHandlers (source n : Nat) (handlers : List (List FlowStmt))
    (hsource : source < n) : WellScoped n (lowerHandlers source n handlers) := by
  match handlers with
  | [] => exact ⟨rfl, trivial, by simp [lowerHandlers, absent], by simp [lowerHandlers, absent]⟩
  | body :: rest =>
    have hfirst := wellScoped_lowerFrom n none [] body (by simp) (by simp)
    have hle := hfirst.le_next
    have hlater := wellScoped_lowerHandlers source _ rest (Nat.lt_of_lt_of_le hsource hle)
    have hnext := hfirst.next
    have hlaterNext := hlater.next
    simp only [lowerHandlers]
    refine ⟨?_, scoped_append.2 ⟨scoped_append.2 ⟨hfirst.pieces, ?_⟩, ?_⟩, by simp, ?_⟩
    · simp only [branchCount_append, branchCount_enter]
      omega
    · rw [← hnext]
      exact scoped_enter (Nat.lt_of_lt_of_le hsource hle) hfirst.entry
    · rw [branchCount_append, branchCount_enter, Nat.add_zero, ← hnext]
      exact hlater.pieces
    · intro anchor hanchor
      rcases List.mem_append.1 hanchor with hanchor | hanchor
      · refine Nat.lt_of_lt_of_le ?_ hlater.le_next
        exact source_lt_of_mem_continuations (Nat.lt_of_lt_of_le hsource hle) hfirst.exits anchor hanchor
      · exact hlater.exits anchor hanchor

end

end FlowStmt

/-! ### Sites -/

/-- A site without its place and its looks. -/
def Site.bare (site : Site) : Site :=
  { site with lines := (0, 0), snippet := "" }

theorem Site.eq_of_bare_eq {a b : Site} (h : a.bare = b.bare) :
    a.kind = b.kind ∧ a.signature = b.signature ∧ a.callee = b.callee := by
  simpa [Site.bare] using h

theorem Site.bare_with_snippet {a b : Site} (h : a.bare = b.bare) (snippet : String) :
    ({ a with snippet } : Site).bare = ({ b with snippet } : Site).bare := by
  simpa [Site.bare] using h

theorem Site.bare_with_callee {a b : Site} (h : a.bare = b.bare) (callee : Option String) :
    ({ a with callee } : Site).bare = ({ b with callee } : Site).bare := by
  obtain ⟨hkind, hsignature, -⟩ := Site.eq_of_bare_eq h
  simp [Site.bare, hkind, hsignature]

/-- A piece whose site has lost its place and its looks. -/
def Piece.bare : Piece → Piece
  | .branch site => .branch site.bare
  | .link source target flow => .link source target flow

/-- A lowered block whose sites have lost their places and their looks. -/
def Lowered.bare (lowered : Lowered) : Lowered :=
  { lowered with pieces := lowered.pieces.map Piece.bare }

namespace FlowStmt

mutual

/-- A statement whose sites have lost their places and their looks. -/
def bare : FlowStmt → FlowStmt
  | .cond site truth thenBody elseBody =>
    .cond site.bare truth (bareAll thenBody) (bareOption elseBody)
  | .exit site => .exit site.bare
  | .call site => .call site.bare
  | .loop site body => .loop site.bare (bareAll body)
  | .guarded site body handlers finalBody =>
    .guarded site.bare (bareAll body) (bareEach handlers) (bareOption finalBody)
  | .scoped site body => .scoped site.bare (bareAll body)
  | .sequence body => .sequence (bareAll body)
  | .plain falls => .plain falls

/-- A block whose sites have lost their places and their looks. -/
def bareAll : List FlowStmt → List FlowStmt
  | [] => []
  | stmt :: rest => bare stmt :: bareAll rest

/-- The same for a block that may be absent. -/
def bareOption : Option (List FlowStmt) → Option (List FlowStmt)
  | none => none
  | some body => some (bareAll body)

/-- The same for several blocks. -/
def bareEach : List (List FlowStmt) → List (List FlowStmt)
  | [] => []
  | body :: rest => bareAll body :: bareEach rest

end

theorem bareAll_eq_map (body : List FlowStmt) : bareAll body = body.map bare := by
  induction body with
  | nil => rfl
  | cons stmt rest ih => rw [bareAll, List.map_cons, ih]

theorem bareOption_eq_map (body : Option (List FlowStmt)) : bareOption body = body.map bareAll := by
  cases body with
  | none => rfl
  | some body => rfl

theorem bareEach_eq_map (bodies : List (List FlowStmt)) : bareEach bodies = bodies.map bareAll := by
  induction bodies with
  | nil => rfl
  | cons body rest ih => rw [bareEach, List.map_cons, ih]

/-- A chain of cases is compared case by case. -/
theorem bare_ite {c : Prop} [Decidable c] {a b a' b' : FlowStmt} (ha : c → a.bare = a'.bare)
    (hb : b.bare = b'.bare) : (if c then a else b).bare = (if c then a' else b').bare := by
  split
  · next hc => exact ha hc
  · exact hb

theorem bareAll_append (a b : List FlowStmt) : bareAll (a ++ b) = bareAll a ++ bareAll b := by
  simp only [bareAll_eq_map, List.map_append]

theorem bareAll_flatten (bodies : List (List FlowStmt)) :
    bareAll bodies.flatten = (bareEach bodies).flatten := by
  induction bodies with
  | nil => rfl
  | cons body rest ih => rw [List.flatten_cons, bareAll_append, ih, bareEach, List.flatten_cons]

theorem isSome_bareOption (body : Option (List FlowStmt)) : (bareOption body).isSome = body.isSome := by
  cases body <;> rfl

mutual

theorem fallsThrough_bare (stmt : FlowStmt) : (bare stmt).fallsThrough = stmt.fallsThrough := by
  match stmt with
  | .cond _ _ thenBody elseBody =>
    simp only [bare, fallsThrough, blockFallsThrough_bareAll thenBody, optionFallsThrough_bareOption elseBody]
  | .exit _ => rfl
  | .call _ => rfl
  | .loop _ _ => rfl
  | .guarded _ body handlers finalBody =>
    simp only [bare, fallsThrough, blockFallsThrough_bareAll body, anyFallsThrough_bareEach handlers,
      optionFallsThrough_bareOption finalBody]
  | .scoped _ body => simp only [bare, fallsThrough, blockFallsThrough_bareAll body]
  | .sequence body => simp only [bare, fallsThrough, blockFallsThrough_bareAll body]
  | .plain _ => rfl

theorem blockFallsThrough_bareAll (body : List FlowStmt) :
    blockFallsThrough (bareAll body) = blockFallsThrough body := by
  match body with
  | [] => rfl
  | stmt :: rest =>
    simp only [bareAll, blockFallsThrough, fallsThrough_bare stmt, blockFallsThrough_bareAll rest]

theorem optionFallsThrough_bareOption (body : Option (List FlowStmt)) :
    optionFallsThrough (bareOption body) = optionFallsThrough body := by
  match body with
  | none => rfl
  | some body => exact blockFallsThrough_bareAll body

theorem anyFallsThrough_bareEach (handlers : List (List FlowStmt)) :
    anyFallsThrough (bareEach handlers) = anyFallsThrough handlers := by
  match handlers with
  | [] => rfl
  | body :: rest =>
    simp only [bareEach, anyFallsThrough, blockFallsThrough_bareAll body, anyFallsThrough_bareEach rest]

end

end FlowStmt

namespace Lowered

section Bare

variable (block : Lowered)

@[simp]
theorem entry_bare : block.bare.entry = block.entry := rfl

@[simp]
theorem exits_bare : block.bare.exits = block.exits := rfl

@[simp]
theorem falls_bare : block.bare.falls = block.falls := rfl

@[simp]
theorem next_bare : block.bare.next = block.next := rfl

@[simp]
theorem pieces_bare : block.bare.pieces = block.pieces.map Piece.bare := rfl

theorem map_bare_connect (anchors : List Anchor) (target : Nat) :
    (connect anchors target).map Piece.bare = connect anchors target := by
  simp [connect, Piece.bare]

theorem enter_bare (source : Nat) (flow : FlowType) :
    enter source flow block.bare = (enter source flow block).map Piece.bare := by
  rw [enter, enter, entry_bare]
  cases block.entry <;> rfl

theorem continuations_bare (source : Nat) (flow : FlowType) :
    continuations source flow block.bare = continuations source flow block := rfl

end Bare

theorem ofCond_bare (id : Nat) (site : Site) (truth : Option Bool) (thenSide elseSide : Lowered)
    (hasElse : Bool) : ofCond id site.bare truth thenSide.bare elseSide.bare hasElse =
      (ofCond id site truth thenSide elseSide hasElse).bare := by
  have hside (reachable : Bool) (flow : FlowType) (side : Lowered) :
      (if reachable then enter id flow side.bare else []) =
        (if reachable then enter id flow side else []).map Piece.bare := by
    cases reachable
    · rfl
    · exact enter_bare side id flow
  cases hasElse
  all_goals
    simp only [ofCond, hside, entry_bare, exits_bare, falls_bare, next_bare, pieces_bare, if_true,
      Bool.false_eq_true, if_false]
    simp only [bare, List.map_append, List.map_cons, Piece.bare]
    rfl

theorem ofGuarded_bare (id : Nat) (site : Site) (body handlers finalSide : Lowered) :
    ofGuarded id site.bare body.bare handlers.bare finalSide.bare =
      (ofGuarded id site body handlers finalSide).bare := by
  simp only [ofGuarded, enter_bare, continuations_bare, entry_bare, exits_bare, falls_bare, next_bare,
    pieces_bare]
  cases finalSide.entry
  all_goals simp only [bare, List.map_append, List.map_cons, Piece.bare, map_bare_connect]

end Lowered

namespace FlowStmt

open Lowered

mutual

theorem lower_bare (n : Nat) (stmt : FlowStmt) : lower n (bare stmt) = (lower n stmt).bare := by
  match stmt with
  | .cond site truth thenBody elseBody =>
    simp only [bare, lower, lowerFrom_bareAll, lowerOption_bareOption, isSome_bareOption, next_bare]
    exact ofCond_bare _ _ _ _ _ _
  | .exit _ => rfl
  | .call _ => rfl
  | .loop site body =>
    simp only [bare, lower, lowerFrom_bareAll, enter_bare, exits_bare, next_bare, pieces_bare]
    simp only [Lowered.bare, List.map_append, List.map_cons, Piece.bare]
  | .guarded site body handlers finalBody =>
    simp only [bare, lower, lowerFrom_bareAll, lowerHandlers_bareEach, lowerOption_bareOption, next_bare]
    exact ofGuarded_bare _ _ _ _ _
  | .scoped site body =>
    simp only [bare, lower, lowerFrom_bareAll, enter_bare, continuations_bare, falls_bare, next_bare,
      pieces_bare]
    simp only [Lowered.bare, List.map_append, List.map_cons, Piece.bare]
  | .sequence body => exact lowerFrom_bareAll n none [] body
  | .plain _ => rfl

theorem lowerFrom_bareAll (n : Nat) (entry : Option Nat) (pending : List Anchor)
    (body : List FlowStmt) :
    lowerFrom n entry pending (bareAll body) = (lowerFrom n entry pending body).bare := by
  match body with
  | [] => rfl
  | stmt :: rest =>
    simp only [bareAll, lowerFrom, lower_bare n stmt, fallsThrough_bare stmt, entry_bare, exits_bare,
      falls_bare, next_bare, pieces_bare, lowerFrom_bareAll _ _ _ rest]
    cases (lower n stmt).entry
    all_goals
      simp only [entry_bare, exits_bare, falls_bare, next_bare, pieces_bare]
      simp only [Lowered.bare, List.map_append, map_bare_connect, List.map_nil]

theorem lowerOption_bareOption (n : Nat) (body : Option (List FlowStmt)) :
    lowerOption n (bareOption body) = (lowerOption n body).bare := by
  match body with
  | none => rfl
  | some body => exact lowerFrom_bareAll n none [] body

theorem lowerHandlers_bareEach (source n : Nat) (handlers : List (List FlowStmt)) :
    lowerHandlers source n (bareEach handlers) = (lowerHandlers source n handlers).bare := by
  match handlers with
  | [] => rfl
  | body :: rest =>
    simp only [bareEach, lowerHandlers, lowerFrom_bareAll, lowerHandlers_bareEach source _ rest, enter_bare,
      continuations_bare, exits_bare, falls_bare, next_bare, pieces_bare]
    simp only [Lowered.bare, List.map_append]

end

end FlowStmt

namespace Skeleton

open Piece

theorem sites_eq (skeleton : Skeleton) : skeleton.sites = Piece.sites skeleton.pieces := rfl

theorem length_labelsFrom (earlier : List String) (sites : List Site) :
    (labelsFrom earlier sites).length = sites.length := by
  induction sites generalizing earlier with
  | nil => rfl
  | cons site rest ih => rw [labelsFrom, List.length_cons, List.length_cons, ih]

/-- There is one label for each branch. -/
theorem length_labels (skeleton : Skeleton) : skeleton.labels.length = branchCount skeleton.pieces := by
  rw [labels, length_labelsFrom, sites_eq, Piece.length_sites]

/-- The labels are numbered on from those that stand before. -/
theorem exists_of_mem_labelsFrom {earlier : List String} {sites : List Site} {label : String}
    (h : label ∈ labelsFrom earlier sites) : ∃ site ∈ sites, ∃ n, earlier.count site.kind ≤ n ∧
      label = site.kind ++ "#" ++ Nat.repr n := by
  induction sites generalizing earlier with
  | nil => cases h
  | cons site rest ih =>
    rw [labelsFrom, List.mem_cons] at h
    rcases h with rfl | h
    · exact ⟨site, List.mem_cons_self, _, Nat.le_refl _, rfl⟩
    · obtain ⟨other, hother, n, hn, hlabel⟩ := ih h
      exact ⟨other, List.mem_cons_of_mem _ hother, n, Nat.le_trans List.count_le_count_cons hn, hlabel⟩

theorem nodup_labelsFrom (earlier : List String) (sites : List Site) : (labelsFrom earlier sites).Nodup := by
  induction sites generalizing earlier with
  | nil => exact List.nodup_nil
  | cons site rest ih =>
    rw [labelsFrom, List.nodup_cons]
    refine ⟨fun hmem => ?_, ih _⟩
    obtain ⟨other, -, n, hn, hlabel⟩ := exists_of_mem_labelsFrom hmem
    obtain ⟨hkind, rfl⟩ := Text.numbered_inj hlabel
    rw [hkind, List.count_cons_self] at hn
    omega

/-- **No two branches of a function have the same label.** -/
theorem nodup_labels (skeleton : Skeleton) : skeleton.labels.Nodup :=
  nodup_labelsFrom [] skeleton.sites

/-- **Every link of a function, and its entry, is at one of its branches.** -/
theorem scoped_ofBody (body : List FlowStmt) : Scoped 0 (ofBody body).pieces ∧
    ∀ branch ∈ (ofBody body).entry, branch < (ofBody body).labels.length := by
  have h := FlowStmt.wellScoped_lowerFrom 0 none [] body (by simp) (by simp)
  refine ⟨h.pieces, fun branch hbranch => ?_⟩
  rw [length_labels]
  have hlt := h.entry branch hbranch
  rw [h.next, Nat.zero_add] at hlt
  exact hlt

theorem labelsFrom_bare (earlier : List String) (sites : List Site) :
    labelsFrom earlier (sites.map Site.bare) = labelsFrom earlier sites := by
  induction sites generalizing earlier with
  | nil => rfl
  | cons site rest ih =>
    rw [List.map_cons, labelsFrom, labelsFrom, ih]
    rfl

theorem sites_of_map_bare {a b : Skeleton} (h : a.pieces.map Piece.bare = b.pieces.map Piece.bare) :
    a.sites.map Site.bare = b.sites.map Site.bare := by
  have hsites (skeleton : Skeleton) : skeleton.sites.map Site.bare =
      (skeleton.pieces.map Piece.bare).filterMap fun
        | .branch site => some site
        | .link _ _ _ => none := by
    unfold sites
    induction skeleton.pieces with
    | nil => rfl
    | cons piece rest ih =>
      cases piece with
      | branch site => simpa [Piece.bare] using ih
      | link source target flow => simpa [Piece.bare] using ih
  rw [hsites, hsites, h]

/-- **Where the sites of a function stand, and how they are written, has no part in its skeleton.** -/
theorem ofBody_of_bareAll {a b : List FlowStmt} (h : FlowStmt.bareAll a = FlowStmt.bareAll b) :
    (ofBody a).entry = (ofBody b).entry ∧
      (ofBody a).pieces.map Piece.bare = (ofBody b).pieces.map Piece.bare ∧
      (ofBody a).labels = (ofBody b).labels := by
  have hbare (body : List FlowStmt) := FlowStmt.lowerFrom_bareAll 0 none [] body
  have hlowered : (FlowStmt.lowerBlock 0 a).bare = (FlowStmt.lowerBlock 0 b).bare := by
    rw [FlowStmt.lowerBlock, FlowStmt.lowerBlock, ← hbare, ← hbare, h]
  have hpieces : (ofBody a).pieces.map Piece.bare = (ofBody b).pieces.map Piece.bare :=
    congrArg Lowered.pieces hlowered
  have hentry : (ofBody a).entry = (ofBody b).entry := by
    have hbareEntry := congrArg Lowered.entry hlowered
    rwa [Lowered.entry_bare, Lowered.entry_bare] at hbareEntry
  refine ⟨hentry, hpieces, ?_⟩
  rw [labels, labels, ← labelsFrom_bare, ← labelsFrom_bare [] (ofBody b).sites, sites_of_map_bare hpieces]

end Skeleton

end StructuralDiff
