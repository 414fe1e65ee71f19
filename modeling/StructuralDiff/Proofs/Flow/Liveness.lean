import Mathlib.Logic.Relation
import StructuralDiff.Proofs.Flow.Skeleton

/-!
# Live branches

Which statements of a function can be executed, said by the structure of the function alone, and which
branches its skeleton leads to.

* `FlowStmt.completes`: control gets through a statement, when it gets there. Unlike `FlowStmt.fallsThrough`
  this knows the sides of a condition that cannot be taken.
* `FlowStmt.marks`: the sites of a statement, each with whether it is live.
* `FlowStmt.follows_lower`: the links of a lowered statement go forward, lead from live branches to live ones
  only, and lead to all of them.
* `Skeleton.reaches_iff_live`: so the branches that are reached from the entry of a function are the live ones.
-/

namespace StructuralDiff

/-! ### Liveness by structure -/

namespace FlowStmt

mutual

/-- Control gets through the statement, when it gets there. -/
def completes : FlowStmt → Bool
  | .exit _ => false
  | .call _ | .loop _ _ | .plain _ => true
  | .cond _ truth thenBody elseBody =>
    elseBody.isNone || ((truth != some false && blockCompletes thenBody)
      || (truth != some true && optionCompletes elseBody))
  | .guarded _ body handlers finalBody =>
    (blockCompletes body || anyCompletes handlers) && optionCompletes finalBody
  | .scoped _ body | .sequence body => blockCompletes body

/-- Control gets through all statements of a block. -/
def blockCompletes : List FlowStmt → Bool
  | [] => true
  | stmt :: rest => completes stmt && blockCompletes rest

/-- Control gets through a block that may be absent. -/
def optionCompletes : Option (List FlowStmt) → Bool
  | none => true
  | some body => blockCompletes body

/-- Control gets through one of the blocks. -/
def anyCompletes : List (List FlowStmt) → Bool
  | [] => false
  | body :: rest => blockCompletes body || anyCompletes rest

end

mutual

/-- The sites of a statement that is live or not, in the order of the source, each with whether it is live. -/
def marks (live : Bool) : FlowStmt → List (Site × Bool)
  | .cond site truth thenBody elseBody =>
    (site, live) :: (blockMarks (live && truth != some false) thenBody
      ++ optionMarks (live && truth != some true) elseBody)
  | .exit site | .call site => [(site, live)]
  | .loop site body | .scoped site body => (site, live) :: blockMarks live body
  | .guarded site body handlers finalBody =>
    (site, live) :: (blockMarks live body ++ allMarks live handlers
      ++ optionMarks (live && (blockCompletes body || anyCompletes handlers)) finalBody)
  | .sequence body => blockMarks live body
  | .plain _ => []

/-- The same for a block: a statement is live when all statements before it complete. -/
def blockMarks (live : Bool) : List FlowStmt → List (Site × Bool)
  | [] => []
  | stmt :: rest => marks live stmt ++ blockMarks (live && completes stmt) rest

/-- The same for a block that may be absent. -/
def optionMarks (live : Bool) : Option (List FlowStmt) → List (Site × Bool)
  | none => []
  | some body => blockMarks live body

/-- The same for several blocks. -/
def allMarks (live : Bool) : List (List FlowStmt) → List (Site × Bool)
  | [] => []
  | body :: rest => blockMarks live body ++ allMarks live rest

end

mutual

/-- Control passes through every part of the statement that is no branch. -/
def plainFalls : FlowStmt → Bool
  | .cond _ _ thenBody elseBody => blockPlainFalls thenBody && optionPlainFalls elseBody
  | .exit _ | .call _ => true
  | .loop _ body | .scoped _ body | .sequence body => blockPlainFalls body
  | .guarded _ body handlers finalBody =>
    blockPlainFalls body && allPlainFall handlers && optionPlainFalls finalBody
  | .plain falls => falls

/-- The same for a block. -/
def blockPlainFalls : List FlowStmt → Bool
  | [] => true
  | stmt :: rest => plainFalls stmt && blockPlainFalls rest

/-- The same for a block that may be absent. -/
def optionPlainFalls : Option (List FlowStmt) → Bool
  | none => true
  | some body => blockPlainFalls body

/-- The same for several blocks. -/
def allPlainFall : List (List FlowStmt) → Bool
  | [] => true
  | body :: rest => blockPlainFalls body && allPlainFall rest

end

mutual

/-- The marks are at the sites. -/
theorem map_fst_marks (live : Bool) (stmt : FlowStmt) : (marks live stmt).map (·.1) = sites stmt := by
  match stmt with
  | .cond site truth thenBody elseBody =>
    simp only [marks, sites, List.map_cons, List.map_append, map_fst_blockMarks _ thenBody,
      map_fst_optionMarks _ elseBody]
  | .exit _ => rfl
  | .call _ => rfl
  | .loop site body => simp only [marks, sites, List.map_cons, map_fst_blockMarks _ body]
  | .guarded site body handlers finalBody =>
    simp only [marks, sites, List.map_cons, List.map_append, map_fst_blockMarks _ body,
      map_fst_allMarks _ handlers, map_fst_optionMarks _ finalBody]
  | .scoped site body => simp only [marks, sites, List.map_cons, map_fst_blockMarks _ body]
  | .sequence body => exact map_fst_blockMarks live body
  | .plain _ => rfl

theorem map_fst_blockMarks (live : Bool) (body : List FlowStmt) :
    (blockMarks live body).map (·.1) = blockSites body := by
  match body with
  | [] => rfl
  | stmt :: rest =>
    simp only [blockMarks, blockSites, List.map_append, map_fst_marks _ stmt, map_fst_blockMarks _ rest]

theorem map_fst_optionMarks (live : Bool) (body : Option (List FlowStmt)) :
    (optionMarks live body).map (·.1) = optionSites body := by
  match body with
  | none => rfl
  | some body => exact map_fst_blockMarks live body

theorem map_fst_allMarks (live : Bool) (bodies : List (List FlowStmt)) :
    (allMarks live bodies).map (·.1) = allSites bodies := by
  match bodies with
  | [] => rfl
  | body :: rest =>
    simp only [allMarks, allSites, List.map_append, map_fst_blockMarks _ body, map_fst_allMarks _ rest]

end

end FlowStmt

/-! ### The branches of lowered statements -/

namespace Lowered

@[simp]
theorem sites_connect (anchors : List Anchor) (target : Nat) : Piece.sites (connect anchors target) = [] :=
  Piece.sites_eq_nil (branchCount_connect anchors target)

@[simp]
theorem sites_enter (source : Nat) (flow : FlowType) (block : Lowered) :
    Piece.sites (enter source flow block) = [] :=
  Piece.sites_eq_nil (branchCount_enter source flow block)

end Lowered

namespace FlowStmt

open Piece Lowered

theorem sites_ofCond (n : Nat) (site : Site) (truth : Option Bool) (thenSide elseSide : Lowered)
    (hasElse : Bool) : Piece.sites (ofCond n site truth thenSide elseSide hasElse).pieces =
      site :: (Piece.sites thenSide.pieces ++ Piece.sites elseSide.pieces) := by
  have hside (reachable : Bool) (flow : FlowType) (side : Lowered) :
      Piece.sites (if reachable then enter n flow side else []) = [] := by
    cases reachable
    · rfl
    · exact sites_enter _ _ _
  cases hasElse
  all_goals simp only [ofCond, if_true, Bool.false_eq_true, if_false, List.cons_append, sites_branch,
    sites_append, hside, List.append_nil]

theorem sites_ofGuarded (n : Nat) (site : Site) (body handlers finalSide : Lowered) :
    Piece.sites (ofGuarded n site body handlers finalSide).pieces = site ::
      (Piece.sites body.pieces ++ Piece.sites handlers.pieces ++ Piece.sites finalSide.pieces) := by
  unfold ofGuarded
  dsimp only
  split
  all_goals simp only [List.cons_append, sites_branch, sites_append, sites_enter, sites_connect,
    List.append_nil]

mutual

/-- Lowering makes a branch for each site. -/
theorem sites_lower (n : Nat) (stmt : FlowStmt) : Piece.sites (lower n stmt).pieces = sites stmt := by
  match stmt with
  | .cond site truth thenBody elseBody =>
    simp only [lower, sites, sites_ofCond, sites_lowerFrom _ _ _ thenBody, sites_lowerOption _ elseBody]
  | .exit _ => rfl
  | .call _ => rfl
  | .loop site body =>
    simp only [lower, sites, List.cons_append, sites_branch, sites_append, sites_enter, List.append_nil,
      sites_lowerFrom _ _ _ body]
  | .guarded site body handlers finalBody =>
    simp only [lower, sites, sites_ofGuarded, sites_lowerFrom _ _ _ body, sites_lowerHandlers _ _ handlers,
      sites_lowerOption _ finalBody]
  | .scoped site body =>
    simp only [lower, sites, List.cons_append, sites_branch, sites_append, sites_enter, List.append_nil,
      sites_lowerFrom _ _ _ body]
  | .sequence body => exact sites_lowerFrom n none [] body
  | .plain _ => rfl

theorem sites_lowerFrom (n : Nat) (entry : Option Nat) (pending : List Anchor) (body : List FlowStmt) :
    Piece.sites (lowerFrom n entry pending body).pieces = blockSites body := by
  match body with
  | [] => rfl
  | stmt :: rest =>
    simp only [lowerFrom, blockSites]
    cases (lower n stmt).entry
    all_goals simp only [sites_append, sites_connect, List.append_nil, sites_lower _ stmt,
      sites_lowerFrom _ _ _ rest]

theorem sites_lowerOption (n : Nat) (body : Option (List FlowStmt)) :
    Piece.sites (lowerOption n body).pieces = optionSites body := by
  match body with
  | none => rfl
  | some body => exact sites_lowerFrom n none [] body

theorem sites_lowerHandlers (source n : Nat) (handlers : List (List FlowStmt)) :
    Piece.sites (lowerHandlers source n handlers).pieces = allSites handlers := by
  match handlers with
  | [] => rfl
  | body :: rest =>
    simp only [lowerHandlers, allSites, sites_append, sites_enter, List.append_nil, sites_lowerFrom _ _ _ body,
      sites_lowerHandlers _ _ rest]

end

/-- So there are as many ordinals as marks. -/
theorem next_eq_of_sites {n : Nat} {block : Lowered} (h : WellScoped n block) {marks : List (Site × Bool)}
    (hsites : Piece.sites block.pieces = marks.map (·.1)) : block.next = n + marks.length := by
  rw [h.next, ← length_sites, hsites, List.length_map]

theorem next_lower (n : Nat) (live : Bool) (stmt : FlowStmt) :
    (lower n stmt).next = n + (marks live stmt).length :=
  next_eq_of_sites (wellScoped_lower n stmt) (by rw [sites_lower, map_fst_marks])

theorem next_lowerBlock (n : Nat) (live : Bool) (body : List FlowStmt) :
    (lowerFrom n none [] body).next = n + (blockMarks live body).length :=
  next_eq_of_sites (wellScoped_lowerFrom n none [] body (by simp) (by simp))
    (by rw [sites_lowerFrom, map_fst_blockMarks])

theorem next_lowerHandlers {source n : Nat} (hsource : source < n) (live : Bool)
    (handlers : List (List FlowStmt)) :
    (lowerHandlers source n handlers).next = n + (allMarks live handlers).length :=
  next_eq_of_sites (wellScoped_lowerHandlers source n handlers hsource)
    (by rw [sites_lowerHandlers, map_fst_allMarks])

end FlowStmt

/-! ### Links between live branches -/

namespace Piece

/-- The pieces link a branch to another one. -/
def Joins (pieces : List Piece) (source target : Nat) : Prop :=
  ∃ flow, Piece.link source target flow ∈ pieces

variable {source target : Nat}

@[simp]
theorem joins_nil : ¬Joins [] source target := by
  rintro ⟨_, hlink⟩
  cases hlink

@[simp]
theorem joins_append {a b : List Piece} :
    Joins (a ++ b) source target ↔ Joins a source target ∨ Joins b source target := by
  simp only [Joins, List.mem_append, exists_or]

@[simp]
theorem joins_branch {site : Site} {rest : List Piece} :
    Joins (.branch site :: rest) source target ↔ Joins rest source target := by
  simp [Joins]

@[simp]
theorem joins_link {a b : Nat} {flow : FlowType} {rest : List Piece} :
    Joins (.link a b flow :: rest) source target ↔ source = a ∧ target = b ∨ Joins rest source target := by
  simp [Joins, exists_or]

/-- Links are between branches that are there. -/
theorem lt_of_joins {n : Nat} {pieces : List Piece} (h : Scoped n pieces) (hlink : Joins pieces source target) :
    source < n + branchCount pieces ∧ target < n + branchCount pieces := by
  induction pieces generalizing n with
  | nil => exact absurd hlink joins_nil
  | cons piece rest ih =>
    cases piece with
    | branch site =>
      have hlt := ih h (joins_branch.1 hlink)
      rwa [branchCount_branch, Nat.add_comm _ 1, ← Nat.add_assoc]
    | link a b flow =>
      obtain ⟨ha, hb, hrest⟩ := h
      rw [branchCount_link]
      rcases joins_link.1 hlink with ⟨rfl, rfl⟩ | hlink
      · exact ⟨Nat.lt_add_right _ ha, Nat.lt_add_right _ hb⟩
      · exact ih hrest hlink

@[simp]
theorem joins_connect {anchors : List Anchor} {next : Nat} : Joins (Lowered.connect anchors next) source target ↔
    target = next ∧ ∃ anchor ∈ anchors, anchor.source = source := by
  simp only [Joins, Lowered.connect, List.mem_map, Piece.link.injEq]
  constructor
  · rintro ⟨_, anchor, hanchor, hsource, htarget, -⟩
    exact ⟨htarget.symm, anchor, hanchor, hsource⟩
  · rintro ⟨htarget, anchor, hanchor, hsource⟩
    exact ⟨_, anchor, hanchor, hsource, htarget.symm, rfl⟩

@[simp]
theorem joins_enter {n : Nat} {flow : FlowType} {block : Lowered} :
    Joins (Lowered.enter n flow block) source target ↔ source = n ∧ block.entry = some target := by
  unfold Lowered.enter
  cases block.entry with
  | none => simp
  | some entry => simp [Joins, eq_comm]

@[simp]
theorem joins_ite {p : Bool} {pieces : List Piece} :
    Joins (if p then pieces else []) source target ↔ p = true ∧ Joins pieces source target := by
  cases p <;> simp

end Piece

namespace Lowered

/-- The live branches are those with the marks, from the ordinal `n` on. -/
def Agrees (Live : Nat → Prop) : (n : Nat) → List (Site × Bool) → Prop
  | _, [] => True
  | n, mark :: rest => (Live n ↔ mark.2 = true) ∧ Agrees Live (n + 1) rest

/-- One of the anchors is live. -/
def Leads (Live : Nat → Prop) (anchors : List Anchor) : Prop :=
  ∃ anchor ∈ anchors, Live anchor.source

/-- The links go forward, lead from live branches to live ones only, and lead to all of those from the
ordinal `n` up to the ordinal `m`. -/
structure Threads (Live : Nat → Prop) (n m : Nat) (Link : Nat → Nat → Prop) : Prop where
  forward : ∀ {a b}, Link a b → a < b
  live : ∀ {a b}, Link a b → Live a → Live b
  reached : ∀ {b}, n ≤ b → b < m → Live b → ∃ a, Link a b ∧ Live a

section Live

variable {Live : Nat → Prop} {n m k : Nat}

theorem agrees_append {a b : List (Site × Bool)} :
    Agrees Live n (a ++ b) ↔ Agrees Live n a ∧ Agrees Live (n + a.length) b := by
  induction a generalizing n with
  | nil => simp [Agrees]
  | cons mark rest ih =>
    rw [List.cons_append, Agrees, Agrees, ih, List.length_cons, Nat.add_assoc, Nat.add_comm 1, and_assoc]

@[simp]
theorem leads_nil : ¬Leads Live [] := by
  simp [Leads]

@[simp]
theorem leads_singleton {anchor : Anchor} : Leads Live [anchor] ↔ Live anchor.source := by
  simp [Leads]

@[simp]
theorem leads_append {a b : List Anchor} : Leads Live (a ++ b) ↔ Leads Live a ∨ Leads Live b := by
  simp only [Leads, List.mem_append, or_and_right, exists_or]

@[simp]
theorem leads_eraseDups {anchors : List Anchor} : Leads Live anchors.eraseDups ↔ Leads Live anchors := by
  simp only [Leads, List.mem_eraseDups]

@[simp]
theorem leads_ite {p : Bool} {anchors : List Anchor} :
    Leads Live (if p then anchors else []) ↔ p = true ∧ Leads Live anchors := by
  cases p <;> simp

namespace Threads

variable {Link Link' : Nat → Nat → Prop}

theorem none (h : ∀ a b, ¬Link a b) : Threads Live n n Link :=
  ⟨fun hlink => absurd hlink (h _ _), fun hlink => absurd hlink (h _ _), fun hn hm => by omega⟩

theorem congr (h : Threads Live n m Link) (heq : ∀ a b, Link' a b ↔ Link a b) : Threads Live n m Link' :=
  ⟨fun hlink => h.forward ((heq _ _).1 hlink), fun hlink => h.live ((heq _ _).1 hlink), fun hn hm hlive => by
    obtain ⟨a, hlink, ha⟩ := h.reached hn hm hlive
    exact ⟨a, (heq _ _).2 hlink, ha⟩⟩

/-- Links that lead to one section and those that lead to the next one. -/
theorem or (h : Threads Live n m Link) (h' : Threads Live m k Link') :
    Threads Live n k fun a b => Link a b ∨ Link' a b := by
  refine ⟨?_, ?_, fun {b} hn hk hlive => ?_⟩
  · rintro a b (hlink | hlink)
    · exact h.forward hlink
    · exact h'.forward hlink
  · rintro a b (hlink | hlink)
    · exact h.live hlink
    · exact h'.live hlink
  · rcases Nat.lt_or_ge b m with hm | hm
    · obtain ⟨a, hlink, ha⟩ := h.reached hn hm hlive
      exact ⟨a, .inl hlink, ha⟩
    · obtain ⟨a, hlink, ha⟩ := h'.reached hm hk hlive
      exact ⟨a, .inr hlink, ha⟩

/-- Links to a single branch that is live exactly when one of their sources is. -/
theorem single (hforward : ∀ a b, Link a b → a < b ∧ b = n) (hlive : Live n ↔ ∃ a, Link a n ∧ Live a) :
    Threads Live n (n + 1) Link := by
  refine ⟨fun hlink => (hforward _ _ hlink).1, fun {a b} hlink ha => ?_, fun {b} hn hm hb => ?_⟩
  · obtain ⟨-, rfl⟩ := hforward a b hlink
    exact hlive.2 ⟨a, hlink, ha⟩
  · obtain rfl : b = n := by omega
    exact hlive.1 hb

end Threads

end Live

/-- What a statement or a block that is live or not, and that completes or not, becomes when `n` branches stand
before it. Either it has an entry, which is its first branch, and all its other live branches are led to
from inside; or it has no branch, and control passes through it. -/
inductive Follows (Live : Nat → Prop) (n : Nat) (live completes : Bool) (block : Lowered) : Prop
  | entered (entry : block.entry = some n) (first : Live n ↔ live = true)
    (links : Threads Live (n + 1) block.next (Piece.Joins block.pieces))
    (exits : Leads Live block.exits ↔ (live && completes) = true)
  | empty (entry : block.entry = none) (next : block.next = n) (links : ∀ a b, ¬Piece.Joins block.pieces a b)
    (exits : block.exits = []) (falls : block.falls = true) (completes : completes = true)

namespace Follows

variable {Live : Nat → Prop} {n m source : Nat} {live completes : Bool} {block : Lowered}

/-- The same block with other pieces that make the same links. -/
theorem with_pieces (h : Follows Live n live completes block) {pieces : List Piece} {falls : Bool}
    (hpieces : ∀ a b, Piece.Joins pieces a b ↔ Piece.Joins block.pieces a b)
    (hfalls : block.falls = true → falls = true) :
    Follows Live n live completes { block with falls, pieces } := by
  cases h with
  | entered entry first links exits => exact .entered entry first (links.congr hpieces) exits
  | empty entry next links exits falls completes =>
    exact .empty entry next (fun a b hlink => links a b ((hpieces a b).1 hlink)) exits (hfalls falls) completes

theorem absent (Live : Nat → Prop) (n : Nat) (live : Bool) : Follows Live n live true (Lowered.absent n) :=
  .empty rfl rfl (fun _ _ => Piece.joins_nil) rfl rfl rfl

/-- A block that is entered from a live branch, if it can be reached. -/
theorem enter {reachable : Bool} (h : Follows Live m (live && reachable) completes block)
    (hsource : Live source ↔ live = true) (hlt : source < m) (flow : FlowType) :
    Threads Live m block.next fun a b => Piece.Joins block.pieces a b ∨
      reachable = true ∧ Piece.Joins (Lowered.enter source flow block) a b := by
  cases h with
  | entered entry first links exits =>
    have hlink : Threads Live m (m + 1) fun a b => reachable = true ∧
        Piece.Joins (Lowered.enter source flow block) a b := by
      simp only [Piece.joins_enter, entry, Option.some.injEq]
      refine .single (fun a b hlink => ?_) ?_
      · obtain ⟨-, rfl, rfl⟩ := hlink
        exact ⟨hlt, rfl⟩
      · rw [first, Bool.and_eq_true]
        constructor
        · rintro ⟨hlive, hreachable⟩
          exact ⟨source, ⟨hreachable, rfl, rfl⟩, hsource.2 hlive⟩
        · rintro ⟨_, ⟨hreachable, rfl, -⟩, hlive⟩
          exact ⟨hsource.1 hlive, hreachable⟩
    exact (hlink.or links).congr fun a b => Or.comm
  | empty entry next links =>
    rw [next]
    refine .none fun a b hlink => ?_
    simp [links, entry] at hlink

/-- A block that is entered from a branch in any case. -/
theorem enter_always (h : Follows Live m live completes block) (hsource : Live source ↔ live = true)
    (hlt : source < m) (flow : FlowType) : Threads Live m block.next fun a b =>
      Piece.Joins block.pieces a b ∨ Piece.Joins (Lowered.enter source flow block) a b := by
  have hreachable : Follows Live m (live && true) completes block := by rwa [Bool.and_true]
  exact (hreachable.enter hsource hlt flow).congr fun a b => by rw [eq_self, true_and]

/-- Where control goes on after a block that can be reached: its own exits, or the branch that it would be
entered from. -/
theorem leads_iff {reachable : Bool} (h : Follows Live m (live && reachable) completes block)
    (hsource : Live source ↔ live = true) :
    (reachable = true ∧ Leads Live block.exits) ∨
        ((block.entry.isNone && block.falls && reachable) = true ∧ Live source) ↔
      (live && (reachable && completes)) = true := by
  cases h with
  | entered entry _ _ exits =>
    rw [exits, entry]
    simp only [Option.isNone_some, Bool.false_and, Bool.false_eq_true, false_and, or_false, Bool.and_eq_true]
    grind
  | empty entry next links exits falls completes =>
    rw [exits, entry, falls, completes, hsource]
    simp only [leads_nil, and_false, false_or, Option.isNone_none, Bool.and_true, Bool.and_eq_true,
      Bool.true_and]
    grind

theorem leads_continuations (h : Follows Live m live completes block) (hsource : Live source ↔ live = true)
    (flow : FlowType) :
    Leads Live (continuations source flow block) ↔ (live && completes) = true := by
  unfold continuations
  cases h with
  | entered entry _ _ exits =>
    rw [entry]
    exact exits
  | empty entry next links exits falls completes =>
    rw [entry, falls, completes, Bool.and_true]
    simpa using hsource

end Follows

end Lowered

namespace FlowStmt

open Piece Lowered

variable {Live : Nat → Prop} {live : Bool}

/-- A site with a block inside that is entered from it. -/
theorem follows_of_block {n : Nat} {completes through : Bool} {site : Site} {flow : FlowType} {inner : Lowered}
    (hfirst : Live n ↔ live = true) (h : Follows Live (n + 1) live completes inner) {exits : List Anchor}
    {falls : Bool} (hexits : Leads Live exits ↔ (live && through) = true) :
    Follows Live n live through
      { entry := some n, exits, falls, next := inner.next
        pieces := .branch site :: inner.pieces ++ enter n flow inner } := by
  refine .entered rfl hfirst ((h.enter_always hfirst n.lt_succ_self flow).congr fun a b => ?_) hexits
  rw [List.cons_append, joins_branch, joins_append]

theorem follows_ofCond {n : Nat} {site : Site} {truth : Option Bool} {thenSide elseSide : Lowered}
    {hasElse thenCompletes elseCompletes : Bool} (hfirst : Live n ↔ live = true)
    (hle : n + 1 ≤ thenSide.next)
    (hthen : Follows Live (n + 1) (live && truth != some false) thenCompletes thenSide)
    (helse : Follows Live thenSide.next (live && truth != some true) elseCompletes elseSide) :
    Follows Live n live (!hasElse || ((truth != some false && thenCompletes) ||
      (truth != some true && elseCompletes))) (ofCond n site truth thenSide elseSide hasElse) := by
  have hlinks : Threads Live (n + 1) elseSide.next (Joins (Piece.branch site :: thenSide.pieces
      ++ elseSide.pieces ++ (if truth != some false then enter n .true thenSide else [])
      ++ (if truth != some true then enter n .false elseSide else []))) := by
    refine ((hthen.enter hfirst n.lt_succ_self .true).or (helse.enter hfirst hle .false)).congr fun a b => ?_
    simp only [List.cons_append, joins_branch, joins_append, joins_ite]
    grind
  cases hasElse with
  | true =>
    refine .entered rfl hfirst hlinks ?_
    simp only [ofCond, if_true, leads_eraseDups, leads_append, leads_ite, leads_singleton]
    rw [or_assoc, or_or_or_comm, hthen.leads_iff hfirst, helse.leads_iff hfirst, ← Bool.or_eq_true,
      ← Bool.and_or_distrib_left, Bool.not_true, Bool.false_or]
  | false =>
    -- The condition itself is an exit then, whatever the other side does.
    refine .entered rfl hfirst hlinks ?_
    simpa [ofCond] using hfirst

/-- Links from anchors to a branch that is live exactly when one of them is. -/
theorem threads_connect {n : Nat} {anchors : List Anchor} (hsources : ∀ anchor ∈ anchors, anchor.source < n)
    (h : Leads Live anchors ↔ Live n) : Threads Live n (n + 1) (Joins (connect anchors n)) := by
  refine .single (fun a b hlink => ?_) (h.symm.trans ?_)
  · obtain ⟨rfl, anchor, hanchor, rfl⟩ := joins_connect.1 hlink
    exact ⟨hsources anchor hanchor, rfl⟩
  · constructor
    · rintro ⟨anchor, hanchor, hlive⟩
      exact ⟨_, joins_connect.2 ⟨rfl, anchor, hanchor, rfl⟩, hlive⟩
    · rintro ⟨_, hlink, hlive⟩
      obtain ⟨-, anchor, hanchor, rfl⟩ := joins_connect.1 hlink
      exact ⟨anchor, hanchor, hlive⟩

theorem follows_ofGuarded {n : Nat} {site : Site} {body handlers finalSide : Lowered}
    {bodyCompletes anyCompletes finalCompletes : Bool} (hfirst : Live n ↔ live = true)
    (hbodyScoped : WellScoped (n + 1) body) (hhandlersScoped : WellScoped body.next handlers)
    (hbody : Follows Live (n + 1) live bodyCompletes body)
    (hhandlers : Threads Live body.next handlers.next (Joins handlers.pieces))
    (hcaught : Leads Live handlers.exits ↔ (live && anyCompletes) = true)
    (hfinal : Follows Live handlers.next (live && (bodyCompletes || anyCompletes)) finalCompletes finalSide) :
    Follows Live n live ((bodyCompletes || anyCompletes) && finalCompletes)
      (ofGuarded n site body handlers finalSide) := by
  have hle := hhandlersScoped.le_next
  have hsources : ∀ anchor ∈ continuations n .next body ++ handlers.exits,
      anchor.source < handlers.next := by
    intro anchor hanchor
    rcases List.mem_append.1 hanchor with hanchor | hanchor
    · exact Nat.lt_of_lt_of_le
        (source_lt_of_mem_continuations hbodyScoped.le_next hbodyScoped.exits anchor hanchor) hle
    · exact hhandlersScoped.exits anchor hanchor
  have hexits : Leads Live (continuations n .next body ++ handlers.exits) ↔
      (live && (bodyCompletes || anyCompletes)) = true := by
    rw [leads_append, hbody.leads_continuations hfirst, hcaught, ← Bool.or_eq_true, Bool.and_or_distrib_left]
  have hinner := (hbody.enter_always hfirst n.lt_succ_self .next).or hhandlers
  unfold ofGuarded
  cases hfinal with
  | entered entry first links exits =>
    -- Both lead to what is done after them.
    have hconnect := threads_connect hsources (hexits.trans first.symm)
    simp only [entry]
    refine .entered rfl hfirst ((hinner.or (hconnect.or links)).congr fun a b => ?_) ?_
    · simp only [List.cons_append, joins_branch, joins_append]
      grind
    · rw [leads_eraseDups, exits, Bool.and_assoc]
  | empty entry next links exits falls completes =>
    -- Nothing is done after them, so their exits are those of the whole.
    simp only [entry]
    refine .entered rfl hfirst ?_ ?_
    · rw [next]
      refine hinner.congr fun a b => ?_
      simp only [List.cons_append, joins_branch, joins_append, links, or_false]
    · rw [leads_eraseDups, hexits, completes, Bool.and_true]

theorem falls_lowerFrom (n : Nat) (entry : Option Nat) (pending : List Anchor) (body : List FlowStmt) :
    (lowerFrom n entry pending body).falls = blockFallsThrough body := by
  induction body generalizing n entry pending with
  | nil => rfl
  | cons stmt rest ih =>
    simp only [lowerFrom, blockFallsThrough]
    cases (lower n stmt).entry <;> simp only [ih]

/-- A statement without a branch knows no condition, so nothing but its shape says whether it falls through. -/
theorem falls_lower_of_entry {n : Nat} {stmt : FlowStmt} (h : (lower n stmt).entry = none) :
    (lower n stmt).falls = fallsThrough stmt := by
  match stmt with
  | .plain _ => rfl
  | .sequence body => exact falls_lowerFrom n none [] body
  | .cond _ _ _ _ =>
    rw [lower, ofCond] at h
    split at h <;> cases h
  | .guarded _ _ _ _ =>
    rw [lower, ofGuarded] at h
    split at h <;> cases h
  | .exit _ | .call _ | .loop _ _ | .scoped _ _ => cases h

/-- A block that has its entry keeps it. -/
theorem entry_lowerFrom (n first : Nat) (pending : List Anchor) (body : List FlowStmt) :
    (lowerFrom n (some first) pending body).entry = some first := by
  induction body generalizing n pending with
  | nil => rfl
  | cons stmt rest ih =>
    simp only [lowerFrom]
    cases (lower n stmt).entry <;> exact ih _ _

mutual

/-- **The links of a lowered statement lead from live branches to live ones only, and to all of them.** -/
theorem follows_lower {n : Nat} {live : Bool} {stmt : FlowStmt} (hplain : plainFalls stmt = true)
    (hagrees : Agrees Live n (marks live stmt)) : Follows Live n live (completes stmt) (lower n stmt) := by
  match stmt with
  | .cond site truth thenBody elseBody =>
    rw [plainFalls, Bool.and_eq_true] at hplain
    obtain ⟨hfirst, hagrees⟩ := hagrees
    obtain ⟨hthen, helse⟩ := agrees_append.1 hagrees
    rw [← next_lowerBlock] at helse
    rw [completes, ← Option.not_isSome]
    exact follows_ofCond hfirst (wellScoped_lowerFrom (n + 1) none [] thenBody (by simp) (by simp)).le_next
      (follows_lowerBlock hplain.1 hthen) (follows_lowerOption hplain.2 helse)
  | .exit site => exact .entered rfl hagrees.1 (.none (by simp [lower])) (by simp [lower, completes])
  | .call site =>
    exact .entered rfl hagrees.1 (.none (by simp [lower])) (by simpa [lower, completes] using hagrees.1)
  | .loop site body =>
    have hinner := follows_lowerBlock hplain hagrees.2
    refine follows_of_block hagrees.1 hinner ?_
    -- The loop itself is one of its exits, so it does not matter which of the others are live.
    have hsource : Leads Live [⟨n, .next⟩] ↔ live = true := leads_singleton.trans hagrees.1
    rw [leads_eraseDups, ← List.singleton_append, leads_append, hsource, completes, Bool.and_true]
    cases hinner with
    | entered _ _ _ exits =>
      rw [exits, Bool.and_eq_true]
      exact or_iff_left_of_imp And.left
    | empty _ _ _ exits =>
      rw [exits]
      exact or_iff_left leads_nil
  | .guarded site body handlers finalBody =>
    simp only [plainFalls, Bool.and_eq_true] at hplain
    obtain ⟨hfirst, hagrees⟩ := hagrees
    obtain ⟨hagrees, hfinal⟩ := agrees_append.1 hagrees
    obtain ⟨hbody, hhandlers⟩ := agrees_append.1 hagrees
    have hscoped := wellScoped_lowerFrom (n + 1) none [] body (by simp) (by simp)
    have hlt : n < (lowerFrom (n + 1) none [] body).next := hscoped.le_next
    rw [List.length_append, ← Nat.add_assoc, ← next_lowerBlock, ← next_lowerHandlers hlt] at hfinal
    rw [← next_lowerBlock] at hhandlers
    have hcaught := threads_lowerHandlers hplain.1.2 hhandlers hfirst hlt
    exact follows_ofGuarded hfirst hscoped (wellScoped_lowerHandlers n _ handlers hlt)
      (follows_lowerBlock hplain.1.1 hbody) hcaught.1 hcaught.2 (follows_lowerOption hplain.2 hfinal)
  | .scoped site body =>
    have hinner := follows_lowerBlock hplain hagrees.2
    exact follows_of_block hagrees.1 hinner (hinner.leads_continuations hagrees.1 .next)
  | .sequence body => exact follows_lowerBlock hplain hagrees
  | .plain falls => exact .empty rfl rfl (by simp [lower]) rfl hplain rfl

theorem follows_lowerBlock {n : Nat} {live : Bool} {body : List FlowStmt} (hplain : blockPlainFalls body = true)
    (hagrees : Agrees Live n (blockMarks live body)) :
    Follows Live n live (blockCompletes body) (lowerFrom n none [] body) := by
  match body with
  | [] => exact .empty rfl rfl (by simp [lowerFrom]) rfl rfl rfl
  | stmt :: rest =>
    rw [blockPlainFalls, Bool.and_eq_true] at hplain
    obtain ⟨hagreesFirst, hagreesRest⟩ := agrees_append.1 hagrees
    rw [← next_lower] at hagreesRest
    cases follows_lower hplain.1 hagreesFirst with
    | entered entry first links exits =>
      obtain ⟨hlinks, hexits⟩ := threads_lowerFrom n hplain.2 hagreesRest (wellScoped_lower n stmt).exits exits
      simp only [lowerFrom, entry]
      refine .entered (entry_lowerFrom _ _ _ _) first ((links.or hlinks).congr fun a b => ?_) ?_
      · simp [connect]
      · rw [blockCompletes, ← Bool.and_assoc]
        exact hexits
    | empty entry next links exits falls completes =>
      rw [completes, next, Bool.and_true] at hagreesRest
      rw [blockCompletes, completes, Bool.true_and]
      -- No branch has come yet, so what is left of the block stands where the block stands.
      have hfalls := (falls_lower_of_entry entry).symm.trans falls
      simp only [lowerFrom, entry, next, hfalls, ite_self]
      exact (follows_lowerBlock hplain.2 hagreesRest).with_pieces (fun a b => by simp [links]) (by simp)

/-- The rest of a block that has its entry already, when the live anchors that wait for it are given. -/
theorem threads_lowerFrom (first : Nat) {n : Nat} {live : Bool} {pending : List Anchor} {body : List FlowStmt}
    (hplain : blockPlainFalls body = true) (hagrees : Agrees Live n (blockMarks live body))
    (hsources : ∀ anchor ∈ pending, anchor.source < n) (hpending : Leads Live pending ↔ live = true) :
    Threads Live n (lowerFrom n (some first) pending body).next
        (Joins (lowerFrom n (some first) pending body).pieces) ∧
      (Leads Live (lowerFrom n (some first) pending body).exits ↔ (live && blockCompletes body) = true) := by
  match body with
  | [] => exact ⟨.none (by simp [lowerFrom]), by simpa [lowerFrom, blockCompletes] using hpending⟩
  | stmt :: rest =>
    rw [blockPlainFalls, Bool.and_eq_true] at hplain
    obtain ⟨hagreesFirst, hagreesRest⟩ := agrees_append.1 hagrees
    rw [← next_lower] at hagreesRest
    cases follows_lower hplain.1 hagreesFirst with
    | entered entry head links exits =>
      -- The anchors that wait are connected here, and the exits of the statement wait in their place.
      have hconnect := threads_connect hsources (hpending.trans head.symm)
      obtain ⟨hlinks, hexits⟩ := threads_lowerFrom first hplain.2 hagreesRest
        (wellScoped_lower n stmt).exits exits
      simp only [lowerFrom, entry]
      refine ⟨(hconnect.or (links.or hlinks)).congr fun a b => ?_, ?_⟩
      · simp only [joins_append, Option.or_some]
        grind
      · rw [blockCompletes, ← Bool.and_assoc]
        exact hexits
    | empty entry next links exits falls completes =>
      rw [completes, next, Bool.and_true] at hagreesRest
      rw [blockCompletes, completes, Bool.true_and]
      -- The same anchors go on waiting.
      obtain ⟨hlinks, hexits⟩ := threads_lowerFrom first hplain.2 hagreesRest hsources hpending
      simp only [lowerFrom, entry, next, falls, if_true]
      exact ⟨hlinks.congr fun a b => by simp [links], hexits⟩

theorem follows_lowerOption {n : Nat} {live : Bool} {body : Option (List FlowStmt)}
    (hplain : optionPlainFalls body = true) (hagrees : Agrees Live n (optionMarks live body)) :
    Follows Live n live (optionCompletes body) (lowerOption n body) := by
  match body with
  | none => exact .absent Live n live
  | some body => exact follows_lowerBlock hplain hagrees

theorem threads_lowerHandlers {source n : Nat} {live : Bool} {handlers : List (List FlowStmt)}
    (hplain : allPlainFall handlers = true) (hagrees : Agrees Live n (allMarks live handlers))
    (hsource : Live source ↔ live = true) (hlt : source < n) :
    Threads Live n (lowerHandlers source n handlers).next (Joins (lowerHandlers source n handlers).pieces) ∧
      (Leads Live (lowerHandlers source n handlers).exits ↔ (live && anyCompletes handlers) = true) := by
  match handlers with
  | [] => exact ⟨.none (by simp [lowerHandlers, absent]), by simp [lowerHandlers, absent, anyCompletes]⟩
  | body :: rest =>
    rw [allPlainFall, Bool.and_eq_true] at hplain
    obtain ⟨hagreesFirst, hagreesRest⟩ := agrees_append.1 hagrees
    have hle := (wellScoped_lowerFrom n none [] body (by simp) (by simp)).le_next
    rw [← next_lowerBlock] at hagreesRest
    have hfirst := follows_lowerBlock hplain.1 hagreesFirst
    obtain ⟨hlinks, hexits⟩ :=
      threads_lowerHandlers hplain.2 hagreesRest hsource (Nat.lt_of_lt_of_le hlt hle)
    refine ⟨((hfirst.enter_always hsource hlt .false).or hlinks).congr fun a b => ?_, ?_⟩
    · simp only [lowerHandlers, joins_append]
    · simp only [lowerHandlers, anyCompletes, leads_append, hfirst.leads_continuations hsource, hexits]
      rw [← Bool.or_eq_true, Bool.and_or_distrib_left]

end

end FlowStmt

namespace Skeleton

open Lowered

/-- A function has a branch for each of its sites. -/
theorem sites_ofBody (body : List FlowStmt) : (ofBody body).sites = FlowStmt.blockSites body :=
  FlowStmt.sites_lowerFrom 0 none [] body

/-- The marks of a list are those of the branches behind the ones before it. -/
theorem agrees_marks (earlier marks : List (Site × Bool)) :
    Agrees (fun i => (earlier ++ marks)[i]?.any (·.2) = true) earlier.length marks := by
  induction marks generalizing earlier with
  | nil => trivial
  | cons mark rest ih =>
    have hrest := ih (earlier ++ [mark])
    rw [List.append_assoc, List.singleton_append, List.length_append, List.length_singleton] at hrest
    refine ⟨?_, hrest⟩
    dsimp only
    rw [List.getElem?_append_right (Nat.le_refl _), Nat.sub_self, List.getElem?_cons_zero, Option.any_some]

/-- **The branches that are reached from the entry of a function are the live ones.** -/
theorem reaches_iff_live {body : List FlowStmt} (hplain : FlowStmt.blockPlainFalls body = true) (i : Nat) :
    (∃ entry ∈ (ofBody body).entry, Relation.ReflTransGen (Piece.Joins (ofBody body).pieces) entry i) ↔
      (FlowStmt.blockMarks true body)[i]?.any (·.2) = true := by
  have hagrees : Agrees (fun i => (FlowStmt.blockMarks true body)[i]?.any (·.2) = true) 0
      (FlowStmt.blockMarks true body) := agrees_marks [] _
  have hnext := FlowStmt.next_lowerBlock 0 true body
  cases FlowStmt.follows_lowerBlock hplain hagrees with
  | entered entry first links exits =>
    constructor
    · -- The entry is live, and links lead from live branches to live ones.
      rintro ⟨_, hentry, hpath⟩
      obtain rfl : _ = 0 := Option.some.inj (hentry.symm.trans entry)
      induction hpath with
      | refl => exact first.2 rfl
      | tail _ hlink ih => exact links.live hlink ih
    · -- A live branch is the entry, or it is led to from a live branch before it.
      intro hlive
      refine ⟨0, entry, ?_⟩
      induction i using Nat.strongRecOn with
      | ind i ih =>
        rcases Nat.eq_zero_or_pos i with rfl | hpos
        · exact .refl
        · have hlt : i < (FlowStmt.lowerFrom 0 none [] body).next := by
            rw [hnext, Nat.zero_add]
            by_contra hge
            rw [List.getElem?_eq_none (Nat.le_of_not_lt hge)] at hlive
            cases hlive
          obtain ⟨a, hlink, ha⟩ := links.reached hpos hlt hlive
          exact (ih a (links.forward hlink) ha).tail hlink
  | empty entry next =>
    have hmarks : FlowStmt.blockMarks true body = [] := by
      rw [← List.length_eq_zero_iff]
      omega
    rw [hmarks]
    constructor
    · rintro ⟨_, hentry, -⟩
      cases hentry.symm.trans entry
    · intro hlive
      cases hlive

end Skeleton

end StructuralDiff
