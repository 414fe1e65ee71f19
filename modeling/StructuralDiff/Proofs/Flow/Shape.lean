import StructuralDiff.Proofs.Flow.Liveness

/-!
# The shape of skeletons

How the branches of a function are joined. Exits are handed outward through nested blocks until something
follows them; none of them is lost on the way to a second use, so a branch is left in few ways.

* `FlowStmt.blockBranching`: the statements that become branches, in the order of their ordinals.
* `FlowStmt.outlets`: the flow types with which the branch of a statement may be left.
* `FlowStmt.entry_lowerBlock`: a block is entered at its first branch.
* `Lowered.Wired`: links and exits that use their anchors once.
* `FlowStmt.wired_lower`: every lowered statement is wired.
* `Skeleton.wired_ofBody`: so the links of a function go forward, leave each branch as its statement lets them,
  and no two of them leave a branch in the same way, but for the handlers of a guarded block.
-/

namespace StructuralDiff

/-! ### The statements behind the branches -/

namespace FlowStmt

/-- The site of a statement that becomes a branch. -/
def site? : FlowStmt → Option Site
  | .cond site _ _ _ | .exit site | .call site | .loop site _ | .guarded site _ _ _ | .scoped site _ => some site
  | .sequence _ | .plain _ => none

/-- The statement is a guarded block. -/
def isGuarded : FlowStmt → Bool
  | .guarded _ _ _ _ => true
  | _ => false

/-- The flow types with which the branch of a statement may be left. -/
def outlets : FlowStmt → List FlowType
  | .cond _ truth thenBody none =>
    (if truth != some false then [.true] else []) ++ [if blockFallsThrough thenBody then .next else .false]
  | .cond _ truth _ (some _) =>
    (if truth != some false then [.true] else []) ++ (if truth != some true then [.false] else [])
  | .exit _ | .sequence _ | .plain _ => []
  | .call _ | .scoped _ _ => [.next]
  | .loop _ _ => [.true, .next]
  | .guarded _ _ _ _ => [.next, .false]

mutual

/-- The statements that become branches, in the order of the source. -/
def branching : FlowStmt → List FlowStmt
  | .cond site truth thenBody elseBody =>
    .cond site truth thenBody elseBody :: (blockBranching thenBody ++ optionBranching elseBody)
  | .exit site => [.exit site]
  | .call site => [.call site]
  | .loop site body => .loop site body :: blockBranching body
  | .guarded site body handlers finalBody =>
    .guarded site body handlers finalBody ::
      (blockBranching body ++ allBranching handlers ++ optionBranching finalBody)
  | .scoped site body => .scoped site body :: blockBranching body
  | .sequence body => blockBranching body
  | .plain _ => []

/-- The same for a block. -/
def blockBranching : List FlowStmt → List FlowStmt
  | [] => []
  | stmt :: rest => branching stmt ++ blockBranching rest

/-- The same for a block that may be absent. -/
def optionBranching : Option (List FlowStmt) → List FlowStmt
  | none => []
  | some body => blockBranching body

/-- The same for several blocks. -/
def allBranching : List (List FlowStmt) → List FlowStmt
  | [] => []
  | body :: rest => blockBranching body ++ allBranching rest

end

mutual

/-- The statements that become branches are those at the sites. -/
theorem map_site?_branching (stmt : FlowStmt) : (branching stmt).map site? = (sites stmt).map some := by
  match stmt with
  | .cond site truth thenBody elseBody =>
    simp only [branching, sites, List.map_cons, List.map_append, map_site?_blockBranching thenBody,
      map_site?_optionBranching elseBody, site?]
  | .exit _ => rfl
  | .call _ => rfl
  | .loop site body => simp only [branching, sites, List.map_cons, map_site?_blockBranching body, site?]
  | .guarded site body handlers finalBody =>
    simp only [branching, sites, List.map_cons, List.map_append, map_site?_blockBranching body,
      map_site?_allBranching handlers, map_site?_optionBranching finalBody, site?]
  | .scoped site body => simp only [branching, sites, List.map_cons, map_site?_blockBranching body, site?]
  | .sequence body => exact map_site?_blockBranching body
  | .plain _ => rfl

theorem map_site?_blockBranching (body : List FlowStmt) :
    (blockBranching body).map site? = (blockSites body).map some := by
  match body with
  | [] => rfl
  | stmt :: rest =>
    simp only [blockBranching, blockSites, List.map_append, map_site?_branching stmt,
      map_site?_blockBranching rest]

theorem map_site?_optionBranching (body : Option (List FlowStmt)) :
    (optionBranching body).map site? = (optionSites body).map some := by
  match body with
  | none => rfl
  | some body => exact map_site?_blockBranching body

theorem map_site?_allBranching (bodies : List (List FlowStmt)) :
    (allBranching bodies).map site? = (allSites bodies).map some := by
  match bodies with
  | [] => rfl
  | body :: rest =>
    simp only [allBranching, allSites, List.map_append, map_site?_blockBranching body,
      map_site?_allBranching rest]

end

theorem length_blockBranching (body : List FlowStmt) :
    (blockBranching body).length = (blockSites body).length := by
  have h := congrArg List.length (map_site?_blockBranching body)
  rwa [List.length_map, List.length_map] at h

/-! ### Ordinals -/

open Lowered

theorem next_lower_eq (n : Nat) (stmt : FlowStmt) : (lower n stmt).next = n + (branching stmt).length := by
  have h := congrArg List.length (map_site?_branching stmt)
  rw [List.length_map, List.length_map, ← map_fst_marks true, List.length_map] at h
  rw [next_lower n true, h]

theorem next_lowerFrom (n : Nat) (entry : Option Nat) (pending : List Anchor) (body : List FlowStmt) :
    (lowerFrom n entry pending body).next = n + (blockBranching body).length := by
  induction body generalizing n entry pending with
  | nil => rfl
  | cons stmt rest ih =>
    simp only [lowerFrom, blockBranching, List.length_append]
    cases (lower n stmt).entry <;> simp only [ih, next_lower_eq, Nat.add_assoc]

theorem next_lowerHandlers_eq (source n : Nat) (handlers : List (List FlowStmt)) :
    (lowerHandlers source n handlers).next = n + (allBranching handlers).length := by
  induction handlers generalizing n with
  | nil => rfl
  | cons body rest ih =>
    simp only [lowerHandlers, allBranching, List.length_append, ih, next_lowerFrom, Nat.add_assoc]

mutual

/-- A statement is entered at its first branch, if it has one. -/
theorem entry_lower (n : Nat) (stmt : FlowStmt) :
    (lower n stmt).entry = (branching stmt).head?.map fun _ => n := by
  match stmt with
  | .cond _ _ _ elseBody =>
    rw [lower, ofCond]
    split <;> rfl
  | .guarded _ _ _ _ =>
    rw [lower, ofGuarded]
    split <;> rfl
  | .exit _ | .call _ | .loop _ _ | .scoped _ _ => rfl
  | .sequence body => exact entry_lowerBlock n body
  | .plain _ => rfl

/-- **A block is entered at its first branch**, if it has one. -/
theorem entry_lowerBlock (n : Nat) (body : List FlowStmt) :
    (lowerFrom n none [] body).entry = (blockBranching body).head?.map fun _ => n := by
  match body with
  | [] => rfl
  | stmt :: rest =>
    have hentry := entry_lower n stmt
    have hnext := next_lower_eq n stmt
    cases hfirst : branching stmt with
    | nil =>
      rw [hfirst] at hentry hnext
      simp only [lowerFrom, hentry, hnext, List.head?_nil, Option.map_none, ite_self, blockBranching, hfirst,
        List.length_nil, Nat.add_zero, List.nil_append]
      exact entry_lowerBlock n rest
    | cons head tail =>
      rw [hfirst] at hentry
      simp only [lowerFrom, hentry, blockBranching, hfirst, List.head?_cons, Option.map_some, List.cons_append]
      exact entry_lowerFrom _ _ _ _

end

end FlowStmt

/-! ### Links and exits -/

namespace Piece

/-- The pieces link an anchor to a branch. -/
def Links (pieces : List Piece) (anchor : Anchor) (target : Nat) : Prop :=
  Piece.link anchor.source target anchor.flow ∈ pieces

variable {anchor : Anchor} {target : Nat}

@[simp]
theorem links_nil : ¬Links [] anchor target :=
  List.not_mem_nil

@[simp]
theorem links_append {a b : List Piece} :
    Links (a ++ b) anchor target ↔ Links a anchor target ∨ Links b anchor target :=
  List.mem_append

@[simp]
theorem links_branch {site : Site} {rest : List Piece} :
    Links (.branch site :: rest) anchor target ↔ Links rest anchor target := by
  simp [Links]

@[simp]
theorem links_connect {anchors : List Anchor} {next : Nat} :
    Links (Lowered.connect anchors next) anchor target ↔ anchor ∈ anchors ∧ target = next := by
  simp only [Links, Lowered.connect, List.mem_map, Piece.link.injEq]
  constructor
  · rintro ⟨⟨source, flow⟩, hmem, rfl, rfl, rfl⟩
    exact ⟨hmem, rfl⟩
  · rintro ⟨hmem, rfl⟩
    exact ⟨anchor, hmem, rfl, rfl, rfl⟩

@[simp]
theorem links_enter {source : Nat} {flow : FlowType} {block : Lowered} :
    Links (Lowered.enter source flow block) anchor target ↔
      anchor = ⟨source, flow⟩ ∧ block.entry = some target := by
  obtain ⟨s, f⟩ := anchor
  unfold Lowered.enter
  cases block.entry with
  | none => simp
  | some entry =>
    simp only [Links, List.mem_singleton, Piece.link.injEq, Anchor.mk.injEq, Option.some.injEq]
    grind

@[simp]
theorem links_ite {p : Bool} {pieces : List Piece} :
    Links (if p then pieces else []) anchor target ↔ p = true ∧ Links pieces anchor target := by
  cases p <;> simp

end Piece

namespace Lowered

/-- The anchors at the branches from the ordinal `n` up to the ordinal `m`. -/
def Span (n m : Nat) (anchor : Anchor) : Prop :=
  n ≤ anchor.source ∧ anchor.source < m

/-- Links and exits from anchors of one's own, at which control may leave. An anchor is used once: it has one
link, or it is an exit; only anchors that fan out are used more often. -/
structure Wired (May Fans Own : Anchor → Prop) (Link : Anchor → Nat → Prop) (Exit : Anchor → Prop) : Prop where
  link : ∀ {a t}, Link a t → Own a ∧ May a ∧ a.source < t
  exit : ∀ {a}, Exit a → Own a ∧ May a
  once : ∀ {a t t'}, Link a t → Link a t' → t = t' ∨ Fans a
  waits : ∀ {a t}, Link a t → Exit a → Fans a

namespace Wired

variable {May Fans Own Own' : Anchor → Prop} {Link Link' : Anchor → Nat → Prop} {Exit Exit' : Anchor → Prop}

theorem mono (h : Wired May Fans Own Link Exit) (hown : ∀ a, Own a → Own' a)
    (hlink : ∀ a t, Link' a t → Link a t) (hexit : ∀ a, Exit' a → Exit a) : Wired May Fans Own' Link' Exit' := by
  refine ⟨fun {a t} hl => ?_, fun {a} he => ?_, fun h₁ h₂ => ?_, fun hl he => ?_⟩
  · obtain ⟨ho, hrest⟩ := h.link (hlink a t hl)
    exact ⟨hown a ho, hrest⟩
  · obtain ⟨ho, hmay⟩ := h.exit (hexit a he)
    exact ⟨hown a ho, hmay⟩
  · exact h.once (hlink _ _ h₁) (hlink _ _ h₂)
  · exact h.waits (hlink _ _ hl) (hexit _ he)

/-- **What comes later may go on from the exits of what came before**, and takes these for its own. -/
theorem andThen (h : Wired May Fans Own Link Exit) (h' : Wired May Fans Own' Link' Exit')
    (hshared : ∀ a, Own a → Own' a → Exit a ∨ Fans a) :
    Wired May Fans (fun a => Own a ∨ Own' a) (fun a t => Link a t ∨ Link' a t)
      (fun a => Exit' a ∨ Exit a ∧ (Own' a → Fans a)) := by
  have hfans {a : Anchor} {t : Nat} (hl : Link a t) (ho : Own' a) : Fans a :=
    (hshared a (h.link hl).1 ho).elim (h.waits hl) id
  refine ⟨?_, ?_, ?_, ?_⟩
  · rintro a t (hl | hl)
    · exact ⟨.inl (h.link hl).1, (h.link hl).2⟩
    · exact ⟨.inr (h'.link hl).1, (h'.link hl).2⟩
  · rintro a (he | ⟨he, -⟩)
    · exact ⟨.inr (h'.exit he).1, (h'.exit he).2⟩
    · exact ⟨.inl (h.exit he).1, (h.exit he).2⟩
  · rintro a t t' (h₁ | h₁) (h₂ | h₂)
    · exact h.once h₁ h₂
    · exact .inr (hfans h₁ (h'.link h₂).1)
    · exact .inr (hfans h₂ (h'.link h₁).1)
    · exact h'.once h₁ h₂
  · rintro a t (hl | hl) (he | ⟨he, hwait⟩)
    · exact hfans hl (h'.exit he).1
    · exact h.waits hl he
    · exact h'.waits hl he
    · exact hwait (h'.link hl).1

/-- Parts that have nothing in common. -/
theorem or (h : Wired May Fans Own Link Exit) (h' : Wired May Fans Own' Link' Exit')
    (hdisjoint : ∀ a, Own a → ¬Own' a) : Wired May Fans (fun a => Own a ∨ Own' a)
      (fun a t => Link a t ∨ Link' a t) (fun a => Exit a ∨ Exit' a) := by
  refine (h.andThen h' fun a ho ho' => absurd ho' (hdisjoint a ho)).mono (fun _ => id) (fun _ _ => id) ?_
  rintro a (he | he)
  · exact .inr ⟨he, fun ho' => absurd ho' (hdisjoint a (h.exit he).1)⟩
  · exact .inl he

/-- One anchor that is an exit. -/
theorem leave {anchor : Anchor} (hmay : May anchor) :
    Wired May Fans (· = anchor) (fun _ _ => False) (· = anchor) :=
  ⟨False.elim, fun he => ⟨he, he ▸ hmay⟩, fun hl => hl.elim, fun hl => hl.elim⟩

/-- Links from anchors to a branch behind all of them. -/
theorem connect {anchors : List Anchor} {target : Nat} (hmay : ∀ a ∈ anchors, May a)
    (hlt : ∀ a ∈ anchors, a.source < target) :
    Wired May Fans (· ∈ anchors) (fun a t => a ∈ anchors ∧ t = target) (fun _ => False) := by
  refine ⟨?_, False.elim, ?_, fun _ he => he.elim⟩
  · rintro a t ⟨hmem, rfl⟩
    exact ⟨hmem, hmay a hmem, hlt a hmem⟩
  · rintro a t t' ⟨-, rfl⟩ ⟨-, rfl⟩
    exact .inl rfl

/-- Exits that all get their link. -/
theorem joined (h : Wired May Fans Own Link Exit) {anchors : List Anchor} {target : Nat}
    (hexits : ∀ a ∈ anchors, Exit a) (hlt : ∀ a ∈ anchors, a.source < target) :
    Wired May Fans Own (fun a t => Link a t ∨ a ∈ anchors ∧ t = target) (fun _ => False) := by
  have hconnect : Wired May Fans (· ∈ anchors) (fun a t => a ∈ anchors ∧ t = target) fun _ => False :=
    connect (fun a ha => (h.exit (hexits a ha)).2) hlt
  refine (h.andThen hconnect fun a _ ha => .inl (hexits a ha)).mono ?_ (fun _ _ => id) fun _ he => he.elim
  rintro a (ho | ha)
  · exact ho
  · exact (h.exit (hexits a ha)).1

/-- Parts with consecutive ordinals. -/
theorem span_or {n m k : Nat} (h : Wired May Fans (Span n m) Link Exit)
    (h' : Wired May Fans (Span m k) Link' Exit') (hnm : n ≤ m) (hmk : m ≤ k) :
    Wired May Fans (Span n k) (fun a t => Link a t ∨ Link' a t) (fun a => Exit a ∨ Exit' a) := by
  refine (h.or h' fun a ha ha' => Nat.not_lt.2 ha'.1 ha.2).mono ?_ (fun _ _ => id) (fun _ => id)
  rintro a (ha | ha)
  · exact ⟨ha.1, Nat.lt_of_lt_of_le ha.2 hmk⟩
  · exact ⟨Nat.le_trans hnm ha.1, ha.2⟩

/-- A block that is entered from an anchor, if it can be reached: the anchor is linked to the entry, or it is an
exit when there is none. -/
theorem side {reachable : Bool} {anchor : Anchor} {block : Lowered} (hmay : reachable = true → May anchor)
    (hentry : ∀ t, block.entry = some t → anchor.source < t) :
    Wired May Fans (· = anchor) (fun a t => reachable = true ∧ a = anchor ∧ block.entry = some t)
      (fun a => reachable = true ∧ a = anchor ∧ block.entry = none) := by
  refine ⟨?_, ?_, ?_, ?_⟩
  · rintro a t ⟨hreachable, rfl, ht⟩
    exact ⟨rfl, hmay hreachable, hentry t ht⟩
  · rintro a ⟨hreachable, rfl, -⟩
    exact ⟨rfl, hmay hreachable⟩
  · rintro a t t' ⟨-, rfl, ht⟩ ⟨-, -, ht'⟩
    exact .inl (Option.some.inj (ht.symm.trans ht'))
  · rintro a t ⟨-, -, ht⟩ ⟨-, -, hnone⟩
    cases ht.symm.trans hnone

end Wired

theorem mem_continuations {source : Nat} {flow : FlowType} {block : Lowered} {anchor : Anchor}
    (h : anchor ∈ continuations source flow block) :
    anchor ∈ block.exits ∨ anchor = ⟨source, flow⟩ ∧ block.entry = none := by
  unfold continuations at h
  cases hentry : block.entry with
  | none =>
    rw [hentry] at h
    exact .inr ⟨List.mem_singleton.1 (List.mem_ite_nil_right.1 h).2, rfl⟩
  | some entry =>
    rw [hentry] at h
    exact .inl h

/-- A lowered block whose branches have the ordinals from `n` on, which is entered at the first of them, and whose
links and exits use its own anchors once. -/
structure WiredAt (May Fans : Anchor → Prop) (n : Nat) (block : Lowered) : Prop where
  le_next : n ≤ block.next
  entry : ∀ t, block.entry = some t → t = n
  wired : Wired May Fans (Span n block.next) (Piece.Links block.pieces) (· ∈ block.exits)

section Constructs

variable {May Fans : Anchor → Prop} {n : Nat} {site : Site}

theorem WiredAt.absent (n : Nat) : WiredAt May Fans n (absent n) :=
  ⟨Nat.le_refl n, by simp [Lowered.absent], by constructor <;> simp [Lowered.absent]⟩

/-- A block that is entered from an anchor before it. -/
theorem WiredAt.entered {m : Nat} {block : Lowered} (h : WiredAt May Fans m block) (anchor : Anchor)
    (reachable : Bool) (hlt : anchor.source < m) (hmay : reachable = true → May anchor) :
    Wired May Fans (fun a => Span m block.next a ∨ a = anchor)
      (fun a t => Piece.Links block.pieces a t ∨ reachable = true ∧ a = anchor ∧ block.entry = some t)
      (fun a => a ∈ block.exits ∨ reachable = true ∧ a = anchor ∧ block.entry = none) := by
  refine h.wired.or (.side hmay fun t ht => ?_) fun a ha heq => ?_
  · rw [h.entry t ht]
    exact hlt
  · subst heq
    exact absurd hlt (Nat.not_lt.2 ha.1)

/-- The links of a condition are those of its sides and those into them. -/
theorem links_ofCond {truth : Option Bool} {thenSide elseSide : Lowered} {hasElse : Bool} {a : Anchor}
    {t : Nat} : Piece.Links (ofCond n site truth thenSide elseSide hasElse).pieces a t ↔
      (Piece.Links thenSide.pieces a t ∨
        (truth != some false) = true ∧ a = ⟨n, .true⟩ ∧ thenSide.entry = some t) ∨
      (Piece.Links elseSide.pieces a t ∨
        (truth != some true) = true ∧ a = ⟨n, .false⟩ ∧ elseSide.entry = some t) := by
  cases hasElse
  all_goals
    simp only [ofCond, if_true, Bool.false_eq_true, if_false, List.cons_append, Piece.links_branch,
      Piece.links_append, Piece.links_ite, Piece.links_enter]
    grind

/-- A condition with two sides. -/
theorem wiredAt_ofCond_of_else {truth : Option Bool} {thenSide elseSide : Lowered}
    (hthen : WiredAt May Fans (n + 1) thenSide) (helse : WiredAt May Fans thenSide.next elseSide)
    (htrue : (truth != some false) = true → May ⟨n, .true⟩)
    (hfalse : (truth != some true) = true → May ⟨n, .false⟩) :
    WiredAt May Fans n (ofCond n site truth thenSide elseSide true) := by
  have hle := hthen.le_next
  have hle' := helse.le_next
  have helseSide := helse.entered ⟨n, .false⟩ _ hle hfalse
  refine ⟨Nat.le_trans (Nat.le_succ n) (Nat.le_trans hle hle'), by simp [ofCond], ?_⟩
  refine ((hthen.entered ⟨n, .true⟩ _ n.lt_succ_self htrue).or helseSide ?_).mono ?_ (fun a t => links_ofCond.1) ?_
  · simp only [Span]
    grind
  · simp only [Span, ofCond, if_true]
    grind
  · simp only [ofCond, if_true, List.mem_eraseDups, List.mem_append, List.mem_ite_nil_right,
      List.mem_singleton, Bool.and_eq_true, Option.isNone_iff_eq_none]
    grind

/-- A condition without an else is left by itself. -/
theorem wiredAt_ofCond_of_absent {truth : Option Bool} {thenSide : Lowered}
    (hthen : WiredAt May Fans (n + 1) thenSide) (htrue : (truth != some false) = true → May ⟨n, .true⟩)
    (hexit : May ⟨n, if thenSide.falls then .next else .false⟩) :
    WiredAt May Fans n (ofCond n site truth thenSide (absent thenSide.next) false) := by
  have hle := hthen.le_next
  refine ⟨Nat.le_trans (Nat.le_succ n) hle, by simp [ofCond], ?_⟩
  refine ((hthen.entered ⟨n, .true⟩ _ n.lt_succ_self htrue).or (.leave hexit) ?_).mono ?_ ?_ ?_
  · simp only [Span]
    grind
  · simp only [Span, ofCond, absent]
    grind
  · intro a t hlink
    simpa [absent] using links_ofCond.1 hlink
  · intro a hmem
    exact .inr (List.mem_singleton.1 hmem)

/-- A guarded block; its handlers may all be entered from it. -/
theorem wiredAt_ofGuarded {body handlers finalSide : Lowered} (hbody : WiredAt May Fans (n + 1) body)
    (hle : body.next ≤ handlers.next)
    (hhandlers : Wired May Fans (fun a => a = ⟨n, .false⟩ ∨ Span body.next handlers.next a)
      (Piece.Links handlers.pieces) (· ∈ handlers.exits))
    (hfinal : WiredAt May Fans handlers.next finalSide) (hnext : May ⟨n, .next⟩) :
    WiredAt May Fans n (ofGuarded n site body handlers finalSide) := by
  have hlt := hbody.le_next
  have hle' := hfinal.le_next
  have hspan : n ≤ handlers.next := Nat.le_trans (Nat.le_succ n) (Nat.le_trans hlt hle)
  have hinner : Wired May Fans (Span n handlers.next)
      (Piece.Links (Piece.branch site :: body.pieces ++ enter n .next body ++ handlers.pieces))
      (· ∈ continuations n .next body ++ handlers.exits) := by
    have hentered := hbody.entered ⟨n, .next⟩ true n.lt_succ_self fun _ => hnext
    refine (hentered.or hhandlers ?_).mono ?_ ?_ ?_
    · simp only [Span]
      grind
    · simp only [Span]
      grind
    · simp only [List.cons_append, Piece.links_branch, Piece.links_append, Piece.links_enter]
      grind
    · intro a ha
      rcases List.mem_append.1 ha with ha | ha
      · exact .inl ((mem_continuations ha).imp_right fun h => ⟨rfl, h⟩)
      · exact .inr ha
  unfold ofGuarded
  cases hentry : finalSide.entry with
  | none =>
    refine ⟨Nat.le_trans hspan hle', by simp, ?_⟩
    refine (hinner.span_or hfinal.wired hspan hle').mono (fun _ => id) (fun a t => ?_) fun a ha => ?_
    · exact Piece.links_append.1
    · exact .inl (List.mem_eraseDups.1 ha)
  | some entry =>
    obtain rfl := hfinal.entry entry hentry
    -- The exits so far have their links now, and those of what is done at last take their place.
    have hjoined := hinner.joined (fun _ => id) fun a ha => (hinner.exit ha).1.2
    refine ⟨Nat.le_trans hspan hle', by simp, ?_⟩
    refine (hjoined.span_or hfinal.wired hspan hle').mono (fun _ => id) (fun a t => ?_) fun a ha => ?_
    · simp only [Piece.links_append, Piece.links_connect]
      grind
    · exact .inr (List.mem_eraseDups.1 ha)

/-- A branch with a block inside that is entered from it. -/
theorem wiredAt_of_block {inner : Lowered} {flow : FlowType} (h : WiredAt May Fans (n + 1) inner)
    (hmay : May ⟨n, flow⟩) :
    WiredAt May Fans n
      { entry := some n, exits := continuations n flow inner, falls := inner.falls, next := inner.next
        pieces := .branch site :: inner.pieces ++ enter n flow inner } := by
  have hle := h.le_next
  refine ⟨Nat.le_trans (Nat.le_succ n) hle, by simp, ?_⟩
  refine (h.entered ⟨n, flow⟩ true n.lt_succ_self fun _ => hmay).mono ?_ ?_ ?_
  · simp only [Span]
    grind
  · simp
  · intro a ha
    exact (mem_continuations ha).imp_right fun h => ⟨rfl, h⟩

/-- A loop is left by itself, and its body by the exits that it has. -/
theorem wiredAt_loop {inner : Lowered} (h : WiredAt May Fans (n + 1) inner) (htrue : May ⟨n, .true⟩)
    (hnext : May ⟨n, .next⟩) :
    WiredAt May Fans n
      { entry := some n, exits := (⟨n, .next⟩ :: inner.exits).eraseDups, falls := true, next := inner.next
        pieces := .branch site :: inner.pieces ++ enter n .true inner } := by
  have hle := h.le_next
  have hentered := h.entered ⟨n, .true⟩ true n.lt_succ_self fun _ => htrue
  refine ⟨Nat.le_trans (Nat.le_succ n) hle, by simp, ?_⟩
  refine (hentered.or (.leave hnext) ?_).mono ?_ ?_ ?_
  · simp only [Span]
    grind
  · simp only [Span]
    grind
  · simp
  · intro a ha
    rcases List.mem_cons.1 (List.mem_eraseDups.1 ha) with ha | ha
    · exact .inr ha
    · exact .inl (.inl ha)

/-- A branch without anything inside. -/
theorem wiredAt_leaf {anchors : List Anchor} {falls : Bool}
    (h : ∀ a ∈ anchors, a.source = n ∧ May a) :
    WiredAt May Fans n
      { entry := some n, exits := anchors, falls, next := n + 1, pieces := [.branch site] } := by
  refine ⟨Nat.le_succ n, by simp, ⟨by simp, fun {a} ha => ?_, by simp, by simp⟩⟩
  obtain ⟨hsource, hmay⟩ := h a ha
  exact ⟨⟨Nat.le_of_eq hsource.symm, hsource ▸ Nat.lt_succ_self _⟩, hmay⟩

end Constructs

end Lowered

namespace FlowStmt

open Piece Lowered

/-- The statements stand in the list from the ordinal `n` on. -/
def StandsAt (all : List FlowStmt) (n : Nat) (part : List FlowStmt) : Prop :=
  part <+: all.drop n

/-- The branch of the anchor may be left in this way. -/
def MayLeave (all : List FlowStmt) (anchor : Anchor) : Prop :=
  ∃ stmt, all[anchor.source]? = some stmt ∧ anchor.flow ∈ stmt.outlets

/-- The anchor leads from a guarded block to its handlers. -/
def FansOut (all : List FlowStmt) (anchor : Anchor) : Prop :=
  anchor.flow = .false ∧ ∃ stmt, all[anchor.source]? = some stmt ∧ stmt.isGuarded = true

variable {all : List FlowStmt} {n : Nat}

theorem standsAt_append {a b : List FlowStmt} :
    StandsAt all n (a ++ b) ↔ StandsAt all n a ∧ StandsAt all (n + a.length) b := by
  rw [StandsAt, StandsAt, StandsAt, ← List.drop_drop]
  constructor
  · rintro ⟨rest, hrest⟩
    rw [← hrest, List.append_assoc, List.drop_left]
    exact ⟨List.prefix_append _ _, List.prefix_append _ _⟩
  · rintro ⟨⟨rest, hrest⟩, hb⟩
    rw [← hrest, List.drop_left] at hb
    rw [← hrest]
    exact (List.prefix_append_right_inj a).2 hb

theorem standsAt_cons {stmt : FlowStmt} {rest : List FlowStmt} (h : StandsAt all n (stmt :: rest)) :
    all[n]? = some stmt ∧ StandsAt all (n + 1) rest := by
  rw [← List.singleton_append, standsAt_append] at h
  obtain ⟨⟨behind, hbehind⟩, hrest⟩ := h
  refine ⟨?_, hrest⟩
  rw [← List.head?_drop, ← hbehind]
  rfl

mutual

/-- **Every lowered statement is wired**: its links go forward, each branch is left as its statement lets it, and
every anchor has one link at most, or waits as an exit, unless it leads to handlers. -/
theorem wired_lower {n : Nat} {stmt : FlowStmt} (h : StandsAt all n (branching stmt)) :
    WiredAt (MayLeave all) (FansOut all) n (lower n stmt) := by
  match stmt with
  | .cond site truth thenBody none =>
    obtain ⟨hstmt, hinner⟩ := standsAt_cons h
    have hthen := wired_lowerBlock (standsAt_append.1 hinner).1
    refine wiredAt_ofCond_of_absent hthen (fun htrue => ⟨_, hstmt, ?_⟩) ⟨_, hstmt, ?_⟩
    · simp [outlets, htrue]
    · simp [outlets, falls_lowerFrom]
  | .cond site truth thenBody (some elseBody) =>
    obtain ⟨hstmt, hinner⟩ := standsAt_cons h
    obtain ⟨hthenStands, helseStands⟩ := standsAt_append.1 hinner
    rw [← next_lowerFrom _ none []] at helseStands
    have hthen := wired_lowerBlock hthenStands
    have helse := wired_lowerBlock helseStands
    refine wiredAt_ofCond_of_else hthen helse (fun htrue => ⟨_, hstmt, ?_⟩) fun hfalse => ⟨_, hstmt, ?_⟩
    · simp [outlets, htrue]
    · simp [outlets, hfalse]
  | .exit site => exact wiredAt_leaf (by simp)
  | .call site =>
    obtain ⟨hstmt, -⟩ := standsAt_cons h
    refine wiredAt_leaf fun a ha => ?_
    rw [List.mem_singleton.1 ha]
    exact ⟨rfl, _, hstmt, List.mem_singleton_self _⟩
  | .loop site body =>
    obtain ⟨hstmt, hinner⟩ := standsAt_cons h
    have hbody := wired_lowerBlock hinner
    exact wiredAt_loop hbody ⟨_, hstmt, by simp [outlets]⟩ ⟨_, hstmt, by simp [outlets]⟩
  | .guarded site body handlers finalBody =>
    obtain ⟨hstmt, hinner⟩ := standsAt_cons h
    obtain ⟨hinner, hfinalStands⟩ := standsAt_append.1 hinner
    obtain ⟨hbodyStands, hhandlersStands⟩ := standsAt_append.1 hinner
    -- the body, the handlers and the end stand one behind the other
    rw [List.length_append, ← Nat.add_assoc, ← next_lowerFrom _ none [], ← next_lowerHandlers_eq n] at hfinalStands
    rw [← next_lowerFrom _ none []] at hhandlersStands
    have hbody := wired_lowerBlock hbodyStands
    have hhandlers := wired_lowerHandlers hhandlersStands hbody.le_next ⟨_, hstmt, by simp [outlets]⟩
      ⟨rfl, _, hstmt, rfl⟩
    refine wiredAt_ofGuarded hbody ?_ hhandlers (wired_lowerOption hfinalStands) ⟨_, hstmt, by simp [outlets]⟩
    rw [next_lowerHandlers_eq]
    exact Nat.le_add_right _ _
  | .scoped site body =>
    obtain ⟨hstmt, hinner⟩ := standsAt_cons h
    have hbody := wired_lowerBlock hinner
    exact wiredAt_of_block hbody ⟨_, hstmt, by simp [outlets]⟩
  | .sequence body => exact wired_lowerBlock h
  | .plain falls => exact ⟨Nat.le_refl n, by simp [lower], by constructor <;> simp [lower]⟩
termination_by (sizeOf stmt, 0)

/-- A block, when nothing waits for it. -/
theorem wired_lowerBlock {n : Nat} {body : List FlowStmt} (h : StandsAt all n (blockBranching body)) :
    WiredAt (MayLeave all) (FansOut all) n (lowerFrom n none [] body) := by
  have hwired := wired_lowerFrom none h (List.forall_mem_nil _)
  refine ⟨?_, fun t ht => ?_, hwired.mono (by simp) (fun _ _ => id) fun _ => id⟩
  · rw [next_lowerFrom]
    exact Nat.le_add_right _ _
  · rw [entry_lowerBlock, Option.map_eq_some_iff] at ht
    obtain ⟨-, -, rfl⟩ := ht
    rfl
termination_by (sizeOf body, 1)

/-- The rest of a block, when the anchors that wait for it are given: it takes these for its own. -/
theorem wired_lowerFrom {n : Nat} (entry : Option Nat) {pending : List Anchor} {body : List FlowStmt}
    (h : StandsAt all n (blockBranching body)) (hpending : ∀ a ∈ pending, a.source < n ∧ MayLeave all a) :
    Wired (MayLeave all) (FansOut all) (fun a => a ∈ pending ∨ Span n (lowerFrom n entry pending body).next a)
      (Links (lowerFrom n entry pending body).pieces) (· ∈ (lowerFrom n entry pending body).exits) := by
  match body with
  | [] =>
    exact ⟨fun hl => absurd hl links_nil, fun {a} ha => ⟨.inl ha, (hpending a ha).2⟩,
      fun hl => absurd hl links_nil, fun hl => absurd hl links_nil⟩
  | stmt :: rest =>
    obtain ⟨hstmt, hrest⟩ := standsAt_append.1 h
    rw [← next_lower_eq] at hrest
    have hfirst := wired_lower hstmt
    have hle := hfirst.le_next
    cases hentry : (lower n stmt).entry with
    | some target =>
      obtain rfl := hfirst.entry target hentry
      -- The anchors that wait get their links here, and the exits of the statement wait in their place.
      have hconnect : Wired (MayLeave all) (FansOut all) (· ∈ pending) (fun a t => a ∈ pending ∧ t = target)
          fun _ => False := .connect (fun a ha => (hpending a ha).2) fun a ha => (hpending a ha).1
      have hlater := wired_lowerFrom (entry.or (some target)) hrest fun a ha =>
        ⟨(hfirst.wired.exit ha).1.2, (hfirst.wired.exit ha).2⟩
      have hle' := next_lowerFrom (lower target stmt).next (entry.or (some target)) (lower target stmt).exits rest
      simp only [lowerFrom, hentry]
      refine ((hconnect.or hfirst.wired ?_).andThen hlater ?_).mono ?_ ?_ fun a ha => .inl ha
      · simp only [Span]
        grind
      · simp only [Span]
        grind
      · have hexits (a : Anchor) (ha : a ∈ (lower target stmt).exits) := (hfirst.wired.exit ha).1
        simp only [Span] at hexits ⊢
        grind
      · simp only [links_append, links_connect]
        grind
    | none =>
      have hwaiting : ∀ a ∈ if (lower n stmt).falls then pending else [], a ∈ pending := fun a ha =>
        (List.mem_ite_nil_right.1 ha).2
      have hlater := wired_lowerFrom entry hrest fun a ha =>
        ⟨Nat.lt_of_lt_of_le (hpending a (hwaiting a ha)).1 hle, (hpending a (hwaiting a ha)).2⟩
      simp only [lowerFrom, hentry]
      have hle' := next_lowerFrom (lower n stmt).next entry (if (lower n stmt).falls then pending else []) rest
      refine (hfirst.wired.or hlater ?_).mono ?_ ?_ fun a ha => .inr ha
      · simp only [Span]
        grind
      · simp only [Span]
        grind
      · simp only [links_append, List.append_nil]
        grind
termination_by (sizeOf body, 0)

theorem wired_lowerOption {n : Nat} {body : Option (List FlowStmt)} (h : StandsAt all n (optionBranching body)) :
    WiredAt (MayLeave all) (FansOut all) n (lowerOption n body) := by
  match body with
  | none => exact .absent n
  | some body => exact wired_lowerBlock h
termination_by (sizeOf body, 0)

/-- Handlers are all entered from one anchor. -/
theorem wired_lowerHandlers {source n : Nat} {handlers : List (List FlowStmt)}
    (h : StandsAt all n (allBranching handlers)) (hlt : source < n) (hmay : MayLeave all ⟨source, .false⟩)
    (hfans : FansOut all ⟨source, .false⟩) :
    Wired (MayLeave all) (FansOut all)
      (fun a => a = ⟨source, .false⟩ ∨ Span n (lowerHandlers source n handlers).next a)
      (Links (lowerHandlers source n handlers).pieces) (· ∈ (lowerHandlers source n handlers).exits) := by
  match handlers with
  | [] => constructor <;> simp [lowerHandlers, absent]
  | body :: rest =>
    obtain ⟨hbody, hrest⟩ := standsAt_append.1 h
    rw [← next_lowerFrom _ none []] at hrest
    have hfirst := wired_lowerBlock hbody
    have hlater := wired_lowerHandlers hrest (Nat.lt_of_lt_of_le hlt hfirst.le_next) hmay hfans
    have hentered := hfirst.entered ⟨source, .false⟩ true hlt fun _ => hmay
    simp only [lowerHandlers]
    have hle := hfirst.le_next
    have hle' := next_lowerHandlers_eq source (lowerFrom n none [] body).next rest
    refine (hentered.andThen hlater ?_).mono ?_ ?_ ?_
    · simp only [Span]
      grind
    · simp only [Span]
      grind
    · simp only [links_append, links_enter]
      grind
    · intro a ha
      rcases List.mem_append.1 ha with ha | ha
      · refine .inr ⟨(mem_continuations ha).imp_right fun h => ⟨rfl, h⟩, ?_⟩
        rintro (rfl | hspan)
        · exact hfans
        · -- an exit of the first handler is behind the anchor and before the later handlers
          rcases mem_continuations ha with hexit | ⟨rfl, -⟩
          · exact absurd (hfirst.wired.exit hexit).1.2 (Nat.not_lt.2 hspan.1)
          · exact hfans
      · exact .inl ha
termination_by (sizeOf handlers, 0)

end

end FlowStmt

namespace Skeleton

open FlowStmt

theorem standsAt_self (body : List FlowStmt) : StandsAt (blockBranching body) 0 (blockBranching body) :=
  List.prefix_rfl

/-- **The links of a function go forward, leave each branch as its statement lets them, and no two of them leave a
branch in the same way**, but for those from a guarded block to its handlers. -/
theorem wired_ofBody (body : List FlowStmt) {source target : Nat} {flow : FlowType}
    (h : Piece.link source target flow ∈ (ofBody body).pieces) :
    source < target ∧ MayLeave (blockBranching body) ⟨source, flow⟩ ∧
      ∀ other, Piece.link source other flow ∈ (ofBody body).pieces →
        target = other ∨ FansOut (blockBranching body) ⟨source, flow⟩ := by
  have hwired := (wired_lowerBlock (standsAt_self body)).wired
  have hlink : Piece.Links (ofBody body).pieces ⟨source, flow⟩ target := h
  obtain ⟨-, hmay, hlt⟩ := hwired.link hlink
  exact ⟨hlt, hmay, fun other hother => hwired.once hlink hother⟩

theorem entry_ofBody (body : List FlowStmt) :
    (ofBody body).entry = (blockBranching body).head?.map fun _ => 0 :=
  entry_lowerBlock 0 body

/-- The name of the branch at a site of a list: its kind, and the number of earlier sites of this kind. -/
def branchName (sites : List Site) (i : Nat) (site : Site) : String :=
  site.kind ++ "#" ++ Nat.repr ((sites.take i).countP (·.kind = site.kind))

theorem getElem?_labelsFrom (earlier : List String) (sites : List Site) (i : Nat) :
    (labelsFrom earlier sites)[i]? = sites[i]?.map fun site => site.kind ++ "#" ++
      Nat.repr (earlier.count site.kind + (sites.take i).countP (·.kind = site.kind)) := by
  induction sites generalizing earlier i with
  | nil => rfl
  | cons first rest ih =>
    cases i with
    | zero => rfl
    | succ i =>
      rw [labelsFrom, List.getElem?_cons_succ, List.getElem?_cons_succ, ih, List.take_succ_cons]
      refine Option.map_congr fun site _ => ?_
      simp only [List.count_cons, List.countP_cons, beq_iff_eq, decide_eq_true_eq, Nat.add_assoc, Nat.add_comm]

/-- **Branches are named after their kinds, each kind numbered on its own.** -/
theorem getElem?_labels (body : List FlowStmt) (i : Nat) :
    (ofBody body).labels[i]? = (blockSites body)[i]?.map (branchName (blockSites body) i) := by
  rw [labels, getElem?_labelsFrom, sites_ofBody]
  simp only [List.count_nil, Nat.zero_add]
  rfl

end Skeleton

end StructuralDiff
