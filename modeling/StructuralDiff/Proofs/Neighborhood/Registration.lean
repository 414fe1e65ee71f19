import Mathlib.Data.List.Induction
import StructuralDiff.Proofs.Neighborhood.Derivation
import StructuralDiff.Proofs.Neighborhood.Strategy

/-!
# Registering strategies between derivations

What is in the cache was derived with the strategies of its time, and a registration does not touch it. So an
answer is not what the strategies of the moment say, but what those said that were in use when the input was
last missing from the cache.

* `Engine.DerivedAt`: the time from which the answer to an input comes.
* `Engine.dated_after`: everything in the cache comes from such a time.
* `Engine.answer_dates`: every answer does, and a registration takes effect at once for all inputs that were
  not derived before it.
* `Engine.answer_register_of_missing`, `Engine.answer_stale`: for an input that was, it does not.
-/

namespace StructuralDiff

theorem DerivationInput.KeysApart.of_subset {inputs inputs' : List DerivationInput} (h : KeysApart inputs)
    (hsub : inputs' ⊆ inputs) : KeysApart inputs' :=
  fun a ha b hb => h a (hsub ha) b (hsub hb)

/-- While there is room, a write drops nothing. -/
theorem Cache.entries_insert_of_room {β : Type} (cache : Cache β) (key : String) (value : β)
    (hroom : cache.queue.length < cache.capacity) :
    (cache.insert key value).entries = cache.entries.insert key value := by
  have hexcess : (if (cache.entries.get? key).isSome then cache.queue
      else cache.queue ++ [key]).length - cache.capacity = 0 := by
    split
    · omega
    · rw [List.length_append, List.length_singleton]
      omega
  simp only [Cache.insert, hexcess, List.take_zero, List.foldl_nil]

namespace Engine

/-! ### Calls of an engine -/

/-- A call of an engine. -/
inductive Call where
  | register (key : String) (strategy : Strategy)
  | derive (input : DerivationInput)

/-- The input that is derived in a call. -/
def Call.input? : Call → Option DerivationInput
  | .register _ _ => none
  | .derive input => some input

/-- The inputs that are derived in calls, in order. -/
def inputs (calls : List Call) : List DerivationInput :=
  calls.filterMap Call.input?

/-- The answer to an input, and the engine after it. When a strategy breaks down there is no answer, and
nothing new in the cache. -/
def answer (engine : Engine) (input : DerivationInput) : Option Derivation × Engine :=
  match engine.derive? input with
  | some (derivation, engine) => (some derivation, engine)
  | none => (none, { engine with cache := (engine.cache.get input.contentKey).2 })

/-- The engine after a call. -/
def call (engine : Engine) : Call → Engine
  | .register key strategy => engine.register key strategy
  | .derive input => (engine.answer input).2

/-- The engine after calls one after another. -/
def after (engine : Engine) (calls : List Call) : Engine :=
  calls.foldl call engine

/-- There is nothing in the cache for the input. -/
def Lacks (engine : Engine) (input : DerivationInput) : Prop :=
  engine.cache.entries.get? input.contentKey = none

variable {engine : Engine} {input : DerivationInput} {derivation : Derivation} {calls : List Call}

theorem after_concat (engine : Engine) (calls : List Call) (next : Call) :
    engine.after (calls ++ [next]) = (engine.after calls).call next := by
  rw [after, List.foldl_append]
  rfl

theorem inputs_subset {more : List Call} : inputs calls ⊆ inputs (calls ++ more) := by
  rw [inputs, inputs, List.filterMap_append]
  exact List.subset_append_left _ _

theorem mem_inputs : input ∈ inputs calls ↔ .derive input ∈ calls := by
  rw [inputs, List.mem_filterMap]
  constructor
  · rintro ⟨_ | other, hcall, hinput⟩
    · cases hinput
    · rwa [← Option.some.inj hinput]
  · exact fun h => ⟨_, h, rfl⟩

/-! ### Single answers -/

theorem answer_of_found (h : engine.cache.entries.get? input.contentKey = some derivation) :
    (engine.answer input).1 = some derivation ∧
      (engine.answer input).2.cache.entries = engine.cache.entries := by
  simp [answer, derive?, Cache.get, h]

/-- What is missing is derived with the strategies in use, and is all that is new in the cache. -/
theorem answer_of_lacks (h : engine.Lacks input) :
    (engine.answer input).1 = engine.strategies.derive? input ∧
      ∀ key found, (engine.answer input).2.cache.entries.get? key = some found →
        (key = input.contentKey ∧ engine.strategies.derive? input = some found) ∨
          engine.cache.entries.get? key = some found := by
  rw [Lacks] at h
  cases hmade : engine.strategies.derive? input with
  | none =>
    simp only [answer, derive?, Cache.get, h, hmade, Option.map_none]
    exact ⟨trivial, fun key found hfound => .inr hfound⟩
  | some derivation =>
    simp only [answer, derive?, Cache.get, h, hmade, Option.map_some]
    refine ⟨trivial, fun key found hfound => ?_⟩
    rcases Cache.get?_of_get?_insert hfound with ⟨rfl, rfl⟩ | hold
    · exact .inl ⟨rfl, rfl⟩
    · exact .inr hold

theorem strategies_answer (engine : Engine) (input : DerivationInput) :
    (engine.answer input).2.strategies = engine.strategies := by
  rw [answer]
  split
  · next h => exact (derive?_cases h).1
  · rfl

/-- **A new engine** answers what its strategies derive. -/
theorem answer_of_size_eq_zero (h : engine.cache.size = 0) :
    (engine.answer input).1 = engine.strategies.derive? input :=
  (answer_of_lacks (Cache.get?_of_size_eq_zero h _)).1

/-- **A registration is not seen by an input that has just been derived**, whatever is registered. -/
theorem answer_register_of_missing (hmissing : engine.Lacks input)
    (hroom : engine.cache.queue.length < engine.cache.capacity)
    (hmade : engine.strategies.derive? input = some derivation) (key : String) (strategy : Strategy) :
    ((engine.after [.derive input, .register key strategy]).answer input).1 = some derivation := by
  refine (answer_of_found ?_).1
  show (engine.answer input).2.cache.entries.get? input.contentKey = some derivation
  rw [Lacks] at hmissing
  simp only [answer, derive?, Cache.get, hmissing, hmade, Option.map_some]
  -- the look-up has only counted one more miss
  have hentries := Cache.entries_insert_of_room { engine.cache with misses := engine.cache.misses + 1 }
    input.contentKey derivation hroom
  rw [hentries, Table.get?_insert, if_pos rfl]

/-! ### When an answer was derived -/

/-- Of the calls that derive an input, the one after the calls `earlier` is the last one that did not find it
in the cache. -/
structure DerivedAt (engine : Engine) (calls earlier : List Call) (input : DerivationInput) : Prop where
  derived : earlier ++ [.derive input] <+: calls
  missing : (engine.after earlier).Lacks input
  found : ∀ later, earlier ++ [.derive input] <+: later → later ++ [.derive input] <+: calls →
    ¬(engine.after later).Lacks input

/-- An input that is missing is derived now. -/
theorem derivedAt_of_lacks (h : (engine.after calls).Lacks input) :
    engine.DerivedAt (calls ++ [.derive input]) calls input where
  derived := List.prefix_refl _
  missing := h
  found later hlater hcalls := by
    have hlength := hlater.length_le
    have hlength' := hcalls.length_le
    simp only [List.length_append, List.length_singleton] at hlength hlength'
    omega

/-- One more call changes nothing, unless it derives the input anew. -/
theorem DerivedAt.concat {earlier : List Call} (h : engine.DerivedAt calls earlier input) {next : Call}
    (hnext : next = .derive input → ¬(engine.after calls).Lacks input) :
    engine.DerivedAt (calls ++ [next]) earlier input where
  derived := h.derived.trans (List.prefix_append _ _)
  missing := h.missing
  found later hlater hcalls := by
    rcases List.prefix_concat_iff.1 hcalls with hsame | hbefore
    · obtain ⟨rfl, hcall⟩ := List.append_inj' hsame rfl
      exact hnext (List.singleton_inj.1 hcall).symm
    · exact h.found later hlater hbefore

/-- Everything in the cache after some calls is what the strategies of its time made of an input. -/
def Dated (engine : Engine) (calls : List Call) : Prop :=
  ∀ key derivation, (engine.after calls).cache.entries.get? key = some derivation →
    ∃ input earlier, input.contentKey = key ∧ engine.DerivedAt calls earlier input ∧
      (engine.after earlier).strategies.derive? input = some derivation

/-- **What one call preserves.** -/
theorem Dated.concat (h : engine.Dated calls) (next : Call)
    (hkeys : DerivationInput.KeysApart (inputs (calls ++ [next]))) : engine.Dated (calls ++ [next]) := by
  -- what was in the cache before the call, and has not been derived anew by it
  have hold {key : String} {derivation : Derivation}
      (hfound : (engine.after calls).cache.entries.get? key = some derivation) :
      ∃ input earlier, input.contentKey = key ∧ engine.DerivedAt (calls ++ [next]) earlier input ∧
        (engine.after earlier).strategies.derive? input = some derivation := by
    obtain ⟨input, earlier, rfl, hat, hmade⟩ := h key derivation hfound
    refine ⟨input, earlier, rfl, hat.concat fun _ hlacks => ?_, hmade⟩
    rw [Lacks, hfound] at hlacks
    cases hlacks
  intro key derivation hfound
  rw [after_concat] at hfound
  cases next with
  | register other strategy => exact hold hfound
  | derive input =>
    cases hcached : (engine.after calls).cache.entries.get? input.contentKey with
    | some found =>
      rw [call, (answer_of_found hcached).2] at hfound
      exact hold hfound
    | none =>
      rcases (answer_of_lacks hcached).2 key derivation hfound with ⟨rfl, hmade⟩ | hbefore
      · exact ⟨input, calls, rfl, derivedAt_of_lacks hcached, hmade⟩
      · exact hold hbefore

/-- **What holds after any calls** of an engine that begins with an empty cache. -/
theorem dated_after (hempty : engine.cache.size = 0) (calls : List Call)
    (hkeys : DerivationInput.KeysApart (inputs calls)) : engine.Dated calls := by
  induction calls using List.reverseRecOn with
  | nil =>
    intro key derivation hfound
    rw [after, List.foldl_nil, Cache.get?_of_size_eq_zero hempty] at hfound
    cases hfound
  | append_singleton calls next ih =>
    exact (ih (hkeys.of_subset inputs_subset)).concat next hkeys

/-- Without a registration the strategies stay. -/
theorem strategies_after_eq {earlier : List Call} (hstart : earlier <+: calls)
    (hnone : ∀ past key strategy, earlier <+: past → ¬past ++ [.register key strategy] <+: calls) :
    (engine.after calls).strategies = (engine.after earlier).strategies := by
  induction calls using List.reverseRecOn with
  | nil => rw [List.prefix_nil.1 hstart]
  | append_singleton calls next ih =>
    rcases List.prefix_concat_iff.1 hstart with rfl | hbefore
    · rfl
    · rw [← ih hbefore fun past key strategy hpast hcalls =>
        hnone past key strategy hpast (hcalls.trans (List.prefix_append _ _)), after_concat]
      cases next with
      | register key strategy => exact absurd (List.prefix_refl _) (hnone calls key strategy hbefore)
      | derive input => exact strategies_answer _ input

/-- **Every answer dates from the last time when the input was missing.** It is what the strategies made of the
input that were in use then; so a registration takes effect at once for all inputs that were not derived
before it. -/
theorem answer_dates (hempty : engine.cache.size = 0) (before : List Call) (input : DerivationInput)
    (hkeys : DerivationInput.KeysApart (inputs (before ++ [.derive input]))) :
    (∃ earlier, engine.DerivedAt (before ++ [.derive input]) earlier input ∧
      ((engine.after before).answer input).1 = (engine.after earlier).strategies.derive? input) ∧
    ((∀ past key strategy, past ++ [.register key strategy] <+: before → .derive input ∉ past) →
      ((engine.after before).answer input).1 = (engine.after before).strategies.derive? input) := by
  have hbefore : DerivationInput.KeysApart (inputs before) := hkeys.of_subset inputs_subset
  have hdated : ∃ earlier, engine.DerivedAt (before ++ [.derive input]) earlier input ∧
      ((engine.after before).answer input).1 = (engine.after earlier).strategies.derive? input := by
    cases hcached : (engine.after before).cache.entries.get? input.contentKey with
    | none => exact ⟨before, derivedAt_of_lacks hcached, (answer_of_lacks hcached).1⟩
    -- what is cached was made of an input with the same key, and no other input of the calls has that key
    | some derivation =>
      obtain ⟨other, earlier, hkey, hat, hmade⟩ := dated_after hempty before hbefore _ _ hcached
      have hother : other ∈ inputs before :=
        mem_inputs.2 (hat.derived.subset (List.mem_append_right _ (List.mem_singleton_self _)))
      have hinput : input ∈ inputs (before ++ [.derive input]) :=
        mem_inputs.2 (List.mem_append_right _ (List.mem_singleton_self _))
      obtain rfl := hkeys other (inputs_subset hother) input hinput hkey
      refine ⟨earlier, hat.concat fun _ hlacks => ?_, ?_⟩
      · rw [Lacks, hcached] at hlacks
        cases hlacks
      · rw [(answer_of_found hcached).1, hmade]
  refine ⟨hdated, fun hregistered => ?_⟩
  obtain ⟨earlier, hat, hanswer⟩ := hdated
  rw [hanswer]
  -- the answer is made now, or before the last registration that could have changed it
  rcases List.prefix_concat_iff.1 hat.derived with hnow | hpast
  · rw [List.append_cancel_right hnow]
  · rw [strategies_after_eq hpast fun past key strategy hpast' hregister => ?_]
    · rw [after_concat]
      exact congrArg (·.derive? input) (strategies_answer _ input).symm
    · refine hregistered past key strategy hregister (hpast'.subset ?_)
      exact List.mem_append_right _ (List.mem_singleton_self _)

/-- A search before a registration, and one after it. -/
def searchesAndRegistration : List Call :=
  [.derive (searchIn [] ""), .register "Hook" .group, .derive (searchIn [lonelyNode] "f")]

theorem answer_dates_searches :
    let input := searchIn [lonelyNode] "f"
    (ofCapacity 1).cache.size = 0 ∧
      DerivationInput.KeysApart (inputs (searchesAndRegistration ++ [.derive input])) ∧
      (∀ past key strategy, past ++ [.register key strategy] <+: searchesAndRegistration →
        .derive input ∉ past) ∧
      ((ofCapacity 1).after searchesAndRegistration |>.answer input).1 =
        ((ofCapacity 1).after searchesAndRegistration).strategies.derive? input := by
  intro input
  have hkeys : DerivationInput.KeysApart (inputs (searchesAndRegistration ++ [.derive input])) :=
    .of_two contentKey_searchIn_ne (by decide)
  have hregistered : ∀ past key strategy, past ++ [.register key strategy] <+: searchesAndRegistration →
      .derive input ∉ past := by
    intro past key strategy hpast hmem
    -- the input is derived last, after every registration
    have hfront : past ++ [.register key strategy] <+: searchesAndRegistration.dropLast := by
      rcases List.prefix_concat_iff.1 (show past ++ [.register key strategy] <+:
          searchesAndRegistration.dropLast ++ [.derive input] from hpast) with hall | hfront
      · cases List.singleton_inj.1 (List.append_inj' hall rfl).2
      · exact hfront
    have hinput := mem_inputs.2 (hfront.subset (List.mem_append_left _ hmem))
    exact absurd hinput (by decide)
  exact ⟨rfl, hkeys, hregistered, (answer_dates rfl _ input hkeys).2 hregistered⟩

end Engine

/-! ### An answer out of date -/

/-- **Where there are no edges, the neighborhood is the direct one.** -/
theorem Strategy.exists_neighborhood?_of_edges_eq_nil (strategy : Strategy) (layout : Layout) (focus : ViewNode)
    {direct : Neighborhood} (hedges : layout.edges = []) (hdirect : strategy.direct? layout focus = some direct) :
    ∃ neighborhood, strategy.neighborhood? layout focus = some neighborhood ∧
      ∀ id, id ∈ neighborhood.nodeIds ↔ id ∈ direct.nodeIds := by
  refine ⟨_, neighborhood?_eq hdirect, (mem_neighborhoodWithin_iff_of_still strategy focus (Nat.le_succ _) ?_).1⟩
  intro edge hpasses
  have hmem := hpasses.mem
  rw [hedges] at hmem
  cases hmem

theorem map_eq_of_mapM_eq_some {α β : Type} {f : α → Option β} {l : List α} {l' : List β}
    (h : l.mapM f = some l') : l.map f = l'.map some := by
  induction l generalizing l' with
  | nil =>
    obtain rfl : [] = l' := Option.some.inj h
    rfl
  | cons a rest ih =>
    rw [List.mapM_cons, Option.bind_eq_bind, Option.bind_eq_some_iff] at h
    obtain ⟨b, hb, h⟩ := h
    obtain ⟨rest', hrest, h⟩ := Option.bind_eq_some_iff.1 h
    obtain rfl := Option.some.inj h
    rw [List.map_cons, List.map_cons, ih hrest, hb]

/-- **A derivation holds the neighborhood of every node** of an input without repeated ids. -/
theorem StrategyTable.get?_neighborhoods {table : StrategyTable} {input : DerivationInput}
    {derivation : Derivation} (h : table.derive? input = some derivation)
    (hnodup : (input.nodes.map (·.id)).Nodup) {node : ViewNode} (hnode : node ∈ input.nodes) :
    derivation.neighborhoods.get? node.id =
      table.neighborhood? (Layout.ofLists input.nodes input.edges) node := by
  obtain ⟨entries, hentries, hmade⟩ := Option.bind_eq_some_iff.1 h
  obtain rfl := Option.some.inj hmade
  have hmap := map_eq_of_mapM_eq_some hentries
  -- an entry under an id is the neighborhood of the node with this id
  have hentry {id : String} {neighborhood : Neighborhood} (hmem : (id, neighborhood) ∈ entries) :
      ∃ other ∈ input.nodes, other.id = id ∧
        table.neighborhood? (Layout.ofLists input.nodes input.edges) other = some neighborhood := by
    have hsome : some (id, neighborhood) ∈ entries.map some := List.mem_map_of_mem hmem
    rw [← hmap] at hsome
    obtain ⟨other, hother, hmade⟩ := List.mem_map.1 hsome
    obtain ⟨_, hfound, heq⟩ := Option.map_eq_some_iff.1 hmade
    obtain ⟨rfl, rfl⟩ := Prod.mk.inj heq
    exact ⟨other, hother, rfl, hfound⟩
  have hsingle : Table.SingleValued entries := by
    intro key value value' hvalue hvalue'
    obtain ⟨first, hfirst, hid, hfound⟩ := hentry hvalue
    obtain ⟨other, hother, hid', hfound'⟩ := hentry hvalue'
    obtain rfl := List.inj_on_of_nodup_map hnodup hfirst hother (hid.trans hid'.symm)
    exact Option.some.inj (hfound.symm.trans hfound')
  have hsome : (table.neighborhood? (Layout.ofLists input.nodes input.edges) node).map (node.id, ·) ∈
      entries.map some := hmap ▸ List.mem_map_of_mem hnode
  obtain ⟨entry, hmem, heq⟩ := List.mem_map.1 hsome
  obtain ⟨neighborhood, hfound, rfl⟩ := Option.map_eq_some_iff.1 heq.symm
  rw [hfound]
  exact (Table.get?_ofList_eq_some_iff hsingle).2 hmem

namespace Engine

/-- A group. -/
def box : ViewNode :=
  { id := "f", label := "f", kind := groupKind, filePath := "m.py", startLine := some 1, endLine := some 1
    status := .unchanged, parentId := none, isGroup := true, branchType := none, symbolId := "f" }

/-- A branch in the group. -/
def boxed : ViewNode :=
  { id := "f1", label := "f1", kind := "Branch", filePath := "m.py", startLine := some 1, endLine := some 1
    status := .unchanged, parentId := some "f", isGroup := false, branchType := none, symbolId := "f1" }

/-- The group with the branch. -/
def boxView : DerivationInput :=
  { graphId := "g", nodes := [box, boxed], edges := [], query := "", exclude := false }

/-- **A registration may not be seen.** After the group was expanded as a group, groups are to expand as leaves;
a new engine does so, and the old one does not. -/
theorem answer_stale :
    let stale := (ofCapacity 4).after [.derive boxView, .register groupKind .leaf]
    (stale.answer boxView).1 ≠
      (({ strategies := stale.strategies, cache := Cache.ofCapacity 4 } : Engine).answer boxView).1 := by
  intro stale hsame
  obtain ⟨derivation, hmade⟩ := neverBreaksDown_standard.derive? boxView
  have hlacks : (ofCapacity 4).Lacks boxView := Cache.get?_of_size_eq_zero rfl _
  have hstale : (stale.answer boxView).1 = some derivation :=
    answer_register_of_missing hlacks (by decide) hmade groupKind .leaf
  have hstrategies : stale.strategies = StrategyTable.standard.register groupKind .leaf :=
    congrArg (·.register groupKind .leaf) (strategies_answer (ofCapacity 4) boxView)
  rw [hstale, answer_of_size_eq_zero rfl, hstrategies] at hsame
  -- so the group has one neighborhood, with the branch and without it
  have hnodup : (boxView.nodes.map (·.id)).Nodup := by decide
  have hasGroup := StrategyTable.get?_neighborhoods hmade hnodup List.mem_cons_self
  have hasLeaf := StrategyTable.get?_neighborhoods hsame.symm hnodup List.mem_cons_self
  obtain ⟨group, hgroup, hwith⟩ := Strategy.exists_neighborhood?_of_edges_eq_nil .group
    (Layout.ofLists [box, boxed] []) box rfl rfl
  obtain ⟨leaf, hleaf, hwithout⟩ := Strategy.exists_neighborhood?_of_edges_eq_nil .leaf
    (Layout.ofLists [box, boxed] []) box rfl rfl
  obtain rfl : group = leaf :=
    Option.some.inj (hgroup.symm.trans (hasGroup.symm.trans (hasLeaf.trans hleaf)))
  have hbranch := (hwith boxed.id).2 (Neighborhood.mem_nodeIds_ofIds.2 (by decide))
  exact absurd (Neighborhood.mem_nodeIds_ofIds.1 ((hwithout boxed.id).1 hbranch)) (by decide)

end Engine

end StructuralDiff
