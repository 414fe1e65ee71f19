import StructuralDiff.Neighborhood.Derivation
import StructuralDiff.Proofs.Table

/-!
# Derivations through the cache

An engine whose cache holds nothing but derivations that its own strategies make of known inputs goes on like
this, and what it answers is what its strategies say, as long as no two known inputs share a key.

* `Cache.get?_of_get?_insert`: a write adds one value, and what it drops changes no other.
* `Engine.Faithful.of_derive?`: one derivation through the cache.
* `Engine.deriveAll?_fresh`: a whole run of derivations gives what each of them would give on its own.
-/

namespace StructuralDiff

namespace Cache

variable {β : Type} {cache : Cache β}

theorem get?_of_get?_eraseAll {table : Table β} {keys : List String} {key : String} {value : β}
    (h : (keys.foldl Table.erase table).get? key = some value) : table.get? key = some value := by
  induction keys generalizing table with
  | nil => exact h
  | cons first rest ih =>
    have herase := ih h
    rw [Table.get?_erase] at herase
    split at herase
    · cases herase
    · exact herase

/-- What is found after a write is the value written, or was there before. -/
theorem get?_of_get?_insert {key other : String} {value found : β}
    (h : (cache.insert key value).entries.get? other = some found) :
    (other = key ∧ found = value) ∨ cache.entries.get? other = some found := by
  have hwritten := get?_of_get?_eraseAll h
  rw [Table.get?_insert] at hwritten
  split at hwritten
  · next heq => exact .inl ⟨heq, (Option.some.inj hwritten).symm⟩
  · exact .inr hwritten

/-- Nothing is found in an empty cache. -/
theorem get?_of_size_eq_zero (h : cache.size = 0) (key : String) : cache.entries.get? key = none := by
  rw [← Option.not_isSome_iff_eq_none, ← Table.mem_keys, List.length_eq_zero_iff.1 h]
  exact List.not_mem_nil

end Cache

/-- No two of the inputs share a key. -/
def DerivationInput.KeysApart (inputs : List DerivationInput) : Prop :=
  ∀ a ∈ inputs, ∀ b ∈ inputs, a.contentKey = b.contentKey → a = b

theorem DerivationInput.KeysApart.of_two {a b : DerivationInput} (hne : a.contentKey ≠ b.contentKey)
    {inputs : List DerivationInput} (h : ∀ input ∈ inputs, input = a ∨ input = b) : KeysApart inputs := by
  intro x hx y hy hxy
  rcases h x hx with rfl | rfl <;> rcases h y hy with rfl | rfl
  · rfl
  · exact absurd hxy hne
  · exact absurd hxy.symm hne
  · rfl

namespace Engine

/-- What is in the cache was derived from one of the inputs, with the strategies that are in use. -/
def Faithful (inputs : List DerivationInput) (engine : Engine) : Prop :=
  ∀ key derivation, engine.cache.entries.get? key = some derivation →
    ∃ input ∈ inputs, input.contentKey = key ∧ engine.strategies.derive? input = some derivation

variable {engine engine' : Engine} {inputs : List DerivationInput} {input : DerivationInput}
  {derivation : Derivation}

theorem faithful_of_size_eq_zero (h : engine.cache.size = 0) (inputs : List DerivationInput) :
    engine.Faithful inputs := by
  intro key derivation hfound
  rw [Cache.get?_of_size_eq_zero h] at hfound
  cases hfound

theorem Faithful.mono (h : engine.Faithful inputs) {inputs' : List DerivationInput}
    (hsub : inputs ⊆ inputs') : engine.Faithful inputs' := by
  intro key derivation hfound
  obtain ⟨input, hinput, hrest⟩ := h key derivation hfound
  exact ⟨input, hsub hinput, hrest⟩

/-- A derivation ends with one that was cached, or with a new one that is cached then. -/
theorem derive?_cases (h : engine.derive? input = some (derivation, engine')) :
    engine'.strategies = engine.strategies ∧
      ((engine.cache.entries.get? input.contentKey = some derivation ∧
          engine'.cache.entries = engine.cache.entries) ∨
        (engine.strategies.derive? input = some derivation ∧
          ∃ cache : Cache Derivation, cache.entries = engine.cache.entries ∧
            engine'.cache = cache.insert input.contentKey derivation)) := by
  rw [derive?, Cache.get] at h
  cases hfound : engine.cache.entries.get? input.contentKey with
  | some found =>
    simp only [hfound, Option.some.injEq, Prod.mk.injEq] at h
    obtain ⟨rfl, rfl⟩ := h
    exact ⟨rfl, .inl ⟨rfl, rfl⟩⟩
  | none =>
    simp only [hfound, Option.map_eq_some_iff, Prod.mk.injEq] at h
    obtain ⟨made, hmade, rfl, rfl⟩ := h
    refine ⟨rfl, .inr ⟨hmade, { engine.cache with misses := engine.cache.misses + 1 }, rfl, rfl⟩⟩

/-- **One derivation through the cache**: the answer is what the strategies derive, and the cache stays
faithful. -/
theorem Faithful.of_derive? (h : engine.Faithful inputs) (hinput : input ∈ inputs)
    (hkeys : DerivationInput.KeysApart inputs)
    (hderive : engine.derive? input = some (derivation, engine')) :
    engine.strategies.derive? input = some derivation ∧ engine'.strategies = engine.strategies ∧
      engine'.Faithful inputs := by
  obtain ⟨hstrategies, ⟨hcached, hentries⟩ | ⟨hmade, cache, hentries, hcache⟩⟩ := derive?_cases hderive
  · obtain ⟨other, hother, hkey, hmade⟩ := h _ _ hcached
    obtain rfl := hkeys other hother input hinput hkey
    refine ⟨hmade, hstrategies, fun key found hfound => ?_⟩
    rw [hentries] at hfound
    rw [hstrategies]
    exact h key found hfound
  · refine ⟨hmade, hstrategies, fun key found hfound => ?_⟩
    rw [hcache] at hfound
    rw [hstrategies]
    rcases Cache.get?_of_get?_insert hfound with ⟨rfl, rfl⟩ | hold
    · exact ⟨input, hinput, rfl, hmade⟩
    · rw [hentries] at hold
      exact h key found hold

end Engine

/-! ### Strategies that never break down -/

/-- No strategy of the table breaks down, whatever the layout and the focus. -/
def StrategyTable.NeverBreaksDown (table : StrategyTable) : Prop :=
  ∀ key layout focus, ((table.resolve key).direct? layout focus).isSome

/-- Every element has an image, so the list has one. -/
theorem exists_mapM_eq_some {α β : Type} {f : α → Option β} {l : List α} (h : ∀ a ∈ l, (f a).isSome) :
    ∃ l', l.mapM f = some l' := by
  induction l with
  | nil => exact ⟨[], rfl⟩
  | cons a rest ih =>
    rw [List.forall_mem_cons] at h
    obtain ⟨b, hb⟩ := Option.isSome_iff_exists.1 h.1
    obtain ⟨rest', hrest⟩ := ih h.2
    exact ⟨b :: rest', by rw [List.mapM_cons, hb, hrest]; rfl⟩

theorem StrategyTable.NeverBreaksDown.derive? {table : StrategyTable} (h : table.NeverBreaksDown)
    (input : DerivationInput) : ∃ derivation, table.derive? input = some derivation := by
  have hnode : ∀ node ∈ (Layout.ofLists input.nodes input.edges).nodes,
      ((table.neighborhood? (Layout.ofLists input.nodes input.edges) node).map (node.id, ·)).isSome := by
    intro node _
    rw [Option.isSome_map, neighborhood?, Strategy.neighborhood?, Option.isSome_map]
    exact h _ _ _
  obtain ⟨neighborhoods, hneighborhoods⟩ := exists_mapM_eq_some hnode
  rw [StrategyTable.derive?]
  exact ⟨_, by rw [hneighborhoods]; rfl⟩

/-! ### Runs -/

namespace Engine

/-- Derives the inputs one after the other; a strategy that breaks down ends the run. -/
def deriveAll? (engine : Engine) : List DerivationInput → Option (List Derivation × Engine)
  | [] => some ([], engine)
  | input :: rest =>
    match engine.derive? input with
    | none => none
    | some (derivation, engine) =>
      (engine.deriveAll? rest).map fun (later, engine) => (derivation :: later, engine)

variable {engine : Engine} {inputs : List DerivationInput}

/-- A derivation is answered when the strategies have an answer: the cache is never in the way. -/
theorem exists_derive? {input : DerivationInput} {derivation : Derivation}
    (h : engine.strategies.derive? input = some derivation) :
    ∃ found engine', engine.derive? input = some (found, engine') := by
  rw [derive?, Cache.get]
  cases engine.cache.entries.get? input.contentKey with
  | some found => exact ⟨found, _, rfl⟩
  | none => exact ⟨derivation, _, by rw [h]; rfl⟩

/-- What a run preserves: while the cache is faithful, every answer is what the strategies derive, whatever
was kept or dropped before. -/
theorem Faithful.deriveAll? (h : engine.Faithful inputs) (hkeys : DerivationInput.KeysApart inputs)
    (hstrategies : engine.strategies.NeverBreaksDown) {run : List DerivationInput} (hrun : run ⊆ inputs) :
    ∃ derivations engine', engine.deriveAll? run = some (derivations, engine') ∧
      derivations.map some = run.map engine.strategies.derive? ∧ engine'.Faithful inputs := by
  induction run generalizing engine with
  | nil => exact ⟨[], engine, rfl, rfl, h⟩
  | cons input rest ih =>
    obtain ⟨hinput, hrest⟩ := List.cons_subset.1 hrun
    obtain ⟨derivation, hmade⟩ := hstrategies.derive? input
    obtain ⟨found, next, hderive⟩ := exists_derive? hmade
    obtain ⟨hfound, hsame, hnext⟩ := h.of_derive? hinput hkeys hderive
    obtain ⟨later, last, hlater, hanswers, hlast⟩ := ih hnext (hsame ▸ hstrategies) hrest
    refine ⟨found :: later, last, ?_, ?_, hlast⟩
    · simp only [Engine.deriveAll?, hderive, hlater, Option.map_some]
    · rw [List.map_cons, List.map_cons, hanswers, hfound, hsame]

/-- **Memoization is invisible**: with strategies that never break down, an engine that starts with an empty
cache of any capacity answers every input of a run with the derivation of this input, whatever was derived,
found or dropped before, when no two inputs of the run share a key. -/
theorem deriveAll?_fresh (table : StrategyTable) (htable : table.NeverBreaksDown) (capacity : Nat)
    (inputs : List DerivationInput) (hkeys : DerivationInput.KeysApart inputs) :
    ∃ derivations engine',
      ({ strategies := table, cache := Cache.ofCapacity capacity } : Engine).deriveAll? inputs =
        some (derivations, engine') ∧
      derivations.map some = inputs.map table.derive? := by
  have hempty : ({ strategies := table, cache := Cache.ofCapacity capacity } : Engine).Faithful inputs :=
    faithful_of_size_eq_zero rfl inputs
  obtain ⟨derivations, engine', hrun, hanswers, -⟩ := hempty.deriveAll? hkeys htable (List.Subset.refl _)
  exact ⟨derivations, engine', hrun, hanswers⟩

/-- A search in a graph. -/
def searchIn (nodes : List ViewNode) (query : String) : DerivationInput :=
  { graphId := "", nodes, edges := [], query, exclude := false }

/-- A node on its own. -/
def lonelyNode : ViewNode :=
  { id := "f", label := "f", kind := "Hook", filePath := "", startLine := none, endLine := none
    status := .added, parentId := none, isGroup := false, branchType := none, symbolId := "f" }

theorem contentKey_searchIn_ne : (searchIn [lonelyNode] "f").contentKey ≠ (searchIn [] "").contentKey := by
  decide +kernel

theorem neverBreaksDown_standard : StrategyTable.standard.NeverBreaksDown := by
  intro key layout focus
  rw [StrategyTable.resolve, StrategyTable.standard, StrategyTable.register, Table.get?_insert]
  split <;> rfl

/-- In a cache for one derivation, each of two inputs in turn drops the other. -/
theorem deriveAll?_fresh_alternating :
    let run := [searchIn [lonelyNode] "f", searchIn [] "", searchIn [lonelyNode] "f"]
    StrategyTable.standard.NeverBreaksDown ∧ DerivationInput.KeysApart run ∧
      ∃ derivations engine',
        ({ strategies := .standard, cache := Cache.ofCapacity 1 } : Engine).deriveAll? run =
          some (derivations, engine') ∧
        derivations.map some = run.map StrategyTable.standard.derive? := by
  intro run
  have hkeys : DerivationInput.KeysApart run := .of_two contentKey_searchIn_ne (by decide)
  exact ⟨neverBreaksDown_standard, hkeys, deriveAll?_fresh .standard neverBreaksDown_standard 1 run hkeys⟩

end Engine

end StructuralDiff
