import StructuralDiff.Cache
import StructuralDiff.Digest
import StructuralDiff.Neighborhood.MatchKey
import StructuralDiff.Neighborhood.Search
import StructuralDiff.Neighborhood.Strategy
import StructuralDiff.View.Codec

/-!
# Derivations

Everything that interaction with a positioned view needs at once: match keys, the neighborhoods of all
nodes and the outcome of a search. Derivations are kept in a cache under a digest of their input.

* `DerivationInput.content`, `DerivationInput.contentKey`: the encoded input and its digest.
* `StrategyTable.derive?`: the derivation itself.
* `Engine.derive?`: the same through the cache.
-/

namespace StructuralDiff

/-- Everything that a derivation depends on. -/
structure DerivationInput where
  graphId : String
  nodes : List ViewNode
  edges : List ViewEdge
  query : String
  exclude : Bool
  deriving DecidableEq, Repr, Inhabited

namespace DerivationInput

/-- All nodes and edges of a view, as positioned. -/
def ofView (view : View) (query : String) (exclude : Bool) : DerivationInput :=
  { graphId := view.graphId, nodes := view.nodes, edges := view.edges, query, exclude }

/-- The exchanged form of an input. -/
def toJson (input : DerivationInput) : Json :=
  .obj [
    ("graphId", .str input.graphId),
    ("nodes", .ofList ViewNode.toJson input.nodes),
    ("edges", .ofList ViewEdge.toJson input.edges),
    ("query", .str input.query),
    ("exclude", .bool input.exclude)]

/-- The names of the fields of an input. -/
def fieldNames : List String := ["graphId", "nodes", "edges", "query", "exclude"]

/-- The input with an exchanged form. -/
def ofJson? (v : Json) : Option DerivationInput := do
  let fields ← v.record? fieldNames
  return {
    graphId := ← fields.get? "graphId" Json.text?
    nodes := ← fields.get? "nodes" (Json.list? ViewNode.ofJson?)
    edges := ← fields.get? "edges" (Json.list? ViewEdge.ofJson?)
    query := ← fields.get? "query" Json.text?
    exclude := ← fields.get? "exclude" Json.bool? }

/-- The encoded input. -/
def content (input : DerivationInput) : String :=
  input.toJson.compact

/-- The digest of the encoded input. -/
def contentKey (input : DerivationInput) : String :=
  (Digest.ofText input.content).hex

end DerivationInput

/-- The outcome of a derivation. -/
structure Derivation where
  matchKeys : Table String
  neighborhoods : Table Neighborhood
  searchMatchIds : List String
  deriving Inhabited

namespace Derivation

/-- The entries of a table as an object, in the order of the keys. -/
def tableToJson {β : Type} (encode : β → Json) (table : Table β) : Json :=
  .obj ((table.toList.mergeSort fun a b => Text.le a.1 b.1).map fun (key, value) =>
    (key, encode value))

/-- The exchanged form of a derivation. -/
def toJson (derivation : Derivation) : Json :=
  .obj [
    ("matchKeys", tableToJson .str derivation.matchKeys),
    ("neighborhoods", tableToJson (fun n => .obj [
      ("keepNodeIds", .ofList .str n.nodeIds),
      ("keepEdgeIds", .ofList .str n.edgeIds)]) derivation.neighborhoods),
    ("searchMatchIds", .ofList .str derivation.searchMatchIds)]

end Derivation

/-- The derivation of an input, unless a strategy breaks down. -/
def StrategyTable.derive? (table : StrategyTable) (input : DerivationInput) : Option Derivation := do
  let layout := Layout.ofLists input.nodes input.edges
  let neighborhoods ← layout.nodes.mapM fun node =>
    (table.neighborhood? layout node).map (node.id, ·)
  return {
    matchKeys := layout.matchKeys
    neighborhoods := Table.ofList neighborhoods
    searchMatchIds := layout.searchMatches input.query input.exclude }

/-- Derivations with a cache. -/
structure Engine where
  strategies : StrategyTable
  cache : Cache Derivation

namespace Engine

/-- An engine with the standard strategies and an empty cache. -/
def ofCapacity (capacity : Nat) : Engine :=
  { strategies := StrategyTable.standard, cache := Cache.ofCapacity capacity }

/-- Chooses a strategy for a kind; what is in the cache stays there. -/
def register (engine : Engine) (key : String) (strategy : Strategy) : Engine :=
  { engine with strategies := engine.strategies.register key strategy }

/-- The derivation of an input, from the cache if it is there. -/
def derive? (engine : Engine) (input : DerivationInput) : Option (Derivation × Engine) :=
  let key := input.contentKey
  match engine.cache.get key with
  | (some derivation, cache) => some (derivation, { engine with cache })
  | (none, cache) =>
    (engine.strategies.derive? input).map fun derivation =>
      (derivation, { engine with cache := cache.insert key derivation })

end Engine

end StructuralDiff
