import StructuralDiff.View.Basic
import StructuralDiff.Traversal

/-!
# The changed part of a view

A view reduced to what has changed, with the branches that changed ones lead to and with all the groups
around them.
-/

namespace StructuralDiff.View

/-- The parent of a node; of several nodes with the id the last one that has a parent counts. -/
def parentOf? (view : View) (id : String) : Option String :=
  (view.nodes.reverse.find? fun node => node.id == id && node.parentId.isSome).bind (·.parentId)

/-- The changed nodes, and the targets of the flow edges that leave them. -/
def changeSeeds (view : View) : List String :=
  let changed := (view.nodes.filter (·.status.isChanged)).map (·.id)
  let context := view.edges.filter fun edge =>
    edge.relation == .flow && changed.contains edge.source
  changed ++ context.map (·.target)

/-- The ids that are kept: the seeds and everything that encloses one of them. -/
def changeIds (view : View) : List String :=
  let seeds := view.changeSeeds.eraseDups
  seeds ++ Traversal.explore (fun id => (view.parentOf? id).toList)
    (seeds.length + view.nodes.length + 1) seeds seeds

/-- The changed part of a view. -/
def changesOnly (view : View) : View :=
  let kept := view.changeIds
  { graphId := view.graphId ++ ":changes"
    perspective := view.perspective
    nodes := view.nodes.filter fun node => kept.contains node.id
    edges := view.edges.filter fun edge => kept.contains edge.source && kept.contains edge.target }

end StructuralDiff.View
