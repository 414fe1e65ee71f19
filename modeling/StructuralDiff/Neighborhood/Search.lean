import StructuralDiff.Neighborhood.Layout
import StructuralDiff.Text.Case
import StructuralDiff.Text.Line
import StructuralDiff.Text.Order

/-!
# Search

A query matches a node when it occurs in the node's label, path or kind, whatever the case of the letters.
A search includes the nodes that match, or excludes them together with everything inside matching groups.
A blank query finds nothing either way.
-/

namespace StructuralDiff

/-- The query in the form that is looked for. -/
def needle (query : String) : String :=
  Text.lowercase (Text.trim query)

/-- The needle occurs in the label, the path or the kind of a node. -/
def ViewNode.isHit (node : ViewNode) (needle : String) : Bool :=
  [node.label, node.filePath, node.kind].any fun field => Text.has needle (Text.lowercase field)

/-- The ids that a search leaves in. -/
def Layout.searchMatches (layout : Layout) (query : String) (exclude : Bool) : List String :=
  let needle := needle query
  if needle == "" then []
  else
    let hits := layout.nodes.filter (·.isHit needle)
    if exclude then
      let inside := (hits.filter (·.isGroup)).flatMap fun group => layout.descendants group.id
      let removed := hits.map (·.id) ++ inside
      Text.sortedSet ((layout.nodes.map (·.id)).filter (!removed.contains ·))
    else Text.sortedSet (hits.map (·.id))

end StructuralDiff
