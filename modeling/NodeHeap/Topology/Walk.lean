import NodeHeap.Topology.NodeTree

/-!
# Walks to node trees

A path leads to the root of a node tree, to a place in or around the tree, or nowhere. What lies there is
seen as a node tree again, with what is left of the reach of paths: links that were followed on the way
count, and so does the length of the path.

* `NodeTree.at`: the node tree that a path leads to.
-/

namespace NodeHeap

/-- A place that a path leads to, seen as a node tree: only at home there are entries. -/
def Place.view (tree : NodeTree) (reach : Reach) : Place → NodeTree
  | directory names => .directory (if names = reach.around.home then tree.entries else []) reach
  | file _ => .plainFile
  | nowhere => .missing

/-- The node tree that a path leads to where a given tree lies in its surroundings. -/
def NodeTree.at (tree : NodeTree) (around : Surroundings) (path : String) : NodeTree :=
  match Text.Path.room? path with
  | none => .missing
  | some room =>
    let (place, hops) :=
      (tree.site around).follow linkLimit (Place.start around.work path) (Text.Path.steps path)
    place.view tree { hops, room, around }

end NodeHeap
