/-!
# Directories of nodes

The directory at the root of a node tree has entries, of which some are the directories of nodes and
others lead to them. The directory of a node has two files of interest: the list of its processors, and
the row of its distances to all nodes.
-/

namespace NodeHeap

/-- What stands under the name of a file in the directory of a node. -/
inductive TextFile where
  | missing
  | text (content : String)
  /-- A file whose bytes are no text. -/
  | unreadable
  /-- A directory, with nothing in it. -/
  | directory
  deriving DecidableEq, Repr

/-- What the directory of a node holds. -/
structure NodeFiles where
  cpulist : TextFile := .missing
  distance : TextFile := .missing
  deriving DecidableEq, Repr

/-- The name of the list of processors. -/
def cpulistName : String := "cpulist"

/-- The name of the row of distances. -/
def distanceName : String := "distance"

/-- What stands under a name in the directory of a node. -/
def NodeFiles.find (files : NodeFiles) (name : String) : TextFile :=
  if name = cpulistName then files.cpulist
  else if name = distanceName then files.distance
  else .missing

/-- What a name at the root stands for. -/
inductive EntryKind where
  | directory (files : NodeFiles)
  /-- A file with nothing in it. -/
  | plainFile
  /-- A link, with the path that it stands for. -/
  | link (target : String)
  deriving DecidableEq, Repr

/-- A name at the root and what it stands for. A name whose bytes are not text is `none`. -/
structure Entry where
  name : Option String
  kind : EntryKind
  deriving DecidableEq, Repr

end NodeHeap
