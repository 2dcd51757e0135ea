import NodeHeap.Text.Path
import NodeHeap.Topology.Directory

/-!
# Sites

A node tree lies somewhere among the directories of a system, and paths lead into it, out of it, and back
into it. A `Site` is what is known of such a system: the tree, and what lies elsewhere. What is not known
is not there. A directory is given by the names that lead to it from the top, without links. Links are followed
as they are met, and no more than so many of them on one way, so every way ends.

* `Site.look`: what stands under a name.
* `Site.step`: where one part of a path leads.
* `Site.follow`: where a path leads, and how many more links could be followed on it.
* `Site.look_home_append`: at its home the site shows the tree.
* `Site.follow_append`: a path can be walked in two parts.
-/

namespace NodeHeap

/-- The part of a path that stays where it is. -/
def herePart : String := "."

/-- The part of a path that leads to the directory above. The top is above itself. -/
def parentPart : String := ".."

/-- What stands under a name. -/
inductive Found where
  | directory
  /-- A file, with its text if its bytes are a text. -/
  | file (text : Option String)
  /-- A link, with the path that it stands for. -/
  | link (target : String)
  | nothing
  deriving DecidableEq, Repr

/-- Where a path leads. -/
inductive Place where
  | directory (names : List String)
  | file (text : Option String)
  | nowhere
  deriving DecidableEq, Repr

/-- What one part of a path leads to. -/
inductive Turn where
  | place (place : Place)
  | link (target : String)
  deriving DecidableEq, Repr

namespace Place

/-- Whether the place is a directory. -/
def isDirectory : Place → Bool
  | directory _ => true
  | file _ | nowhere => false

/-- The text that can be read at the place. -/
def text? : Place → Option String
  | file text => text
  | _ => none

/-- Where a path starts that is met in a directory. -/
def start (names : List String) (path : String) : Place :=
  .directory (if (Text.Path.ofString path).rooted then [] else names)

end Place

/-! ## Sites -/

/-- Where things lie in a system: all at the top, unless it is said otherwise. -/
structure Surroundings where
  /-- The directory that a node tree lies at. -/
  home : List String := []
  /-- The directory that paths start in, unless they start at the top. -/
  work : List String := []
  /-- What stands outside of the tree, under the names that lead there from the top. -/
  outside : List (List String × Found) := []
  deriving DecidableEq, Repr

/-- A node tree in its surroundings. -/
structure Site extends Surroundings where
  /-- What lies at home. -/
  top : Found
  /-- The entries of the directory there. -/
  entries : List Entry
  deriving DecidableEq, Repr

namespace Site

/-- What stands under a name in the directory of a node. -/
def lookAtFile : TextFile → Found
  | .missing => .nothing
  | .text content => .file (some content)
  | .unreadable => .file none
  | .directory => .directory

/-- What an entry stands for. -/
def lookAtEntry (site : Site) (name : String) : Option EntryKind :=
  (site.entries.find? fun entry => entry.name = some name).map Entry.kind

/-- What stands in the tree under names that lead there from its root. -/
def lookInside (site : Site) : List String → Found
  | [] => site.top
  | [name] =>
    match site.lookAtEntry name with
    | none => .nothing
    | some (.directory _) => .directory
    | some .plainFile => .file (some "")
    | some (.link target) => .link target
  | [name, part] =>
    match site.lookAtEntry name with
    | some (.directory files) => lookAtFile (files.find part)
    | _ => .nothing
  | _ => .nothing

/-- What stands outside of the tree under names that lead there from the top. -/
def lookOutside (site : Site) (names : List String) : Found :=
  if names.isPrefixOf site.home || names.isPrefixOf site.work then .directory
  else (site.outside.lookup names).getD .nothing

/-- What stands under names that lead there from the top. -/
def look (site : Site) (names : List String) : Found :=
  if site.home.isPrefixOf names then site.lookInside (names.drop site.home.length)
  else site.lookOutside names

theorem look_home_append (site : Site) (names : List String) :
    site.look (site.home ++ names) = site.lookInside names := by
  simp [look]

/-- Where one part of a path leads. -/
def step (site : Site) (place : Place) (part : String) : Turn :=
  match place with
  | .directory names =>
    if part = herePart then .place (.directory names)
    else if part = parentPart then .place (.directory names.dropLast)
    else match site.look (names ++ [part]) with
      | .directory => .place (.directory (names ++ [part]))
      | .file text => .place (.file text)
      | .link target => .link target
      | .nothing => .place .nowhere
  | .file _ | .nowhere => .place .nowhere

/-- Where a path leads from a place, where so many links can be followed, and how many more could be
followed then. -/
def follow (site : Site) (hops : Nat) (place : Place) (parts : List String) : Place × Nat :=
  match parts with
  | [] => (place, hops)
  | part :: rest =>
    match site.step place part with
    | .place next => site.follow hops next rest
    | .link target =>
      match place, hops with
      | .directory names, hops + 1 =>
        site.follow hops (Place.start names target) (Text.Path.steps target ++ rest)
      | _, _ => (.nowhere, 0)
  termination_by (hops, parts.length)

theorem follow_nowhere (site : Site) (hops : Nat) (parts : List String) :
    site.follow hops .nowhere parts = (.nowhere, hops) := by
  induction parts with
  | nil => simp [follow]
  | cons part rest ih =>
    rw [follow]
    exact ih

/-- A path can be walked in two parts. The links that the first one follows are no longer there for the
second one. -/
theorem follow_append (site : Site) (hops : Nat) (place : Place) (parts more : List String) :
    site.follow hops place (parts ++ more) =
      site.follow (site.follow hops place parts).2 (site.follow hops place parts).1 more := by
  fun_induction Site.follow site hops place parts with
  | case1 => rfl
  | case2 hops place part rest next step ih =>
    rw [List.cons_append, follow, step]
    exact ih
  | case3 part rest target hops names step ih =>
    rw [List.cons_append, follow, step, ← ih, List.append_assoc]
  | case4 hops place part rest target step absent =>
    rw [List.cons_append, follow, step, follow_nowhere]
    cases place with
    | directory names =>
      cases hops with
      | zero => rfl
      | succ hops => exact absurd rfl (absent names hops rfl)
    | file | nowhere => rfl

end Site

end NodeHeap
