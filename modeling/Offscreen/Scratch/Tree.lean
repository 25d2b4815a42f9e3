import Offscreen.Instant
import Offscreen.Path

/-!
# Trees of files

A tree of directories, files, links and stand-in programs that is held in memory, to try the tool
on. Every node has a location, the names that lead to it from the root, and a modification time.
-/

namespace Offscreen.Scratch
set_option autoImplicit false

/-- A program that plays a part: when it is run it writes some files and prints something. -/
structure Program where
  /-- The name that a call of the program is recorded under. -/
  label : Bytes
  /-- What it prints. -/
  stdout : Bytes
  /-- The files that it writes, each with its content. -/
  writes : List (Bytes × Bytes)
  /-- The code that it ends with. -/
  exit : UInt8
  /-- The signal that it ends by, before it can end with a code. -/
  signal : Option UInt8
  /-- The argument without which it ends in success. -/
  failOn : Option Bytes
  deriving DecidableEq, Repr

/-- What can stand at a location. -/
inductive Node where
  | directory
  | file (content : Bytes) (executable : Bool)
  | program (program : Program)
  | link (target : Bytes)
  deriving DecidableEq, Repr

/-- The names that lead from the root to a node. -/
abbrev Location := List Bytes

/-- A node in its place. -/
structure Entry where
  location : Location
  node : Node
  modified : Instant
  deriving DecidableEq, Repr

/-- A tree of files, with the directory in which programs run. -/
structure Tree where
  /-- The nodes below the root, in the order in which they were put there. -/
  entries : List Entry
  /-- The directory in which programs run. -/
  working : Location
  /-- The modification time of what a program writes. -/
  clock : Instant
  deriving DecidableEq, Repr

namespace Tree

/-- The entry at a location. -/
def entry? (tree : Tree) (location : Location) : Option Entry :=
  tree.entries.find? fun entry => entry.location == location

/-- The node at a location. The root is a directory. -/
def node? (tree : Tree) (location : Location) : Option Node :=
  if location = [] then some .directory else (tree.entry? location).map (·.node)

/-- The names in a directory. -/
def children (tree : Tree) (location : Location) : List Bytes :=
  tree.entries.filterMap fun entry =>
    if entry.location.dropLast = location then entry.location.getLast? else none

/-- Puts an entry into its place, over the one that stands there. -/
def put (tree : Tree) (entry : Entry) : Tree :=
  if (tree.entry? entry.location).isSome then
    { tree with
      entries := tree.entries.map fun old => if old.location = entry.location then entry else old }
  else { tree with entries := tree.entries ++ [entry] }

/-- Gives the node at a location a modification time. -/
def touch (tree : Tree) (location : Location) (modified : Instant) : Tree :=
  { tree with
    entries := tree.entries.map fun entry =>
      if entry.location = location then { entry with modified := modified } else entry }

/-- Takes the node at a location away, with all that lies below it. -/
def remove (tree : Tree) (location : Location) : Tree :=
  { tree with entries := tree.entries.filter fun entry => !location.isPrefixOf entry.location }

end Tree
end Offscreen.Scratch
