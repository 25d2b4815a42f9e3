import Offscreen.Fault
import Offscreen.Scratch.Tree

/-!
# Walking paths

A path is walked from the working directory, or from the root if it begins with a slash, one name
after the other. A link sends the walk along its target first. What a walk reaches is a location
that can hold a node; only the last name may lead to none, and then the walk ends at an open place.
-/

namespace Offscreen.Scratch
set_option autoImplicit false

/-- How many links a walk may follow. -/
def linkLimit : Nat := 40

/-- How long a name may be. -/
def nameLimit : Nat := 255

/-- How long a path may be. -/
def pathLimit : Nat := 4095

/-- Where a walk ends. -/
inductive Arrival where
  /-- At a node. -/
  | found (location : Location) (node : Node)
  /-- Behind the last name of a path that leads to a directory without that name. -/
  | vacant (location : Location)
  deriving DecidableEq, Repr

namespace Tree

/-- Walks on from a directory along names. A link on the way is left to `through`, with the directory to go on
from and the names to walk then. With `follow` so is a link at the end. -/
def walkAlong (tree : Tree) (follow : Bool) (through : Location → List Bytes → Except IoFault Arrival) :
    Location → List Bytes → Except IoFault Arrival
  | position, [] => .ok (.found position .directory)
  | position, name :: rest =>
    if name = [] ∨ name = [dot] then tree.walkAlong follow through position rest
    else if name = [dot, dot] then tree.walkAlong follow through position.dropLast rest
    else if nameLimit < name.length then .error .nameTooLong
    else
      let location := position ++ [name]
      match tree.node? location with
      | none => if rest = [] then .ok (.vacant location) else .error .notFound
      | some .directory => tree.walkAlong follow through location rest
      | some (.link target) =>
        if rest = [] ∧ !follow then .ok (.found location (.link target))
        else
          let start := if Path.isAbsolute target then [] else position
          through start (target.splitOn slash ++ rest)
      | some node => if rest = [] then .ok (.found location node) else .error .notDirectory

/-- Walks on from a directory along names, through no more links than that. -/
def walk (tree : Tree) (follow : Bool) : Nat → Location → List Bytes → Except IoFault Arrival
  | 0 => tree.walkAlong follow fun _ _ => .error .tooManyLinks
  | links + 1 => tree.walkAlong follow (tree.walk follow links)

/-- Where a path leads. -/
def arrive (tree : Tree) (follow : Bool) (path : Bytes) : Except IoFault Arrival :=
  if nul ∈ path then .error .nulInPath
  else if path = [] then .error .notFound
  else if pathLimit < path.length then .error .nameTooLong
  else
    let start := if Path.isAbsolute path then [] else tree.working
    tree.walk follow linkLimit start (path.splitOn slash)

/-- The node that a path leads to, with its location. -/
def resolve (tree : Tree) (path : Bytes) : Except IoFault (Location × Node) :=
  match tree.arrive true path with
  | .error cause => .error cause
  | .ok (.vacant _) => .error .notFound
  | .ok (.found location node) => .ok (location, node)

end Tree
end Offscreen.Scratch
