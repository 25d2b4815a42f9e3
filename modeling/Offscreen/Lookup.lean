import Offscreen.Fault
import Offscreen.Instant
import Offscreen.Path

/-!
# Looking up a dependency

A build leaves the output of a package in an entry `<package>-<hash>` of the directory `build`
beside the binary. Entries of earlier builds stay there, so the entry that was modified last is
taken to be the current one. `resolve` says which that is, and `require` insists that there is one.
-/

namespace Offscreen
set_option autoImplicit false

/-- What can be read of a file system at one moment. -/
structure Files where
  /-- The entries of a directory in the order of its listing. Opening the directory can fail, and so
  can reading any one entry. -/
  list : Bytes → Except IoFault (List (Except IoFault EntryName))
  /-- When the file that a path leads to was modified. -/
  modified : Bytes → Except IoFault Instant
  /-- The content of a file in the stretches in which it is read. -/
  read : Bytes → Except IoFault (List Bytes)

/-- An entry that belongs to a package. -/
structure Candidate where
  /-- The name of the entry. -/
  name : Bytes
  /-- When it was modified. -/
  modified : Instant
  /-- The path that leads to it. -/
  path : Bytes
  deriving DecidableEq, Repr

namespace Lookup

/-- The directory that holds a binary. A path that ends in a slash names a directory itself, and a
bare name lies in the current directory. -/
def binaryDir (binary : Bytes) : Bytes :=
  if binary.getLast? = some slash then binary
  else match Path.parent? binary with
    | none | some [] => [dot]
    | some parent => parent

/-- The directory beside a binary that holds what builds leave. -/
def buildDir (binary : Bytes) : Bytes :=
  Path.join (binaryDir binary) (Bytes.ascii "build")

/-- What the names of a package's entries begin with. -/
def stem (package : Bytes) : Bytes :=
  package ++ [hyphen]

/-- Takes in one item of a listing: an entry of another package is passed over before anything else
is asked about it. -/
def candidate (files : Files) (package dir : Bytes) (item : Except IoFault EntryName) :
    Except Fault (Option Candidate) :=
  match item with
  | .error cause => .error (.filesystemAccess dir cause)
  | .ok name =>
    if (stem package).isPrefixOf name.bytes then
      let path := Path.join dir name.bytes
      match files.modified path with
      | .error cause => .error (.filesystemAccess path cause)
      | .ok modified => .ok (some ⟨name.bytes, modified, path⟩)
    else .ok none

/-- The entries of a package among the items of a listing. The first item that fails ends it. -/
def candidates (files : Files) (package dir : Bytes) (items : List (Except IoFault EntryName)) :
    Except Fault (List Candidate) :=
  (items.mapM (candidate files package dir)).map (·.filterMap id)

/-- The entries of a package in a directory. A directory that does not exist has none. -/
def scan (files : Files) (package dir : Bytes) : Except Fault (List Candidate) :=
  match files.list dir with
  | .ok items => candidates files package dir items
  | .error cause => if cause = .notFound then .ok [] else .error (.filesystemAccess dir cause)

/-- Of a best candidate so far and the next one, the one that was modified later, and the next one
of two that were modified at the same instant. -/
def later (best : Option Candidate) (next : Candidate) : Option Candidate :=
  match best with
  | none => some next
  | some best => if best.modified ≤ next.modified then some next else some best

/-- The last of the candidates that were modified last. -/
def newest (candidates : List Candidate) : Option Candidate :=
  candidates.foldl later none

/-- The path of a package's current entry beside a binary, if it has one. -/
def resolve (files : Files) (package binary : Bytes) : Except Fault (Option Bytes) :=
  (scan files package (buildDir binary)).map fun found => (newest found).map (·.path)

/-- The path of a package's current entry beside a binary, which must have one. -/
def require (files : Files) (package binary : Bytes) : Except Fault Bytes :=
  match resolve files package binary with
  | .error fault => .error fault
  | .ok none => .error (.dependencyNotFound package (buildDir binary))
  | .ok (some path) => .ok path

end Lookup
end Offscreen
