import Offscreen.Bytes

/-!
# Paths

A path is a byte string whose names are parted by slashes. Repeated slashes part no further names,
and a dot names nothing except at the beginning of a relative path. `components` lists what a path
is made of; `parent?` is the longest beginning that stands for all components but the last.
-/

namespace Offscreen.Path
set_option autoImplicit false

/-- Something that a path is made of. -/
inductive Component where
  /-- The slash that an absolute path begins with. -/
  | root
  /-- The dot that a relative path begins with. -/
  | here
  /-- A name, `..` among them. -/
  | name (bytes : Bytes)
  deriving DecidableEq, Repr

/-- Whether a path begins at the root. -/
def isAbsolute (path : Bytes) : Bool :=
  path.head? == some slash

/-- What the first stretch before a slash stands for. -/
def leading : List Bytes → List Component
  | [] => []
  | first :: rest =>
    if first = [] then (if rest = [] then [] else [.root])
    else if first = [dot] then [.here]
    else [.name first]

/-- The names among the later stretches. -/
def names (stretches : List Bytes) : List Component :=
  (stretches.filter fun s => s ≠ [] ∧ s ≠ [dot]).map .name

/-- What a path is made of, in order. -/
def components (path : Bytes) : List Component :=
  let stretches := path.splitOn slash
  leading stretches ++ names stretches.tail

/-- The reversed path without the slashes and lone dots that it ends in. A lone slash or a lone dot
at the beginning of the path is kept. -/
def trimReversed : Bytes → Bytes
  | [] => []
  | [b] => [b]
  | b :: c :: rest =>
    if b = slash then trimReversed (c :: rest)
    else if b = dot ∧ c = slash then trimReversed (c :: rest)
    else b :: c :: rest

/-- The path without the slashes and lone dots that it ends in. -/
def trim (path : Bytes) : Bytes :=
  (trimReversed path.reverse).reverse

/-- The path without its last stretch of bytes other than slashes. -/
def dropLast (path : Bytes) : Bytes :=
  (path.reverse.dropWhile (· ≠ slash)).reverse

/-- The path of the directory that holds what a path names. The root and the empty path have
none. -/
def parent? (path : Bytes) : Option Bytes :=
  let path := trim path
  if path = [] ∨ path = [slash] then none else some (trim (dropLast path))

/-- A path below a directory: one slash parts them unless the directory ends in one or is empty,
and an absolute path stands alone. -/
def join (directory path : Bytes) : Bytes :=
  if isAbsolute path then path
  else if directory = [] ∨ directory.getLast? = some slash then directory ++ path
  else directory ++ slash :: path

/-- A path below a directory, one name after the other. -/
def descend (directory : Bytes) (names : List Bytes) : Bytes :=
  names.foldl join directory

end Offscreen.Path

namespace Offscreen
set_option autoImplicit false

/-- The name of an entry of a directory. -/
@[ext]
structure EntryName where
  /-- The bytes of the name. -/
  bytes : Bytes
  /-- A name lies within one directory. -/
  slash_not_mem : slash ∉ bytes
  deriving DecidableEq

end Offscreen
