import Offscreen.Fault

/-!
# Search paths

A search path lists directories between colons, so a directory whose path holds a colon cannot
stand in one.
-/

namespace Offscreen.SearchPath
set_option autoImplicit false

/-- The search path of a list of directories. -/
def ofDirectories (directories : List Bytes) : Except Fault Bytes :=
  if directories.any (colon ∈ ·) then .error (.invalidSearchPath directories)
  else .ok ([colon].intercalate directories)

/-- The directories that a search path lists. -/
def directories (path : Bytes) : List Bytes :=
  path.splitOn colon

end Offscreen.SearchPath
