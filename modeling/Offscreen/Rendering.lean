import Offscreen.Lookup
import Offscreen.Overrides
import Offscreen.Platform
import Offscreen.SearchPath

/-!
# The environment for software rendering

The renderer loads its off-screen drawing libraries from the output of the package `osmesa-src`, so
the loader of the platform has to search there, and the driver that draws in software has to be
chosen. `configure` says which variables do that. On a platform without such a setup none is set.
-/

namespace Offscreen.Rendering
set_option autoImplicit false

/-- The package whose build output holds the libraries. -/
def package : Bytes := Bytes.ascii "osmesa-src"

/-- Where the loader of Linux searches. -/
def linuxLoaderPath : Bytes := Bytes.ascii "LD_LIBRARY_PATH"

/-- Where the loader of macOS searches. -/
def macosLoaderPath : Bytes := Bytes.ascii "DYLD_LIBRARY_PATH"

/-- Which driver draws. -/
def driver : Bytes := Bytes.ascii "GALLIUM_DRIVER"

/-- The driver that draws in software. -/
def softwareDriver : Bytes := Bytes.ascii "softpipe"

/-- The directory of the libraries in the output of the package on Linux. -/
def linuxLibraries (output : Bytes) : Bytes :=
  Path.descend output (["out", "lib", "gallium"].map Bytes.ascii)

/-- The directory of the drawing library in the output of the package on macOS. -/
def macosDrawing (output : Bytes) : Bytes :=
  Path.descend output (["out", "src", "gallium", "targets", "osmesa", ".libs"].map Bytes.ascii)

/-- The directory of the dispatching library in the output of the package on macOS. -/
def macosDispatch (output : Bytes) : Bytes :=
  Path.descend output (["out", "src", "mapi", "shared-glapi", ".libs"].map Bytes.ascii)

/-- The variables that make a loader search some directories and choose the software driver. -/
def overrides (loaderPath : Bytes) (directories : List Bytes) : Except Fault Overrides :=
  (SearchPath.ofDirectories directories).map fun path =>
    (Overrides.empty.set loaderPath path).set driver softwareDriver

/-- The variables to set for a renderer on a platform. On macOS the package is looked up for each of
its two libraries. -/
def configure (files : Files) (platform : Platform) (binary : Bytes) : Except Fault Overrides :=
  match platform with
  | .linux => do
    let output ← Lookup.require files package binary
    overrides linuxLoaderPath [linuxLibraries output]
  | .macos => do
    let drawing ← Lookup.require files package binary
    let dispatch ← Lookup.require files package binary
    overrides macosLoaderPath [macosDrawing drawing, macosDispatch dispatch]
  | .windows | .other => .ok .empty

end Offscreen.Rendering
