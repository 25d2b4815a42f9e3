import Offscreen.Command
import Offscreen.Config
import Offscreen.Rendering

/-!
# Events

What the tool tells about its work, apart from what it was asked for. An event has a level, a
source and fields, which a filter can name, and a text. `ofLookup` and `ofSetup` list the events of
looking a dependency up and of setting software rendering up.
-/

namespace Offscreen
set_option autoImplicit false

/-- How important an event is, the most important first. -/
inductive Level where
  | error
  | warn
  | info
  | debug
  | trace
  deriving DecidableEq, Repr

namespace Level

/-- How far a filter has to be open for a level to pass. -/
def depth : Level → Nat
  | .error => 1
  | .warn => 2
  | .info => 3
  | .debug => 4
  | .trace => 5

/-- How a level stands in a line. -/
def label : Level → String
  | .error => "ERROR"
  | .warn => "WARN"
  | .info => "INFO"
  | .debug => "DEBUG"
  | .trace => "TRACE"

end Level

/-- Something that the tool tells about its work. -/
inductive Event where
  /-- The tool begins with a configuration. -/
  | starting (config : Config)
  /-- A build directory does not exist. -/
  | buildDirMissing (dir : Bytes)
  /-- A build directory was scanned for a package, with a number of entries found. -/
  | scanned (package dir : Bytes) (count : Nat)
  /-- Libraries were found, each under the name of its role. -/
  | libraries (directories : List (String × Bytes))
  /-- There is no setup for a platform. -/
  | unsupported (platform : Platform)
  /-- A command is about to be run. -/
  | running (command : Command)
  /-- The build is left out. -/
  | buildSkipped
  deriving DecidableEq

namespace Event

/-- How important an event is. -/
def level : Event → Level
  | .starting _ | .buildDirMissing _ | .scanned .. | .running _ => .debug
  | .libraries _ | .unsupported _ | .buildSkipped => .info

/-- The source that a filter knows an event by. -/
def source : Event → String
  | .starting _ => "wrench_headless"
  | .buildDirMissing _ | .scanned .. => "wrench_headless_core::resolver"
  | .libraries _ | .unsupported _ => "wrench_headless_core::env"
  | .running _ => "wrench_headless_core::process"
  | .buildSkipped => "wrench_headless_cli::handlers::run"

/-- The fields of an event that a filter can ask for. The words that every event has are one. -/
def fields (event : Event) : List String :=
  "message" :: match event with
    | .starting _ => ["config"]
    | .buildDirMissing _ => ["build_dir"]
    | .scanned .. => ["package", "build_dir", "count"]
    | .libraries directories => directories.map (·.1)
    | .unsupported _ => ["platform"]
    | .running _ => ["command"]
    | .buildSkipped => []

/-- What an event says. -/
def wording : Event → String
  | .starting config =>
    "Starting config=CliConfig \x7b wrench_bin: " ++ config.wrenchBin.quoted ++ ", cargo: " ++
      config.cargo.quoted ++ ", platform: " ++ config.platform.label ++ " \x7d"
  | .buildDirMissing dir => "Build directory does not exist build_dir=" ++ dir.shown
  | .scanned package dir count =>
    "Scanned build directory package=" ++ package.quoted ++ " build_dir=" ++ dir.shown ++
      " count=" ++ toString count
  | .libraries directories =>
    "Using OSMesa libraries" ++
      String.join (directories.map fun (role, dir) => " " ++ role ++ "=" ++ dir.shown)
  | .unsupported platform =>
    "Software rendering setup is not supported, launching with the inherited environment" ++
      " platform=" ++ platform.name
  | .running command => "Running command=" ++ command.describe
  | .buildSkipped => "Skipping build"

/-- The text of an event. -/
def text (event : Event) : String :=
  event.level.label ++ " " ++ event.wording

/-- The lines of an event. What it tells of is shown as it is, so a name that holds an end of a line
goes on in the next one. -/
def lines (event : Event) : List String :=
  (event.text.toList.splitOn '\n').map String.ofList

/-- The events of looking a package up beside a binary. -/
def ofLookup (files : Files) (package binary : Bytes) : List Event :=
  let dir := Lookup.buildDir binary
  let missing := match files.list dir with
    | .error cause => if cause = .notFound then [.buildDirMissing dir] else []
    | .ok _ => []
  match Lookup.scan files package dir with
  | .ok found => missing ++ [.scanned package dir found.length]
  | .error _ => missing

/-- The events of setting software rendering up. On macOS the package is looked up for each of its
two libraries. -/
def ofSetup (files : Files) (platform : Platform) (binary : Bytes) : List Event :=
  let lookup := ofLookup files Rendering.package binary
  match platform, Lookup.require files Rendering.package binary with
  | .linux, .ok output => lookup ++ [.libraries [("path", Rendering.linuxLibraries output)]]
  | .macos, .ok output =>
    lookup ++ lookup ++
      [.libraries [("osmesa", Rendering.macosDrawing output),
        ("glapi", Rendering.macosDispatch output)]]
  | .linux, .error _ | .macos, .error _ => lookup
  | .windows, _ | .other, _ => [.unsupported platform]

end Event
end Offscreen
