import Offscreen.Action
import Offscreen.CommandLine.Reader
import Offscreen.Config
import Offscreen.Variables

/-!
# Requests

A request is what a command line asks for: an action and the settings it runs with. A setting comes
from the words of the action, from the tool's own words, from a variable of the environment or from
a default, in this order of strength. `Request.read` reads a request, and `Request.update` changes
one by a further command line.
-/

namespace Offscreen.CommandLine
set_option autoImplicit false

/-- Where a value comes from, the weakest first. -/
inductive Source where
  | standard
  | environment
  | commandLine
  deriving DecidableEq, Repr

/-- How strong a source is. -/
def Source.strength : Source → Nat
  | .standard => 0
  | .environment => 1
  | .commandLine => 2

/-- A value with its source. -/
structure Setting where
  value : Bytes
  source : Source
  deriving DecidableEq, Repr

/-- Of the settings of two scopes the stronger one, and the inner one of two that are equally
strong. -/
def Setting.merge (outer inner : Setting) : Setting :=
  if inner.source.strength < outer.source.strength then outer else inner

/-- The variable that stands in for an option, and what stands in for both. -/
structure Fallback where
  key : Key
  name : Bytes
  standard : Bytes

/-- What stands in for the path of the renderer. -/
def Fallback.wrenchBin : Fallback :=
  ⟨.wrenchBin, Bytes.ascii "WRENCH_BIN", Bytes.ascii "../target/release/wrench"⟩

/-- What stands in for the build program. -/
def Fallback.cargo : Fallback :=
  ⟨.cargo, Bytes.ascii "CARGO", Bytes.ascii "cargo"⟩

/-- The setting of an option in one scope. A variable is judged as a given value is. -/
def Fallback.setting (fallback : Fallback) (environment : Variables) (given : Given) :
    Except Refusal Setting :=
  match given.value? fallback.key with
  | some value => .ok ⟨value, .commandLine⟩
  | none =>
    match environment.get? fallback.name with
    | some value => do
      fallback.key.check value
      return ⟨value, .environment⟩
    | none => .ok ⟨fallback.standard, .standard⟩

/-- The settings of one scope. -/
structure Settings where
  wrenchBin : Setting
  cargo : Setting
  verbose : Bool
  deriving DecidableEq, Repr

/-- The settings of one scope. -/
def Settings.of (environment : Variables) (given : Given) : Except Refusal Settings := do
  let wrenchBin ← Fallback.wrenchBin.setting environment given
  let cargo ← Fallback.cargo.setting environment given
  return ⟨wrenchBin, cargo, given.raised .verbose⟩

/-- The settings of two scopes as one. -/
def Settings.merge (outer inner : Settings) : Settings :=
  ⟨outer.wrenchBin.merge inner.wrenchBin, outer.cargo.merge inner.cargo,
    outer.verbose || inner.verbose⟩

/-- Whether a scope has a setting that is no default. -/
def Settings.explicit (settings : Settings) : Bool :=
  settings.wrenchBin.source ≠ .standard || settings.cargo.source ≠ .standard || settings.verbose

/-- The words of an action, read. -/
structure Named where
  scope : Scope
  given : Given
  deriving DecidableEq, Repr

/-- A command line, read. -/
structure Reading where
  settings : Settings
  named : Option Named
  deriving DecidableEq, Repr

/-- Reads the words of an action. `reftest` needs one. -/
def readNamed (environment : Variables) (scope : Scope) (words : List Bytes) :
    Except Refusal (Settings × Named) := do
  let given ← Progress.readAction scope .start words
  let settings ← Settings.of environment given
  if scope = .reftest && given.words.isEmpty then throw .missingRequiredArgument
  return (settings, ⟨scope, given⟩)

/-- Reads a command line. What follows the name of an action is judged before what the tool's own
words have held back. -/
def Reading.of (environment : Variables) (words : List Bytes) : Except Refusal Reading := do
  let (progress, rest) ← Progress.readTool .start words
  match rest with
  | some (scope, rest) =>
    let (inner, named) ← readNamed environment scope rest
    let outer ← Settings.of environment (← progress.settle)
    return ⟨outer.merge inner, some named⟩
  | none =>
    return ⟨← Settings.of environment (← progress.settle), none⟩

/-- What a command line asks for. -/
structure Request where
  /-- The path of the renderer. -/
  wrenchBin : Bytes
  /-- The build program. -/
  cargo : Bytes
  /-- Whether to tell more about the work. -/
  verbose : Bool
  /-- What to do. -/
  action : Action
  deriving DecidableEq, Repr

/-- The features that a build has unless others are asked for. -/
def standardFeatures : List Bytes := [Bytes.ascii "headless"]

/-- The features that `run` is asked for: each value lists some between commas. -/
def Given.features (given : Given) : List Bytes :=
  match given.valuesOf .features with
  | [] => standardFeatures
  | values => values.flatMap (·.splitOn comma)

/-- The platform that `env` is asked for. -/
def Given.platform (given : Given) : Option Platform :=
  (given.value? .platform).bind Platform.ofName?

/-- The action that was named. -/
def Named.action (named : Named) : Option Action :=
  match named.scope with
  | .run => some (.run (named.given.raised .skipBuild) named.given.features named.given.words)
  | .reftest =>
    named.given.words.head?.map fun path => .reftest path (named.given.value? .screenshot)
  | .env => some (.env named.given.platform)
  | .tool => none

namespace Request

/-- The settings of a reading with an action. -/
def ofReading (reading : Reading) (action : Action) : Request :=
  ⟨reading.settings.wrenchBin.value, reading.settings.cargo.value, reading.settings.verbose, action⟩

/-- Reads a request. -/
def read (environment : Variables) (words : List Bytes) : Except Refusal Request := do
  let reading ← Reading.of environment words
  match reading.named.bind Named.action with
  | some action => return ofReading reading action
  | none =>
    if reading.settings.explicit then throw .missingSubcommand else throw .displayHelpOnMissing

/-- An action after one of the same kind was named again: what a build needs is taken from the new
words, and what else they do not give stays as it was. -/
def overlay (old : Action) (named : Named) : Option Action :=
  let given := named.given
  match named.scope, old with
  | .run, .run _ _ args =>
    some (.run (given.raised .skipBuild) given.features
      (if given.words = [] then args else given.words))
  | .reftest, .reftest path screenshot =>
    some (.reftest (given.words.head?.getD path) ((given.value? .screenshot).or screenshot))
  | .env, .env platform => some (.env (given.platform.or platform))
  | _, _ => named.action

/-- Changes a request by a further command line, which need not name an action. -/
def update (request : Request) (environment : Variables) (words : List Bytes) :
    Except Refusal Request := do
  let reading ← Reading.of environment words
  return ofReading reading ((reading.named.bind (overlay request.action)).getD request.action)

/-- The configuration that a request runs with. -/
def config (request : Request) : Config :=
  ⟨request.wrenchBin, request.cargo, .current⟩

end Request
end Offscreen.CommandLine
