import Offscreen.Platform
import Offscreen.Text.Utf8

/-!
# The grammar of the command line

A command line has two scopes: the tool's own words, and after the name of an action the words of
that action. A scope knows options, which take a value, and flags, which take none. Two options and
a flag are known in every scope.
-/

namespace Offscreen.CommandLine
set_option autoImplicit false

/-- Why a command line is not carried out. -/
inductive Refusal where
  /-- Help was asked for. -/
  | displayHelp
  /-- The version was asked for. -/
  | displayVersion
  /-- Nothing was asked for at all. -/
  | displayHelpOnMissing
  /-- No action was named. -/
  | missingSubcommand
  /-- A word stands where an action is named, and names none. -/
  | invalidSubcommand
  /-- A word has no place. -/
  | unknownArgument
  /-- A flag was given a value. -/
  | tooManyValues
  /-- Something was given twice that may be given once. -/
  | argumentConflict
  /-- An option has no value, or an empty one where it needs one. -/
  | invalidValue
  /-- A value is not text. -/
  | invalidUtf8
  /-- A value is none of those that an option knows. -/
  | valueValidation
  /-- A word that an action needs is missing. -/
  | missingRequiredArgument
  deriving DecidableEq, Repr

/-- The status that the tool exits with. Asking for help or for the version is no error. -/
def Refusal.exitStatus : Refusal → Int
  | .displayHelp | .displayVersion => 0
  | _ => 2

/-- The text that tells the version. -/
def versionText : String := "wrench-headless 0.1.0\n"

/-- Part of a command line. -/
inductive Scope where
  | tool
  | run
  | reftest
  | env
  deriving DecidableEq, Repr

/-- The words that name an action, with the scope that follows. -/
def actionNames : List (Bytes × Scope) :=
  [(Bytes.ascii "run", .run), (Bytes.ascii "reftest", .reftest), (Bytes.ascii "env", .env)]

/-- The scope of the action that a word names. -/
def action? (word : Bytes) : Option Scope :=
  (actionNames.find? fun entry => entry.1 == word).map (·.2)

/-- The word that asks for help in the place of an action. -/
def helpWord : Bytes := Bytes.ascii "help"

/-- An option, which takes a value. -/
inductive Key where
  | wrenchBin
  | cargo
  | features
  | screenshot
  | platform
  deriving DecidableEq, Repr

namespace Key

/-- The name of an option after its two hyphens. -/
def name : Key → Bytes
  | .wrenchBin => Bytes.ascii "wrench-bin"
  | .cargo => Bytes.ascii "cargo"
  | .features => Bytes.ascii "features"
  | .screenshot => Bytes.ascii "screenshot"
  | .platform => Bytes.ascii "platform"

/-- Whether an option may be given more than once. -/
def repeats : Key → Bool
  | .features => true
  | _ => false

/-- Refuses a value that an option cannot have. A path may be any bytes but none; all else has to be
text. -/
def check (key : Key) (value : Bytes) : Except Refusal Unit :=
  match key with
  | .wrenchBin | .screenshot => if value = [] then .error .invalidValue else .ok ()
  | .cargo | .features => if Utf8.isText value then .ok () else .error .invalidUtf8
  | .platform =>
    if !Utf8.isText value then .error .invalidUtf8
    else if (Platform.ofName? value).isNone then .error .valueValidation
    else .ok ()

end Key

/-- A flag, which takes no value. -/
inductive Flag where
  | verbose
  | skipBuild
  | help
  | version
  deriving DecidableEq, Repr

namespace Flag

/-- The name of a flag after its two hyphens. -/
def name : Flag → Bytes
  | .verbose => Bytes.ascii "verbose"
  | .skipBuild => Bytes.ascii "skip-build"
  | .help => Bytes.ascii "help"
  | .version => Bytes.ascii "version"

/-- The letter that a flag has after one hyphen. -/
def letter? : Flag → Option UInt8
  | .verbose => some 0x76
  | .skipBuild => none
  | .help => some 0x68
  | .version => some 0x56

end Flag

namespace Scope

/-- The options of a scope. -/
def keys : Scope → List Key
  | .tool => [.wrenchBin, .cargo]
  | .run => [.wrenchBin, .cargo, .features]
  | .reftest => [.wrenchBin, .cargo, .screenshot]
  | .env => [.wrenchBin, .cargo, .platform]

/-- The flags of a scope. -/
def flags : Scope → List Flag
  | .tool => [.verbose, .help, .version]
  | .run => [.verbose, .help, .skipBuild]
  | .reftest | .env => [.verbose, .help]

/-- The option of a scope with a name. -/
def key? (scope : Scope) (name : Bytes) : Option Key :=
  scope.keys.find? fun key => key.name == name

/-- The flag of a scope with a name. -/
def flag? (scope : Scope) (name : Bytes) : Option Flag :=
  scope.flags.find? fun flag => flag.name == name

/-- The flag of a scope with a letter. -/
def letter? (scope : Scope) (letter : UInt8) : Option Flag :=
  scope.flags.find? fun flag => flag.letter? == some letter

/-- Whether a word that looks like an option and is none is handed on as an argument. -/
def forwards : Scope → Bool
  | .run => true
  | _ => false

end Scope

/-- What a word looks like. -/
inductive Shape where
  /-- No option: among others the empty word and a lone hyphen. -/
  | plain
  /-- Two hyphens alone, after which no word is an option. -/
  | dashes
  /-- A name after two hyphens, with the value after its first equals sign. -/
  | long (name : Bytes) (value : Option Bytes)
  /-- Letters after one hyphen. -/
  | short (letters : Bytes)
  deriving DecidableEq, Repr

/-- What a word looks like. -/
def Shape.of : Bytes → Shape
  | a :: b :: rest =>
    if a ≠ hyphen then .plain
    else if b ≠ hyphen then .short (b :: rest)
    else if rest = [] then .dashes
    else .long (Bytes.cut equals rest).1 (Bytes.cut equals rest).2
  | _ => .plain

end Offscreen.CommandLine
