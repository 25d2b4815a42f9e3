import Offscreen.CommandLine.Grammar

/-!
# Reading one scope

The words of a scope are read from left to right. A value that stands in a word of its own, and a
plain word that a scope has a place for, are held back: they are judged only when something that
is judged after them has been recognised, or at the end. So a word without a place is refused
before the value in front of it is.
-/

namespace Offscreen.CommandLine
set_option autoImplicit false

/-- What the words of a scope have given. -/
structure Given where
  /-- The options with their values, in order. -/
  values : List (Key × Bytes)
  /-- The flags, in order. -/
  flags : List Flag
  /-- The plain words, in order. -/
  words : List Bytes
  deriving DecidableEq, Repr

namespace Given

/-- Nothing was given. -/
def nothing : Given := ⟨[], [], []⟩

/-- The values of an option, in order. -/
def valuesOf (given : Given) (key : Key) : List Bytes :=
  (given.values.filter fun entry => entry.1 = key).map (·.2)

/-- The first value of an option. -/
def value? (given : Given) (key : Key) : Option Bytes :=
  (given.valuesOf key).head?

/-- Whether a flag was given. -/
def raised (given : Given) (flag : Flag) : Bool :=
  flag ∈ given.flags

/-- Takes in an option with its value. -/
def take (given : Given) (key : Key) (value : Bytes) : Except Refusal Given := do
  if !key.repeats && !(given.valuesOf key).isEmpty then throw .argumentConflict
  key.check value
  return { given with values := given.values ++ [(key, value)] }

/-- Takes in a flag. Help and the version are shown at once. -/
def raise (given : Given) (flag : Flag) : Except Refusal Given :=
  match flag with
  | .help => .error .displayHelp
  | .version => .error .displayVersion
  | flag =>
    if given.raised flag then .error .argumentConflict
    else .ok { given with flags := given.flags ++ [flag] }

/-- Takes in plain words, which have to be text. -/
def say (given : Given) (words : List Bytes) : Except Refusal Given :=
  if words.all Utf8.isText then .ok { given with words := given.words ++ words }
  else .error .invalidUtf8

end Given

/-- What has been read and is not judged yet. -/
inductive Held where
  | nothing
  /-- An option, and its value once that has been read. -/
  | option (key : Key) (value : Option Bytes)
  /-- Plain words. -/
  | words (words : List Bytes)
  deriving DecidableEq, Repr

/-- How far a scope has been read. -/
structure Progress where
  /-- What has been taken in. -/
  given : Given
  /-- What is held back. -/
  held : Held
  /-- Whether no further word is an option. -/
  literal : Bool
  deriving DecidableEq, Repr

namespace Progress

/-- Nothing has been read. -/
def start : Progress := ⟨.nothing, .nothing, false⟩

/-- The option whose value is the next word, whatever that is. -/
def awaiting (progress : Progress) : Option Key :=
  match progress.held with
  | .option key none => if progress.literal then none else some key
  | _ => none

/-- Judges what is held back, and takes it in. -/
def settle (progress : Progress) : Except Refusal Given :=
  match progress.held with
  | .nothing => .ok progress.given
  | .option _ none => .error .invalidValue
  | .option key (some value) => progress.given.take key value
  | .words words => progress.given.say words

/-- Goes on with what has been taken in, and holds nothing back. -/
def resume (progress : Progress) (given : Given) : Progress :=
  { progress with given := given, held := .nothing }

/-- Takes in an option with its value. -/
def take (progress : Progress) (key : Key) (value : Bytes) : Except Refusal Progress := do
  return progress.resume (← (← progress.settle).take key value)

/-- Takes in a flag. -/
def raise (progress : Progress) (flag : Flag) : Except Refusal Progress := do
  return progress.resume (← (← progress.settle).raise flag)

/-- Reads an option whose value is the next word. -/
def await (progress : Progress) (key : Key) : Except Refusal Progress := do
  return { progress with given := ← progress.settle, held := .option key none }

/-- Reads a plain word. `run` hands on all its words, from the first of them to the end;
`reftest` has a place for one. -/
def place (scope : Scope) (progress : Progress) (word : Bytes) : Except Refusal Progress :=
  match scope, progress.held with
  | .run, .words words => .ok { progress with held := .words (words ++ [word]), literal := true }
  | .run, _ => do
    return ⟨← progress.settle, .words [word], true⟩
  | .reftest, .words _ => .error .unknownArgument
  | .reftest, _ =>
    if progress.given.words = [] then do
      return { progress with given := ← progress.settle, held := .words [word] }
    else .error .unknownArgument
  | .env, _ => .error .unknownArgument
  | .tool, _ =>
    if progress.literal && ((action? word).isSome || word = helpWord) then .error .unknownArgument
    else .error .invalidSubcommand

/-- Reads a word that is no option of its scope: it is the value of the option in front of it, if
that still waits for one. -/
def pass (scope : Scope) (progress : Progress) (word : Bytes) : Except Refusal Progress :=
  match progress.awaiting with
  | some key => .ok { progress with held := .option key (some word) }
  | none => progress.place scope word

/-- Reads the letters after one hyphen, each of which is a flag. -/
def raiseAll (scope : Scope) (progress : Progress) : Bytes → Except Refusal Progress
  | [] => .ok progress
  | letter :: rest =>
    match scope.letter? letter with
    | none => .error .unknownArgument
    | some flag => do raiseAll scope (← progress.raise flag) rest

/-- Reads a word. -/
def step (scope : Scope) (progress : Progress) (word : Bytes) : Except Refusal Progress :=
  if progress.literal then progress.place scope word
  else
    match Shape.of word with
    | .plain => progress.pass scope word
    | .dashes => .ok { progress with literal := true }
    | .long name value =>
      match scope.key? name, scope.flag? name, value with
      | some key, _, some value => progress.take key value
      | some key, _, none => progress.await key
      | none, some _, some _ => .error .tooManyValues
      | none, some flag, none => progress.raise flag
      | none, none, _ =>
        if scope.forwards && Utf8.isText name then progress.pass scope word
        else .error .unknownArgument
    | .short letters =>
      if scope.forwards && letters.any fun letter => (scope.letter? letter).isNone then
        progress.pass scope word
      else progress.raiseAll scope letters

/-- Reads the words of an action to their end. -/
def readAction (scope : Scope) (progress : Progress) : List Bytes → Except Refusal Given
  | [] => progress.settle
  | word :: rest => do readAction scope (← progress.step scope word) rest

/-- What asking for help with some words comes to. -/
def help : List Bytes → Refusal
  | [] => .displayHelp
  | word :: rest =>
    if ((action? word).isSome || word = helpWord) && rest = [] then .displayHelp
    else .invalidSubcommand

/-- Reads the tool's own words up to the name of an action. What is held back then stays so, until
the words of the action have been read. -/
def readTool (progress : Progress) :
    List Bytes → Except Refusal (Progress × Option (Scope × List Bytes))
  | [] => .ok (progress, none)
  | word :: rest =>
    if progress.literal || progress.awaiting.isSome then do
      readTool (← progress.step .tool word) rest
    else if word = helpWord then .error (help rest)
    else
      match action? word with
      | some scope => .ok (progress, some (scope, rest))
      | none => do readTool (← progress.step .tool word) rest

end Progress
end Offscreen.CommandLine
