import Offscreen.Text.Blank
import Offscreen.Text.CodePoints
import Offscreen.Text.Utf8
import Offscreen.Variables

/-!
# Files of variables

A file `.env` holds lines `NAME=value`. A value may be quoted, may name variables that were set
before, and may go on over several lines inside quotes. A variable that is set already keeps its
value, so the first of two lines for one name counts. A line that makes no sense ends the loading,
and what the lines before it have set stays. No variable can hold a NUL byte, so a line that would
set one to such a value leaves no variables to go on with.
-/

namespace Offscreen.EnvFile
set_option autoImplicit false

/-- The name of such a file. -/
def fileName : Bytes := Bytes.ascii ".env"

/-- Where the reading of a line stands, as far as the end of the line and comments go. -/
inductive Mode where
  | plain
  /-- After one blank, where a comment can begin. -/
  | blank
  | comment
  /-- After a backslash outside quotes. -/
  | escaped
  /-- Inside single quotes. -/
  | single
  | singleEscaped
  /-- Inside double quotes. -/
  | double
  | doubleEscaped
  deriving DecidableEq, Repr

/-- Where the reading stands after a character. -/
def Mode.next (mode : Mode) (c : Char) : Mode :=
  let outside : Mode :=
    if c = '\\' then .escaped else if c = '"' then .double else if c = '\'' then .single else .plain
  match mode with
  | .plain => if Blank.isBlank c ∧ c ≠ '\n' ∧ c ≠ '\r' then .blank else outside
  | .blank => if c = '#' then .comment else outside
  | .comment => .comment
  | .escaped => .plain
  | .single => if c = '\\' then .singleEscaped else if c = '\'' then .plain else .single
  | .singleEscaped => .single
  | .double => if c = '\\' then .doubleEscaped else if c = '"' then .plain else .double
  | .doubleEscaped => .double

/-- What stands before a comment, and where the reading stands after it or after the whole line. -/
def Mode.through (mode : Mode) : List Char → List Char × Mode
  | [] => ([], mode)
  | c :: rest =>
    if mode.next c = .comment then ([], .comment)
    else
      let (kept, mode) := (mode.next c).through rest
      (c :: kept, mode)

/-- A variable that is being named inside a value. -/
inductive Naming where
  | none
  /-- After `$`, the name so far, its last character first. -/
  | bare (name : List Char)
  /-- After `${`, the name so far, its last character first. -/
  | braced (name : List Char)
  deriving DecidableEq, Repr

/-- How far a value has been read. -/
structure Value where
  /-- The value so far, its last character first. -/
  text : List Char
  /-- The quote that is open. -/
  quote : Option Char
  /-- Whether the last character was a backslash. -/
  escaped : Bool
  /-- The variable that is being named. -/
  naming : Naming
  deriving DecidableEq, Repr

namespace Value

/-- Nothing has been read. -/
def start : Value := ⟨[], none, false, .none⟩

/-- Adds to the value. -/
def add (value : Value) (text : List Char) : Value :=
  { value with text := text.reverseAux value.text }

/-- Reads a character that may open something. -/
def read (value : Value) (c : Char) : Value :=
  if c = '$' then { value with naming := .bare [] }
  else if c = '\\' then { value with escaped := true }
  else match value.quote with
    | some _ => if c = '"' then { value with quote := none } else value.add [c]
    | none => if c = '\'' ∨ c = '"' then { value with quote := some c } else value.add [c]

/-- Reads a character; `lookUp` knows the variables that are set. -/
def step (lookUp : List Char → List Char) (value : Value) (c : Char) : Option Value :=
  if value.escaped then
    if c ∈ ['\\', '\'', '"', '$', ' '] then some { value.add [c] with escaped := false }
    else if c = 'n' then some { value.add ['\n'] with escaped := false }
    else none
  else if value.quote = some '\'' then
    some (if c = '\'' then { value with quote := none } else value.add [c])
  else match value.naming with
    | .none => some (value.read c)
    | .bare name =>
      some (if Alphanumeric.isAlphanumeric c then { value with naming := .bare (c :: name) }
        else if c = '{' ∧ name = [] then { value with naming := .braced [] }
        else if c = '$' then { value.add (lookUp name.reverse) with naming := .bare [] }
        else { (value.add (lookUp name.reverse)).add [c] with naming := .none })
    | .braced name =>
      some (if c = '}' then { value.add (lookUp name.reverse) with naming := .none }
        else { value with naming := .braced (c :: name) })

/-- The value at the end of its text, unless something is still open. -/
def finish (lookUp : List Char → List Char) (value : Value) : Option (List Char) :=
  match value.quote, value.naming with
  | some _, _ | _, .braced _ => none
  | none, .bare name => some (value.add (lookUp name.reverse)).text.reverse
  | none, .none => some value.text.reverse

/-- Whether a character is a blank that ends a value. -/
def ends (value : Value) (c : Char) : Bool :=
  (c == ' ' || c == '\t') && !value.escaped && value.quote.isNone && value.naming == .none

/-- Reads the text of a value. After a blank only blanks and a comment may follow. -/
def through (lookUp : List Char → List Char) (value : Value) : List Char → Option (List Char)
  | [] => value.finish lookUp
  | c :: rest =>
    if value.ends c then
      match rest.dropWhile fun c => c = ' ' ∨ c = '\t' with
      | [] | '#' :: _ => value.finish lookUp
      | _ => none
    else (value.step lookUp c).bind (·.through lookUp rest)

end Value

/-- Whether a name can begin with a character. -/
def opensName (c : Char) : Bool :=
  c.isAlpha || c == '_'

/-- Whether a name can go on with a character. -/
def inName (c : Char) : Bool :=
  c.isAlphanum || c == '_' || c == '.'

/-- A name, and the text after it and the blanks behind it. -/
def name? (text : List Char) : Option (List Char × List Char) :=
  if (text.take 1).any opensName then
    some (text.takeWhile inName, Blank.trimStart (text.dropWhile inName))
  else none

/-- The name that a line sets, and the text of its value. The word `export` may stand in front. -/
def assignment? (text : List Char) : Option (List Char × List Char) := do
  let (name, rest) ← name? text
  match rest with
  | '=' :: value => return (name, Blank.trimStart value)
  | _ =>
    if name = "export".toList then
      let (name, rest) ← name? rest
      match rest with
      | '=' :: value => return (name, Blank.trimStart value)
      | _ => none
    else none

/-- Whether the loading of a file goes on. -/
inductive Course where
  | going
  /-- A line has made no sense. -/
  | stopped
  /-- A value holds a NUL byte. -/
  | broken
  deriving DecidableEq, Repr

/-- How far a file has been loaded. -/
structure Loading where
  /-- The variables that are set. -/
  environment : Variables
  /-- The lines before that belong together with the next one. -/
  held : List Char
  /-- Where the reading of those lines stands. -/
  mode : Mode
  /-- Whether the loading goes on. -/
  course : Course
  deriving DecidableEq

namespace Loading

/-- The value of a variable, as far as it is text, and nothing for one that is not set. -/
def lookUp (environment : Variables) (name : List Char) : List Char :=
  ((environment.read? (Utf8.encode name)).bind Utf8.decode?).getD []

/-- Goes on behind lines that belong together. -/
def close (loading : Loading) : Loading :=
  { loading with held := [], mode := .plain }

/-- Sets a variable, unless it is set to some text already. -/
def assign (loading : Loading) (name value : List Char) : Loading :=
  match (loading.environment.get? (Utf8.encode name)).bind Utf8.decode? with
  | some _ => loading.close
  | none =>
    if '\x00' ∈ value then { loading with course := .broken }
    else
      { loading.close with
        environment := loading.environment.insert (Utf8.encode name) (Utf8.encode value) }

/-- The variable that lines set, with its value. -/
def setting? (environment : Variables) (text : List Char) : Option (List Char × List Char) := do
  let (name, rest) ← assignment? text
  if rest.head? = some '#' then return (name, [])
  return (name, ← Value.start.through (lookUp environment) rest)

/-- Carries out lines that belong together. -/
def carryOut (loading : Loading) (text : List Char) : Loading :=
  let text := Blank.trim text
  if text = [] ∨ text.head? = some '#' then loading.close
  else
    match setting? loading.environment text with
    | some (name, value) => loading.assign name value
    | none => { loading with course := .stopped }

/-- Reads one line. -/
def step (loading : Loading) (line : Bytes) : Loading :=
  if loading.course ≠ .going then loading
  else match Utf8.decode? line with
    | none => { loading with course := .stopped }
    | some text =>
      let all := loading.held ++ text
      if (Blank.trimStart all).head? = some '#' then loading.close
      else
        match loading.mode.through text with
        | (_, .plain) => loading.carryOut all
        | (kept, .comment) => loading.carryOut (loading.held ++ kept)
        | (_, mode) => { loading with held := all, mode := mode }

end Loading

/-- The lines of a content, each with its end. -/
def lines (content : Bytes) : List Bytes :=
  let parts := content.splitOn newline
  parts.dropLast.map (· ++ [newline]) ++ (parts.getLast?.toList.filter (· ≠ []))

/-- A content without the mark that may stand at its beginning. -/
def withoutMark (content : Bytes) : Bytes :=
  if [0xef, 0xbb, 0xbf].isPrefixOf content then content.drop 3 else content

/-- The variables after a file with some content has been loaded, unless that broke off. -/
def load (environment : Variables) (content : Bytes) : Option Variables :=
  let loaded := (lines (withoutMark content)).foldl Loading.step ⟨environment, [], .plain, .going⟩
  if loaded.course = .broken then none else some loaded.environment

end Offscreen.EnvFile
