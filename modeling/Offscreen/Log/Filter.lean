import Offscreen.Log.Event
import Offscreen.Log.Pattern

/-!
# Filters

A filter is a list of directives, each of which opens the log to a depth for the events whose source
begins with its target and which have the field that it asks for. Of the directives that fit an
event the one with the longest target decides, of those one that asks for a field, of those the one
with the last field in the order of names, and of equal ones the last that was given.

A text of directives parted by commas describes a filter: `depth`, `target`, `target=depth`, or with
a part in brackets behind the target `target[span{field=value}]=depth`, in which all but the
brackets can be left out. What names a span or asks a field for a value is about spans of work, of
which there are none, so it opens the log to no event.
-/

namespace Offscreen
set_option autoImplicit false

/-- How far the log is open for some events. -/
structure Directive where
  /-- What their sources begin with. -/
  target : List Char
  /-- The field that they have. -/
  field : Option (List Char)
  /-- How deep they may lie. -/
  depth : Nat
  deriving DecidableEq, Repr

namespace Directive

/-- The order of names, character by character. -/
def nameLe : List Char → List Char → Bool
  | [], _ => true
  | _ :: _, [] => false
  | a :: as, b :: bs => a.toNat < b.toNat || (a == b && nameLe as bs)

/-- The order of what is asked for: nothing first, then fields by their names. -/
def fieldLe : Option (List Char) → Option (List Char) → Bool
  | none, _ => true
  | some _, none => false
  | some a, some b => nameLe a b

/-- Whether one of two directives that fit an event gives way to the other. -/
def yields (a b : Directive) : Bool :=
  a.target.length < b.target.length ||
    (a.target.length == b.target.length && fieldLe a.field b.field)

/-- Whether a directive is about an event. -/
def fits (directive : Directive) (event : Event) : Bool :=
  directive.target.isPrefixOf event.source.toList &&
    directive.field.all fun field => event.fields.any fun name => name.toList == field

end Directive

/-- The directives of a log, in the order in which they were given. -/
abbrev Filter := List Directive

namespace Filter

/-- Why a text describes no filter. -/
inductive Defect where
  /-- A piece of it makes no sense. -/
  | senseless
  /-- A piece of it is cut inside a character. -/
  | torn
  deriving DecidableEq, Repr

/-- Everything that a target says. -/
def deepest : Nat := 5

/-- The names of depths. -/
def depthNames : List (String × Nat) :=
  [("off", 0), ("error", 1), ("warn", 2), ("info", 3), ("debug", 4), ("trace", 5)]

/-- A number in decimal digits, after a plus sign or not. -/
def number? (text : List Char) : Option Nat :=
  let digits := match text with
    | '+' :: rest => rest
    | _ => text
  if Pattern.isDigits digits then
    some (digits.foldl (fun n c => n * 10 + (c.toNat - 0x30)) 0)
  else none

/-- The depth that a word names, by a number up to five or in small or capital letters. -/
def depth? (word : List Char) : Option Nat :=
  match number? word with
  | some n => if n ≤ deepest then some n else none
  | none => (depthNames.find? fun entry => entry.1.toList == word.map Char.toLower).map (·.2)

/-- Whether a directive can begin with a character. -/
def opens (c : Char) : Bool :=
  Alphanumeric.isAlphanumeric c || c == '-' || c == ':' || c == '_' || c == '['

/-- How many bytes a text takes. -/
def size (text : List Char) : Nat :=
  (Utf8.encode text).length

/-- Whether no character goes on over a place between two bytes. -/
def isBorder (bytes : Bytes) (place : Nat) : Bool :=
  bytes[place]?.all fun b => b &&& 0xc0 ≠ 0x80

/-- The text from one place between bytes to another. -/
def cut (bytes : Bytes) (start stop : Nat) : Except Defect (List Char) :=
  if isBorder bytes start && isBorder bytes stop then
    .ok (Utf8.lossy ((bytes.drop start).take (stop - start)))
  else .error .torn

/-- What a directive asks of the fields, where it names one. -/
structure Wish where
  /-- The field. -/
  field : List Char
  /-- Whether it asks for a value. -/
  valued : Bool
  deriving DecidableEq, Repr

/-- Reads what is asked of the fields. -/
def wish (text : List Char) : Except Defect Wish :=
  let (field, rest) := text.span fun c => c ≠ '='
  if text = [] then .error .senseless
  else match rest with
    | [] => .ok ⟨field, false⟩
    | _ :: value =>
      if Pattern.isValue (value.takeWhile fun c => c ≠ '=') then .ok ⟨field, true⟩
      else .error .senseless

/-- Reads the depth at the end of a piece, after a target or a part in brackets that ends before
`place`: where none is written it is the deepest. -/
def depthAfter (bytes : Bytes) (place : Nat) : List Char → Except Defect Nat
  | [] => .ok deepest
  | '=' :: _ => do
    let word ← cut bytes (place + 1) bytes.length
    if word = [] then return deepest
    match depth? word with
    | some depth => return depth
    | none => throw .senseless
  | _ => .error .senseless

/-- Reads a part in brackets behind a target, from the place after the opening bracket on. It makes
no directive where it names a span or asks for a value. -/
def bracketed (bytes : Bytes) (target : List Char) (place : Nat) (text : List Char) :
    Except Defect (Option Directive) := do
  let (span, rest) := text.span fun c => c ≠ ']' ∧ c ≠ '{'
  let after := place + size span
  match rest with
  | [] => throw .senseless
  | ']' :: rest =>
    let _ ← cut bytes place after
    let _ ← depthAfter bytes (after + 1) rest
    return none
  | _ :: rest =>
    let span ← cut bytes place after
    let (field, rest) := rest.span fun c => c ≠ '}'
    match rest with
    | [] => throw .senseless
    | _ :: rest =>
      let wish ← wish (← cut bytes (after + 1) (after + 1 + size field))
      match rest with
      | ']' :: rest =>
        let depth ← depthAfter bytes (after + size field + 3) rest
        return if span = [] ∧ !wish.valued then some ⟨target, some wish.field, depth⟩ else none
      | _ => throw .senseless

/-- Reads a piece of the text. Its parts are found in what is left of it without the blanks at its
ends, and are cut, at the same distances from the beginning, out of the whole piece. -/
def directive (piece : List Char) : Except Defect (Option Directive) := do
  let bytes := Utf8.encode piece
  let bare := Blank.trim piece
  if !(bare.take 1).any opens then throw .senseless
  let (head, rest) := bare.span fun c => c ≠ '=' ∧ c ≠ '['
  match rest with
  | [] =>
    match depth? piece with
    | some depth => return some ⟨[], none, depth⟩
    | none => return some ⟨piece, none, deepest⟩
  | '[' :: rest =>
    let target ← cut bytes 0 (size head)
    bracketed bytes target (size head + 1) rest
  | rest =>
    let target ← cut bytes 0 (size head)
    return some ⟨target, none, ← depthAfter bytes (size head) rest⟩

/-- The filter that a text describes. -/
def ofText (text : List Char) : Except Defect Filter := do
  let found ← ((text.splitOn ',').filter (· ≠ [])).mapM directive
  return found.filterMap id

/-- The filter that holds when none is described. -/
def standard (verbose : Bool) : Filter :=
  ⟨[], none, Level.warn.depth⟩ ::
    if verbose then
      ["wrench_headless_core", "wrench_headless_cli"].map fun target =>
        ⟨target.toList, none, Level.debug.depth⟩
    else []

/-- Of a deciding directive so far and the next one that fits, the one that does not give way. -/
def stronger (best : Option Directive) (next : Directive) : Option Directive :=
  match best with
  | none => some next
  | some best => if best.yields next then some next else some best

/-- The directive that decides about an event. -/
def deciding (filter : Filter) (event : Event) : Option Directive :=
  (filter.filter fun directive => directive.fits event).foldl stronger none

/-- Whether an event is shown. -/
def shows (filter : Filter) (event : Event) : Bool :=
  match filter.deciding event with
  | none => false
  | some directive => event.level.depth ≤ directive.depth

/-- The lines of the events that are shown. -/
def lines (filter : Filter) (events : List Event) : List String :=
  (events.filter filter.shows).flatMap Event.lines

end Filter
end Offscreen
