import Offscreen.Text.Blank
import Offscreen.Text.CodePoints

/-!
# Patterns

A filter may ask a field for a value, and says so by a number or by a pattern, a regular expression.
No value is ever compared here; what counts is whether a pattern makes sense. `isPattern` decides
that. Patterns work on characters unless a flag says bytes, they know no table of characters beyond
ASCII, so nothing that would need one makes sense, and they find no borders between words of all
scripts.
-/

namespace Offscreen.Pattern
set_option autoImplicit false

/-- How the next characters of a pattern are taken. -/
structure Flags where
  /-- Whether a pattern works on characters, not on bytes. -/
  characters : Bool
  /-- Whether capitals and small letters count as the same. -/
  caseless : Bool
  /-- Whether blanks and comments are passed over. -/
  spaced : Bool
  deriving DecidableEq, Repr

/-- The flags at the beginning of a pattern. -/
def Flags.standard : Flags := ⟨true, false, false⟩

/-- The letters of all flags. -/
def flagLetters : List Char := ['i', 'm', 's', 'U', 'u', 'R', 'x']

/-- Sets a flag by its letter. What the other letters set has no part in whether a pattern makes
sense. -/
def Flags.put (flags : Flags) (letter : Char) (value : Bool) : Flags :=
  if letter = 'u' then { flags with characters := value }
  else if letter = 'i' then { flags with caseless := value }
  else if letter = 'x' then { flags with spaced := value }
  else flags

/-- Passes over blanks and comments. -/
def skipBlank (inComment : Bool) : List Char → List Char
  | [] => []
  | c :: rest =>
    if inComment then skipBlank (c ≠ '\n') rest
    else if Blank.isBlank c then skipBlank false rest
    else if c = '#' then skipBlank true rest
    else c :: rest

/-- Passes over what the flags let pass. -/
def Flags.skip (flags : Flags) (text : List Char) : List Char :=
  if flags.spaced then skipBlank false text else text

/-- Something that matches at one place. -/
inductive Atom where
  /-- A character, or a byte that is named by its number. -/
  | literal (c : Char) (isByte : Bool)
  /-- A class of characters that has a letter of its own, or all others. -/
  | family (negated : Bool)
  /-- A border between words. -/
  | wordBorder
  /-- The beginning or the end. -/
  | anchor
  deriving DecidableEq, Repr

/-- The value of a hexadecimal digit. -/
def hexDigit? (c : Char) : Option Nat :=
  if c.isDigit then some (c.toNat - 0x30)
  else if 'a' ≤ c ∧ c ≤ 'f' then some (c.toNat - 0x61 + 10)
  else if 'A' ≤ c ∧ c ≤ 'F' then some (c.toNat - 0x41 + 10)
  else none

/-- The value of hexadecimal digits. -/
def hexValue? (digits : List Char) : Option Nat :=
  digits.foldlM (fun value c => (hexDigit? c).map (value * 16 + ·)) 0

/-- A character that is named by `count` hexadecimal digits, and what follows. -/
def numbered? (count : Nat) (text : List Char) : Option (Char × List Char) :=
  if text.length < count then none
  else do
    let value ← hexValue? (text.take count)
    if value.isValidChar then some (Char.ofNat value, text.drop count) else none

/-- What stands for itself after a backslash: every sign of ASCII that is neither letter nor
digit, but for the angles. -/
def plainEscape (c : Char) : Bool :=
  c.toNat < 0x80 && !c.isAlphanum && c ≠ '<' && c ≠ '>'

/-- What a backslash and the next characters stand for. A reference back to a group, and a class
that is named, make no sense. -/
def escape? : List Char → Option (Atom × List Char)
  | [] => none
  | c :: rest =>
    if c = 'x' then (numbered? 2 rest).map fun (d, rest) => (.literal d true, rest)
    else if c = 'u' then (numbered? 4 rest).map fun (d, rest) => (.literal d false, rest)
    else if c = 'U' then (numbered? 8 rest).map fun (d, rest) => (.literal d false, rest)
    else if c ∈ ['d', 's', 'w'] then some (.family false, rest)
    else if c ∈ ['D', 'S', 'W'] then some (.family true, rest)
    else if c ∈ ['b', 'B', '<', '>'] then some (.wordBorder, rest)
    else if c ∈ ['A', 'z'] then some (.anchor, rest)
    else if c = 'a' then some (.literal '\x07' false, rest)
    else if c = 'f' then some (.literal '\x0c' false, rest)
    else if c = 't' then some (.literal '\t' false, rest)
    else if c = 'n' then some (.literal '\n' false, rest)
    else if c = 'r' then some (.literal '\r' false, rest)
    else if c = 'v' then some (.literal '\x0b' false, rest)
    else if plainEscape c then some (.literal c false, rest)
    else none

/-- Whether something makes sense outside a class. -/
def Atom.sensible (flags : Flags) : Atom → Bool
  | .literal c isByte =>
    if flags.characters then !flags.caseless else !isByte || c.toNat < 0x80
  | .family negated => !flags.characters && !negated
  | .wordBorder => !flags.characters
  | .anchor => true

/-- Whether something makes sense inside a class. -/
def Atom.sensibleInClass (flags : Flags) : Atom → Bool
  | .literal c _ => flags.characters || c.toNat < 0x80
  | .family negated => !flags.characters && !negated
  | .wordBorder | .anchor => false

/-- The names of the classes of ASCII characters. -/
def classNames : List String :=
  ["alnum", "alpha", "ascii", "blank", "cntrl", "digit", "graph", "lower", "print", "punct",
    "space", "upper", "word", "xdigit"]

/-- What follows a class of ASCII characters that is written by its name, and whether it stands for
all others. -/
def namedClass? (text : List Char) : Option (Bool × List Char) :=
  match text with
  | '[' :: ':' :: rest =>
    let negated := rest.head? = some '^'
    let rest := if negated then rest.tail else rest
    let (name, rest) := rest.span fun c => c ≠ ':'
    match rest with
    | ':' :: ']' :: rest =>
      if name ∈ classNames.map String.toList then some (negated, rest) else none
    | _ => none
  | _ => none

/-- What follows the opening of a class: a mark that it stands for all others, then hyphens, or one
closing bracket, that stand for themselves. Bytes of all others make no text. -/
def openClass? (flags : Flags) (text : List Char) : Option (List Char) :=
  let text := flags.skip text
  let negated := text.head? = some '^'
  let text := if negated then flags.skip text.tail else text
  if negated && !flags.characters then none
  else
    let hyphens := text.takeWhile fun c => c = '-' ∨ (flags.spaced ∧ Blank.isBlank c)
    let text := flags.skip (text.drop hyphens.length)
    if hyphens = [] ∧ text.head? = some ']' then some (flags.skip text.tail) else some text

/-- One member of a class. -/
def member? : List Char → Option (Atom × List Char)
  | [] => none
  | '\\' :: rest => escape? rest
  | c :: rest => some (.literal c false, rest)

/-- What follows a member of a class, or a range from one to another that does not lie before it. -/
def range? (flags : Flags) (text : List Char) : Option (List Char) := do
  let (first, rest) ← member? text
  let rest := flags.skip rest
  let next := (flags.skip rest.tail).head?
  if rest.head? ≠ some '-' ∨ next = some ']' ∨ next = some '-' then
    if first.sensibleInClass flags then some rest else none
  else
    let (last, rest) ← member? (flags.skip rest.tail)
    match first, last with
    | .literal a _, .literal b _ =>
      if a ≤ b ∧ first.sensibleInClass flags ∧ last.sensibleInClass flags then some rest else none
    | _, _ => none

/-- What follows a class, of which `depth` brackets are open. Each step takes a character at
least, so `fuel` steps are enough for a text of that length. -/
def classEnd? (flags : Flags) : Nat → Nat → List Char → Option (List Char)
  | 0, _, _ => none
  | fuel + 1, depth, text =>
    match flags.skip text with
    | [] => none
    | '[' :: rest =>
      match namedClass? ('[' :: rest) with
      | some (negated, rest) =>
        if negated && !flags.characters then none else classEnd? flags fuel depth rest
      | none => (openClass? flags rest).bind (classEnd? flags fuel (depth + 1))
    | ']' :: rest => if depth ≤ 1 then some rest else classEnd? flags fuel (depth - 1) rest
    | '&' :: '&' :: rest | '-' :: '-' :: rest | '~' :: '~' :: rest =>
      classEnd? flags fuel depth rest
    | text => (range? flags text).bind (classEnd? flags fuel depth)

/-- What follows a class, after its opening bracket. -/
def class? (flags : Flags) (text : List Char) : Option (List Char) :=
  if flags.characters && flags.caseless then none
  else (openClass? flags text).bind (classEnd? flags (text.length + 1) 1)

/-- Where a pattern has been read to. -/
structure Progress where
  /-- The flags that hold now. -/
  flags : Flags
  /-- The flags that held around each open group, the innermost first. -/
  groups : List Flags
  /-- Whether there is something before that can be repeated. -/
  operand : Bool
  /-- The names of groups. -/
  names : List (List Char)
  deriving DecidableEq, Repr

namespace Progress

/-- Nothing has been read. -/
def start : Progress := ⟨.standard, [], false, []⟩

/-- Goes on behind something that can be repeated. -/
def behind (progress : Progress) : Progress :=
  { progress with operand := true }

/-- Opens a group whose inside is taken with some flags. -/
def enter (progress : Progress) (flags : Flags) : Progress :=
  { progress with flags := flags, groups := progress.flags :: progress.groups, operand := false }

/-- Closes a group. -/
def leave? (progress : Progress) : Option Progress :=
  match progress.groups with
  | [] => none
  | flags :: groups => some { progress with flags := flags, groups := groups, operand := true }

end Progress

/-- The flags after their letters, the mark that ends the letters, and what follows. No letter
stands twice, and one hyphen may stand before those that are taken away. -/
def flags? (seen : List Char) (flags : Flags) : List Char → Option (Flags × Char × List Char)
  | [] => none
  | c :: rest =>
    if c = ':' ∨ c = ')' then
      if seen.head? = some '-' then none else some (flags, c, rest)
    else if c ∈ seen ∨ (c ≠ '-' ∧ c ∉ flagLetters) then none
    else flags? (c :: seen) (if c = '-' then flags else flags.put c ('-' ∉ seen)) rest

/-- Whether a character can stand in the name of a group. -/
def inGroupName (c : Char) : Bool :=
  c ∈ ['_', '.', '[', ']'] || Alphanumeric.isAlphanumeric c

/-- Whether the name of a group can begin with a character. -/
def opensGroupName (c : Char) : Bool :=
  c = '_' || (Alphanumeric.isAlphanumeric c && !c.isDigit)

/-- Reads the name of a group, which no other group has. -/
def named? (progress : Progress) (text : List Char) : Option (Progress × List Char) :=
  let (name, rest) := text.span fun c => c ≠ '>'
  if rest ≠ [] ∧ (name.take 1).any opensGroupName ∧ name.all inGroupName ∧
      name ∉ progress.names then
    some ({ progress.enter progress.flags with names := name :: progress.names }, rest.tail)
  else none

/-- Reads what follows an opening parenthesis: a group with a name, with flags or with neither, or
flags alone for the rest of the group around. -/
def group? (progress : Progress) (text : List Char) : Option (Progress × List Char) :=
  match progress.flags.skip text with
  | '?' :: 'P' :: '<' :: rest | '?' :: '<' :: rest => named? progress rest
  | '?' :: rest => do
    let (flags, mark, after) ← flags? [] progress.flags rest
    if mark = ':' then some (progress.enter flags, after)
    else if rest.head? = some ')' then none
    else some ({ progress with flags := flags, operand := false }, after)
  | text => some (progress.enter progress.flags, text)

/-- Reads the next part of a pattern, after what the flags let pass. Braces would count
repetitions, and one that opens is never closed in a filter. -/
def step? (progress : Progress) (c : Char) (rest : List Char) : Option (Progress × List Char) :=
  if c = '(' then group? progress rest
  else if c = ')' then progress.leave?.map fun progress => (progress, rest)
  else if c = '|' then some ({ progress with operand := false }, rest)
  else if c = '[' then (class? progress.flags rest).map fun rest => (progress.behind, rest)
  else if c = '?' ∨ c = '*' ∨ c = '+' then
    if progress.operand then
      some (progress, if rest.head? = some '?' then rest.tail else rest)
    else none
  else if c = '{' then none
  else if c = '.' then if progress.flags.characters then some (progress.behind, rest) else none
  else if c = '^' ∨ c = '$' then some (progress.behind, rest)
  else do
    let (atom, rest) ← if c = '\\' then escape? rest else some (.literal c false, rest)
    if atom.sensible progress.flags then some (progress.behind, rest) else none

/-- Reads a pattern to its end. Each step takes a character at least, so `fuel` steps are enough
for a text of that length. -/
def run (progress : Progress) : Nat → List Char → Bool
  | 0, _ => false
  | fuel + 1, text =>
    match progress.flags.skip text with
    | [] => progress.groups.isEmpty
    | c :: rest =>
      match step? progress c rest with
      | none => false
      | some (progress, rest) => run progress fuel rest

/-- Whether a text makes sense as a pattern. -/
def isPattern (text : List Char) : Bool :=
  run .start (text.length + 1) text

/-- A text without the sign that it begins with. -/
def unsigned (text : List Char) : List Char :=
  match text with
  | '+' :: rest | '-' :: rest => rest
  | _ => text

/-- Whether a text is digits and no other character, one at least. -/
def isDigits (text : List Char) : Bool :=
  !text.isEmpty && text.all Char.isDigit

/-- Whether a text is a number: digits with a point and an exponent or without, or the word for
none or for one without end. -/
def isNumber (text : List Char) : Bool :=
  let body := unsigned text
  let word := body.map Char.toLower
  if word ∈ ["nan", "inf", "infinity"].map String.toList then true
  else
    let (mantissa, exponent) := body.span fun c => c ≠ 'e' ∧ c ≠ 'E'
    let (whole, fraction) := mantissa.span fun c => c ≠ '.'
    isDigits (whole ++ fraction.tail) && (exponent.isEmpty || isDigits (unsigned exponent.tail))

/-- Whether a text makes sense as what a field is asked for. -/
def isValue (text : List Char) : Bool :=
  isNumber text || isPattern text

end Offscreen.Pattern
