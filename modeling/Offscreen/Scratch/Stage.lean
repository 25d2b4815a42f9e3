import Offscreen.EnvFile
import Offscreen.Scratch.Walk
import Offscreen.Session

/-!
# A machine made of a tree

A stage is a machine that holds a tree of files: what can be read is read from the tree, and a
program that is started is one of the programs that stand in it. Each call of a program is recorded
with the environment that the program found.
-/

namespace Offscreen.Scratch
set_option autoImplicit false

/-- A call of a program. -/
structure Call where
  /-- The label of the program. -/
  program : Bytes
  /-- The words that it was given. -/
  args : List Bytes
  /-- The variables that it found set. -/
  environment : Variables

/-- A machine made of a tree. -/
structure Stage where
  /-- The files. -/
  tree : Tree
  /-- The calls so far, in order. -/
  calls : List Call
  /-- What programs have printed so far. -/
  output : Bytes

/-- The modification time of what is put into a tree without one. -/
def standardTime : Instant := ⟨1000000000, 0⟩

/-- The modification time of what programs write, later than those that are put into a tree. -/
def writingTime : Instant := ⟨1800000000, 0⟩

namespace Tree

/-- The tree that holds nothing but the directories on the way to a location. -/
def upTo (location : Location) : Tree :=
  let ways := (List.range location.length).map fun n => location.take (n + 1)
  ⟨ways.map fun way => ⟨way, .directory, standardTime⟩, location, writingTime⟩

/-- The names of a path, without those that name nothing. -/
def pathNames (path : Bytes) : List Bytes :=
  (path.splitOn slash).filter fun name => name ≠ [] ∧ name ≠ [dot]

/-- Makes the directories that are missing along some names, and says where they lead. -/
def makeDirectories (tree : Tree) (position : Location) : List Bytes → Option (Tree × Location)
  | [] => some (tree, position)
  | name :: rest =>
    match tree.walk true linkLimit position [name] with
    | .ok (.found location .directory) => tree.makeDirectories location rest
    | .ok (.vacant location) =>
      (tree.put ⟨location, .directory, standardTime⟩).makeDirectories location rest
    | _ => none

/-- Puts a node to the end of a path below a directory, with the directories that are missing on
the way. A directory that is there already gets the modification time. -/
def plant (tree : Tree) (base : Location) (path : Bytes) (node : Node) (modified : Instant) :
    Tree :=
  let names := pathNames path
  match tree.makeDirectories base names.dropLast, names.getLast? with
  | some (tree, parent), some name =>
    match node, tree.walk true linkLimit parent [name] with
    | .directory, .ok (.found location .directory) => tree.touch location modified
    | _, _ => tree.put ⟨parent ++ [name], node, modified⟩
  | _, _ => tree

/-- Makes a directory below another one the working directory. -/
def enter (tree : Tree) (base : Location) (path : Bytes) : Tree :=
  match tree.makeDirectories base (pathNames path) with
  | some (tree, location) => { tree with working := location }
  | none => tree

/-- Gives what a path below a directory leads to a modification time. -/
def touchPath (tree : Tree) (base : Location) (path : Bytes) (modified : Instant) : Tree :=
  match tree.walk true linkLimit base (path.splitOn slash) with
  | .ok (.found location _) => tree.touch location modified
  | _ => tree

/-- Takes away what a path below a directory names. -/
def removePath (tree : Tree) (base : Location) (path : Bytes) : Tree :=
  match tree.walk false linkLimit base (path.splitOn slash) with
  | .ok (.found location _) => tree.remove location
  | _ => tree

/-- Writes a file as a program does. A new file leaves its mark on its directory too. -/
def write (tree : Tree) (path content : Bytes) : Tree :=
  match tree.arrive true path with
  | .ok (.found location (.file _ executable)) =>
    tree.put ⟨location, .file content executable, tree.clock⟩
  | .ok (.found location (.program _)) => tree.put ⟨location, .file content true, tree.clock⟩
  | .ok (.vacant location) =>
    (tree.put ⟨location, .file content false, tree.clock⟩).touch location.dropLast tree.clock
  | _ => tree

/-- What can be read of a tree. -/
def files (tree : Tree) : Files where
  list path :=
    match tree.resolve path with
    | .error cause => .error cause
    | .ok (location, .directory) =>
      .ok ((tree.children location).filterMap fun name =>
        if h : slash ∉ name then some (.ok ⟨name, h⟩) else none)
    | .ok _ => .error .notDirectory
  modified path :=
    match tree.resolve path with
    | .error cause => .error cause
    | .ok (location, _) => .ok (((tree.entry? location).map (·.modified)).getD standardTime)
  read path :=
    match tree.resolve path with
    | .error cause => .error cause
    | .ok (_, .file content _) => .ok [content]
    | .ok (_, .program _) => .ok []
    | .ok _ => .error .isDirectory

/-- The content of the file of variables in the first of some directories that has one. -/
def variablesIn (tree : Tree) : List Location → Option Bytes
  | [] => none
  | directory :: rest =>
    match tree.walk true linkLimit directory [EnvFile.fileName] with
    | .ok (.found _ (.file content _)) => some content
    | .ok (.found _ (.program _)) => some []
    | .ok _ | .error (.os 2) => tree.variablesIn rest
    | .error _ => none

/-- The content of the file of variables that holds in the working directory: its own, or that of
the nearest directory above it. -/
def variablesFile? (tree : Tree) : Option Bytes :=
  tree.variablesIn
    ((List.range (tree.working.length + 1)).reverse.map fun n => tree.working.take n)

/-- How much room a word for a program may take, and so a variable with its value. -/
def wordLimit : Nat := 131072

/-- How much room all that is handed to a program may take. -/
def handoverLimit : Nat := 2097152

/-- How much room a word takes: a NUL byte ends it. -/
def room (word : Bytes) : Nat := word.length + 1

/-- How much room the mark of a word takes that says where the word stands. -/
def markRoom : Nat := 8

/-- What a program is handed: its name and its words, and its variables, each as one word. -/
def handover (command : Command) (environment : Variables) : List Bytes :=
  command.words ++ environment.entries.map fun (name, value) => name ++ equals :: value

/-- How much room words take together with their marks. -/
def roomOfAll (words : List Bytes) : Nat :=
  words.foldl (fun total word => total + room word + markRoom) 0

/-- Whether a program can be handed some words. Its name is handed over a second time. -/
def fits (program : Bytes) (words : List Bytes) : Bool :=
  words.all (fun word => room word ≤ wordLimit) &&
    roomOfAll words + room program ≤ handoverLimit

/-- The directory that programs without a slash in their names are searched in. -/
def searchDirectory : Bytes := Bytes.ascii "bin"

/-- The path of the file that a program is started from. -/
def programPath (program : Bytes) : Except IoFault Bytes :=
  if slash ∈ program then .ok program
  else if program = [] then .error .notFound
  else if nameLimit < program.length then .error .nameTooLong
  else .ok (Path.join searchDirectory program)

/-- The program that a command starts with some variables. What it is handed is judged before it is
looked into. -/
def programOf (tree : Tree) (command : Command) (environment : Variables) :
    Except IoFault Program := do
  let path ← programPath command.program
  let handed := fits path (handover command environment)
  match ← tree.resolve path with
  | (_, .program program) => if handed then return program else throw .wordsTooLong
  | (_, .file _ true) => throw (if handed then .notExecutable else .wordsTooLong)
  | _ => throw .permissionDenied

end Tree

/-- How a program ends that is given some words. -/
def Program.status (program : Program) (args : List Bytes) : WaitStatus :=
  if (program.failOn.map (!args.contains ·)).getD false then .exited 0
  else match program.signal with
    | some signal => .killed signal
    | none => .exited program.exit

namespace Stage

/-- A stage on which nothing has been called. -/
def of (tree : Tree) : Stage := ⟨tree, [], []⟩

/-- Starts the program of a command, and waits for its end. -/
def launch (inherited : Variables) (command : Command) (stage : Stage) :
    Except IoFault WaitStatus × Stage :=
  let environment := inherited.inheritedBy command
  match stage.tree.programOf command environment with
  | .error cause => (.error cause, stage)
  | .ok program =>
    let call : Call := ⟨program.label, command.args, environment⟩
    let tree := program.writes.foldl (fun tree file => tree.write file.1 file.2) stage.tree
    (.ok (program.status command.args),
      ⟨tree, stage.calls ++ [call], stage.output ++ program.stdout⟩)

/-- A stage as a machine whose programs inherit some variables. -/
def host (inherited : Variables) : Host Stage where
  files stage := stage.tree.files
  launch := launch inherited

end Stage
end Offscreen.Scratch
