import DeliveryDesk.Decimal.Shortest
import DeliveryDesk.Files.Path

/-!
# Files and directories

A `FileTree` holds the files and directories that a command can reach, each at the location to
which the names of a path lead. Reading, writing and removing a file and making a directory
follow a path to its end; a `FileFault` tells why that failed.
-/

namespace DeliveryDesk

/-- Why a file or directory cannot be used. -/
inductive FileFault where
  | missing
  | denied
  | exists
  | notDirectory
  | isDirectory
  | nameTooLong
deriving DecidableEq, Repr

namespace FileFault

/-- The number of a fault. -/
def number : FileFault → Nat
  | missing => 2
  | denied => 13
  | «exists» => 17
  | notDirectory => 20
  | isDirectory => 21
  | nameTooLong => 36

/-- What a fault is. -/
def reason : FileFault → String
  | missing => "No such file or directory"
  | denied => "Permission denied"
  | «exists» => "File exists"
  | notDirectory => "Not a directory"
  | isDirectory => "Is a directory"
  | nameTooLong => "File name too long"

/-- The text of a fault. -/
def message (f : FileFault) : String :=
  f.reason ++ " (os error " ++ decimalText f.number ++ ")"

/-- Whether a path leads nowhere, rather than to something that cannot be used. -/
def isAbsence (f : FileFault) : Bool := [missing, notDirectory, nameTooLong].contains f

end FileFault

/-- A place in a tree: the names on the way to it from the root, the last one first. -/
abbrev Location : Type := List String

/-- What stands at a location. -/
inductive FileNode where
  | file (text : String)
  | directory
deriving DecidableEq, Repr

/-- Files and directories. -/
structure FileTree where
  files : List (Location × String) := []
  /-- The directories beside those that lead to the working directory. -/
  directories : List Location := []
  workingDirectory : Location := ["work"]
deriving DecidableEq, Repr

namespace FileTree

open Files

/-- What stands at a location, if anything does. -/
def node? (t : FileTree) (l : Location) : Option FileNode :=
  match t.files.lookup l with
  | some text => some (.file text)
  | none =>
    if t.directories.contains l || l.isSuffixOf t.workingDirectory then some .directory else none

/-- Whether a directory stands at a location. -/
def hasDirectory (t : FileTree) (l : Location) : Bool := t.node? l == some .directory

/-- The longest name, in bytes. -/
def maxName : Nat := 255

/-- The shortest path that is too long, in bytes. -/
def pathBound : Nat := 4096

/-- Follows names from a location. -/
def follow (t : FileTree) (l : Location) : List String → Except FileFault Location
  | [] => .ok l
  | name :: rest =>
    if !t.hasDirectory l then .error .notDirectory
    else if name = hereName then t.follow l rest
    else if name = aboveName then t.follow l.tail rest
    else if maxName < name.utf8ByteSize then .error .nameTooLong
    else if (t.node? (name :: l)).isNone then .error .missing
    else t.follow (name :: l) rest

/-- Where a path starts. -/
def start (t : FileTree) (path : String) : Location :=
  if isAbsolute path then [] else t.workingDirectory

/-- Refuses a path that is empty or too long. -/
def checkPath (path : String) : Except FileFault Unit :=
  if path.isEmpty then .error .missing
  else if pathBound ≤ path.utf8ByteSize then .error .nameTooLong
  else .ok ()

/-- The location of what a path leads to. -/
def locate (t : FileTree) (path : String) : Except FileFault Location := do
  checkPath path
  t.follow (t.start path) (names path ++ if endsOpen path then [hereName] else [])

/-- The directory in which a path ends, and the name there. There is no name if the path ends
with points, or at the root. -/
def ending (t : FileTree) (path : String) : Except FileFault (Location × Option String) := do
  checkPath path
  match (names path).getLast? with
  | none => return (t.start path, none)
  | some name =>
    let l ← t.follow (t.start path) (names path).dropLast
    if !t.hasDirectory l then .error .notDirectory
    else return (l, if name = hereName ∨ name = aboveName then none else some name)

/-- Whether a path leads to a directory. -/
def isDirectory (t : FileTree) (path : String) : Bool :=
  match t.locate path with
  | .ok l => t.hasDirectory l
  | .error _ => false

/-- The text of a file. -/
def read (t : FileTree) (path : String) : Except FileFault String := do
  match t.node? (← t.locate path) with
  | some (.file text) => return text
  | some .directory => .error .isDirectory
  | none => .error .missing

/-- The tree without the file at a location. -/
def without (t : FileTree) (l : Location) : FileTree :=
  { t with files := t.files.filter (·.1 != l) }

/-- The tree with a file of the given text. Its directory must exist. -/
def write (t : FileTree) (path text : String) : Except FileFault FileTree := do
  match ← t.ending path with
  | (_, none) => .error .isDirectory
  | (l, some name) =>
    if endsOpen path then .error .isDirectory
    else if maxName < name.utf8ByteSize then .error .nameTooLong
    else if t.hasDirectory (name :: l) then .error .isDirectory
    else return { t with files := (name :: l, text) :: (t.without (name :: l)).files }

/-- The tree without a file. -/
def remove (t : FileTree) (path : String) : Except FileFault FileTree := do
  match ← t.ending path with
  | (_, none) => .error .isDirectory
  | (l, some name) =>
    if maxName < name.utf8ByteSize then .error .nameTooLong
    else
      match t.node? (name :: l) with
      | none => .error .missing
      | some .directory => .error .isDirectory
      | some (.file _) =>
        if endsOpen path then .error .notDirectory else return t.without (name :: l)

/-- The tree with one more directory, in one that exists. -/
def makeDirectory (t : FileTree) (path : String) : Except FileFault FileTree := do
  match ← t.ending path with
  | (_, none) => .error .exists
  | (l, some name) =>
    if maxName < name.utf8ByteSize then .error .nameTooLong
    else if (t.node? (name :: l)).isSome then .error .exists
    else return { t with directories := (name :: l) :: t.directories }

/-- Makes a directory, which may exist already. -/
def ensureDirectory (t : FileTree) (path : String) : Except FileFault FileTree :=
  match t.makeDirectory path with
  | .ok t => .ok t
  | .error f => if t.isDirectory path then .ok t else .error f

/-- Makes directories, each of which lies in the next one; those above the first one that can be
made are left alone. The empty path stands for the working directory, which exists. -/
def ensureDirectories (t : FileTree) : List String → Except FileFault FileTree
  | [] => .error .missing
  | path :: above =>
    if path.isEmpty then .ok t
    else
      match t.ensureDirectory path with
      | .error .missing => do (← t.ensureDirectories above).ensureDirectory path
      | made => made

/-- Makes the directories that a file lies in. -/
def encloseFile (t : FileTree) (path : String) : Except FileFault FileTree :=
  match enclosing path with
  | [] => .ok t
  | directories => t.ensureDirectories directories

/-- The tree with a file, and the directories it lies in, if that is possible. -/
def withFile (t : FileTree) (path text : String) : FileTree :=
  match (t.encloseFile path).bind fun t => t.write path text with
  | .ok t => t
  | .error _ => t

/-- The tree that holds some files. -/
def ofFiles (files : List (String × String)) : FileTree :=
  files.foldl (fun t (path, text) => t.withFile path text) {}

/-- The text of a file, if it can be read. -/
def text? (t : FileTree) (path : String) : Option String :=
  match t.read path with
  | .ok text => some text
  | .error _ => none

end FileTree

end DeliveryDesk
