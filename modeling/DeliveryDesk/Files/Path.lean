import DeliveryDesk.Text.Blank

/-!
# Paths

A path names a file or directory by the names on the way to it, with slashes between them. It
starts at the root if a slash stands first, and at the working directory otherwise. Doubled
slashes do not matter, a slash at the end says that a directory is meant, one point stands for
the directory it is in, and two points for the one above.
-/

namespace DeliveryDesk.Files

open Text

/-- The name for the directory that it is in. -/
def hereName : String := "."

/-- The name for the directory above. -/
def aboveName : String := ".."

/-- What stands between the slashes of a path. -/
def parts (path : String) : List String := (splitAt '/' path.toList).map String.ofList

/-- The names of a path. -/
def names (path : String) : List String := (parts path).filter (· != "")

/-- Whether a path starts at the root. -/
def isAbsolute (path : String) : Bool := path.toList.head? == some '/'

/-- Whether a path says at its end that a directory is meant. -/
def endsOpen (path : String) : Bool := path.toList.getLast? == some '/'

/-! ## The directory that a path lies in -/

/-- Whether a part of a path, not being the first one, names nothing. -/
def isIdle (part : String) : Bool := part == "" || part == hereName

/-- The parts of a path, from the last one on, without those at the end that name nothing. -/
def dropIdle : List String → List String
  | part :: more :: rest =>
    if isIdle part then dropIdle (more :: rest) else part :: more :: rest
  | rest => rest

/-- The path of some parts, which are given from the last one on. -/
def pathOf (reversed : List String) : String :=
  if reversed = [""] then "/" else join "/" reversed.reverse

/-- The directories on the way to the path of some parts, given from the last one on; the nearest
directory comes first. A path that is one name lies in the working directory, the root and the
empty path lie nowhere. -/
def directoriesAbove : List String → List String
  | [] => []
  | [""] => []
  | [_] => [""]
  | part :: more :: rest =>
    let above := directoriesAbove (more :: rest)
    if isIdle part then above else pathOf (dropIdle (more :: rest)) :: above

/-- The directories that a file lies in, the nearest one first. -/
def enclosing (path : String) : List String := directoriesAbove (parts path).reverse

/-- A path below a directory. -/
def below (directory name : String) : String :=
  if directory.isEmpty || endsOpen directory then directory ++ name
  else directory ++ "/" ++ name

end DeliveryDesk.Files
