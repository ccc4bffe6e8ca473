import ReportGrid.Text

/-!
# Paths

A path names a file from the working directory on, or from the root when it starts with a slash.
Its parts stand between slashes.  A single dot stays where it is and two dots go up; every other
part is a name.
-/

namespace ReportGrid.Path

/-- The parts of a path; nothing between two slashes is no part. -/
def parts (path : String) : List (List Char) :=
  (Text.splitOn ['/'] path.toList).filter (· ≠ [])

/-- Whether a path starts at the root. -/
def isAbsolute (path : String) : Bool :=
  path.toList.head? = some '/'

/-- Whether a path ends with a slash, so that only a directory may stand there. -/
def endsWithSlash (path : String) : Bool :=
  path.toList.getLast? = some '/'

/-- The part that stays in a directory. -/
def here : List Char :=
  ['.']

/-- The part that goes up to the directory around. -/
def up : List Char :=
  ['.', '.']

/-- Whether a part is a name. -/
def isName (part : List Char) : Bool :=
  part ≠ here && part ≠ up

/-- Whether a path is the sign for standard input, also with parts after it that stay there. -/
def isStandardInput (path : String) : Bool :=
  match parts path with
  | first :: rest => !isAbsolute path && first = ['-'] && rest.all (· = here)
  | [] => false

/-- The longest name of a file, in bytes. -/
def longestName : Nat := 255

/-- The longest path, in bytes. -/
def longestPath : Nat := 4095

/-- Whether a name is too long for a file. -/
def isLongName (name : List Char) : Bool :=
  longestName < (String.ofList name).utf8ByteSize

end ReportGrid.Path
