import ReportGrid.Command.Path
import ReportGrid.Command.Workspace

/-!
# Files in memory

A `Disk` holds the bytes of files by their locations, seen from a working directory.  Nobody knows
how deep the working directory lies or what it is called, so a location counts from some number of
directories above it, or from the root.  A directory is there when a file lies below it.

A path leads through directories to its last part (`Disk.target`).  Reading and writing differ in
what they make of that part:

* a directory cannot be read, and cannot be written either;
* a slash after a name asks a reader for a directory, so a file is none; it refuses a writer before
  anybody looks what the name stands for;
* only a writer may name a file that is not there.

The system may bar a path from either for reasons that the files do not show, such as permissions.
-/

namespace ReportGrid

/-- Where a location counts from: some directories above the working directory, or the root. -/
inductive Base where
  | above (levels : Nat)
  | root
deriving DecidableEq, Repr

/-- A place for a file or a directory: the names on the way down from a base. -/
structure Location where
  base : Base
  names : List (List Char)
deriving DecidableEq, Repr

namespace Location

/-- The working directory. -/
def working : Location :=
  ⟨.above 0, []⟩

/-- The directory around a location; that of the root is the root. -/
def parent (place : Location) : Location :=
  match place with
  | ⟨.above levels, []⟩ => ⟨.above (levels + 1), []⟩
  | ⟨.root, []⟩ => ⟨.root, []⟩
  | ⟨base, names⟩ => ⟨base, names.dropLast⟩

/-- The location with a name in a directory. -/
def child (place : Location) (name : List Char) : Location :=
  { place with names := place.names ++ [name] }

/-- Whether a location lies below a directory. -/
def isBelow (place directory : Location) : Bool :=
  place.base = directory.base && directory.names.isPrefixOf place.names &&
    place.names ≠ directory.names

end Location

/-- What is done with a file. -/
inductive Access where
  | reading
  | writing
deriving DecidableEq, Repr

/-- Files in memory by their locations, what standard input holds, what has been printed, and the
paths that are barred, each with the error that it gives. -/
structure Disk where
  files : List (Location × ByteArray)
  input : ByteArray
  printed : String
  barred : Access → String → Option FileError

/-- Where a path leads: to a directory, or to a name in one. -/
inductive Target where
  | directory (place : Location)
  | entry (directory : Location) (name : List Char)
deriving DecidableEq, Repr

namespace Disk

/-- The disk with some files by their paths, and with some standard input.  No path is barred. -/
def ofFiles (files : List (String × ByteArray)) (input : ByteArray) : Disk :=
  ⟨files.map fun file => (⟨.above 0, Path.parts file.1⟩, file.2), input, "", fun _ _ => none⟩

/-- Asks whether a path is barred. -/
def grant (disk : Disk) (access : Access) (path : String) : Except FileError Unit :=
  (disk.barred access path).elim (.ok ()) .error

/-- The bytes of a file. -/
def bytes? (disk : Disk) (place : Location) : Option ByteArray :=
  disk.files.lookup place

/-- Whether a location is a directory. -/
def isDirectory (disk : Disk) (place : Location) : Bool :=
  place.names.isEmpty || disk.files.any fun file => file.1.isBelow place

/-- Goes from a directory to the directory with a name in it. -/
def descend (disk : Disk) (place : Location) (name : List Char) : Except FileError Location :=
  if Path.isLongName name then .error .nameTooLong
  else if disk.isDirectory (place.child name) then .ok (place.child name)
  else if (disk.bytes? (place.child name)).isSome then .error .notDirectory
  else .error .notFound

/-- Goes one part on from a directory to a directory. -/
def enter (disk : Disk) (place : Location) (part : List Char) : Except FileError Location :=
  if part = Path.here then .ok place
  else if part = Path.up then .ok place.parent
  else disk.descend place part

/-- Goes through directories. -/
def walk (disk : Disk) : Location → List (List Char) → Except FileError Location
  | place, [] => .ok place
  | place, part :: rest => do
    walk disk (← disk.enter place part) rest

/-- Where a path leads. -/
def target (disk : Disk) (path : String) : Except FileError Target :=
  let start : Location := if Path.isAbsolute path then ⟨.root, []⟩ else .working
  let parts := Path.parts path
  if path.toList.contains '\x00' then .error .nulInName
  else if path = "" then .error .notFound
  else if Path.longestPath < path.utf8ByteSize then .error .nameTooLong
  else
    match parts.getLast? with
    | none => .ok (.directory start)
    | some part =>
      if Path.isName part then
        (disk.walk start parts.dropLast).map fun directory => .entry directory part
      else (disk.walk start parts).map .directory

/-- The bytes of the file that a path leads to. -/
def read (disk : Disk) (path : String) : Except FileError ByteArray := do
  disk.grant .reading path
  match ← disk.target path with
  | .directory _ => .error .isDirectory
  | .entry directory name =>
    if Path.isLongName name then .error .nameTooLong
    else if disk.isDirectory (directory.child name) then .error .isDirectory
    else
      match disk.bytes? (directory.child name) with
      | none => .error .notFound
      | some bytes => if Path.endsWithSlash path then .error .notDirectory else .ok bytes

/-- The location that a path gives a file that is to be written. -/
def destination (disk : Disk) (path : String) : Except FileError Location := do
  disk.grant .writing path
  match ← disk.target path with
  | .directory _ => .error .isDirectory
  | .entry directory name =>
    if Path.endsWithSlash path then .error .isDirectory
    else if Path.isLongName name then .error .nameTooLong
    else if disk.isDirectory (directory.child name) then .error .isDirectory
    else .ok (directory.child name)

/-- Sets the bytes of a file. -/
def put (disk : Disk) (place : Location) (bytes : ByteArray) : Disk :=
  { disk with files := (place, bytes) :: disk.files.filter fun file => file.1 ≠ place }

/-- Writes a text to a file. -/
def write (disk : Disk) (path text : String) : Except FileError Disk :=
  (disk.destination path).map fun place => disk.put place text.toUTF8

/-- The operations of a run on files in memory. -/
def workspace : Workspace (StateM Disk) where
  readFile path := do return (← get).read path
  readInput := do return (← get).input
  writeFile path text := do
    match (← get).write path text with
    | .ok disk => do
      set disk
      return .ok ()
    | .error e => return .error e
  print text := modify fun disk => { disk with printed := disk.printed ++ text }
  note _ := pure ()

end Disk

end ReportGrid
