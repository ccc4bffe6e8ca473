/-!
# What a run needs

A run reads and writes through a `Workspace`: the few operations that it needs, in any monad.  The
command line provides one over the real files, and `Disk.workspace` is one over files in memory.
-/

namespace ReportGrid

/-- Why a file cannot be read or written. -/
inductive FileError where
  | notFound
  | notDirectory
  | isDirectory
  | nameTooLong
  | nulInName
  | notText
  | other (message : String)
deriving DecidableEq, Repr

/-- The message for a reader, with the number of the operating system where there is one. -/
def FileError.message : FileError → String
  | .notFound => "No such file or directory (os error 2)"
  | .notDirectory => "Not a directory (os error 20)"
  | .isDirectory => "Is a directory (os error 21)"
  | .nameTooLong => "File name too long (os error 36)"
  | .nulInName => "file name contained an unexpected NUL byte"
  | .notText => "stream did not contain valid UTF-8"
  | .other message => message

/-- The operations of a run on files, standard input, standard output and its log. -/
structure Workspace (m : Type → Type) where
  readFile : String → m (Except FileError ByteArray)
  readInput : m ByteArray
  writeFile : String → String → m (Except FileError Unit)
  print : String → m Unit
  note : String → m Unit

/-- Bytes as text. -/
def decodeText (bytes : ByteArray) : Except FileError String :=
  (String.fromUTF8? bytes).elim (.error .notText) .ok

end ReportGrid
