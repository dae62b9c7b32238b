import GameBoy.Word

/-!
# Files

The command line reads and writes whole files by path. Where the files are is left
open: any monad with the two operations will do.
-/

namespace GameBoy.CommandLine

/-- Why a file was not read or written. -/
inductive FileError where
  | notFound
  | notDirectory
  | isDirectory
  | noSpace
  | nameTooLong
  | zeroInPath
  | outOfMemory
  | other (text : String)
  deriving DecidableEq, Repr

/-- The reason in words, with the system's number for it where it has one. -/
def FileError.message : FileError → String
  | .notFound => "No such file or directory (os error 2)"
  | .notDirectory => "Not a directory (os error 20)"
  | .isDirectory => "Is a directory (os error 21)"
  | .noSpace => "No space left on device (os error 28)"
  | .nameTooLong => "File name too long (os error 36)"
  | .zeroInPath => "file name contained an unexpected NUL byte"
  | .outOfMemory => "out of memory"
  | .other text => text

/-- Access to files by path. -/
class FileAccess (m : Type → Type) where
  read : String → m (Except FileError (Array Byte))
  write : String → Array Byte → m (Except FileError Unit)

end GameBoy.CommandLine
