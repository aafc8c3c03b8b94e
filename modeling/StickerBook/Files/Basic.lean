/-!
# Files

The library reads whole files from a disk. A disk works within a monad, so that the same program runs
on a disk in memory and on a real one.
-/

namespace StickerBook.Files
set_option autoImplicit false

/-- Why a file cannot be read. -/
inductive FileError where
  | notFound
  | isDirectory
  | notDirectory
  | nameTooLong
  | nulInName
  | notText
  | other (text : String)
deriving DecidableEq, Repr

/-- The wording of a file error. -/
def FileError.message : FileError → String
  | .notFound => "No such file or directory (os error 2)"
  | .isDirectory => "Is a directory (os error 21)"
  | .notDirectory => "Not a directory (os error 20)"
  | .nameTooLong => "File name too long (os error 36)"
  | .nulInName => "file name contained an unexpected NUL byte"
  | .notText => "stream did not contain valid UTF-8"
  | .other text => text

/-- A disk whose operations run in `m`. -/
structure Disk (m : Type → Type) where
  readBytes : String → m (Except FileError ByteArray)
  isFile : String → m Bool

namespace Disk
variable {m : Type → Type} [Monad m]

/-- The text that bytes hold. -/
def textOf (bytes : ByteArray) : Except FileError String :=
  match String.fromUTF8? bytes with
  | some text => .ok text
  | none => .error .notText

/-- Reads a file of text. -/
def readText (d : Disk m) (path : String) : m (Except FileError String) :=
  (fun bytes => bytes.bind textOf) <$> d.readBytes path

end Disk

/-- The path of `name` within the directory `dir`. An absolute name stands for itself. -/
def joinPath (dir name : String) : String :=
  if name.toList.head? = some '/' then name
  else if dir.isEmpty || dir.toList.getLast? = some '/' then dir ++ name
  else dir ++ "/" ++ name

end StickerBook.Files
