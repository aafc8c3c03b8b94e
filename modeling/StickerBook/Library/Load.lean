import StickerBook.Files.Basic
import StickerBook.Library.File

/-!
# Loading libraries

A library is loaded from a file on a disk.
-/

namespace StickerBook
set_option autoImplicit false
open Files (Disk FileError)

/-- Why a library cannot be loaded. -/
inductive LoadError where
  | unreadable (path : String) (cause : FileError)
  | malformed (path : String) (defect : Json.Defect)
deriving DecidableEq, Repr

/-- The wording of a load error. -/
def LoadError.message : LoadError → String
  | .unreadable path cause => "failed to read library " ++ path ++ ": " ++ cause.message
  | .malformed path _ => "malformed library " ++ path

/-- Loads the library file at a path. -/
def Library.load {m : Type → Type} [Monad m] (disk : Disk m) (path : String) :
    m (Except LoadError Library) := do
  match ← disk.readText path with
  | .error cause => return .error (.unreadable path cause)
  | .ok text => return (Library.ofJson text).mapError (.malformed path)

end StickerBook
