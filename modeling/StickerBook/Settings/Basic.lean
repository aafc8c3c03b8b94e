import StickerBook.Files.Basic
import StickerBook.Library.Basic

/-!
# Settings

What a user can set: where the library lies, how many rows a result page has, how long a command waits
for a lookup, and what is logged.
-/

namespace StickerBook
set_option autoImplicit false
open Files (FileError joinPath)

/-- The settings. Waiting times count milliseconds. -/
structure Settings where
  stickerDir : Option String := none
  pageSize : Nat := Library.defaultPageSize
  timeoutMs : Nat := 2000
  logFilter : Option String := none
deriving DecidableEq, Repr

/-- The directories of a user in which programs keep their settings and their data. -/
structure UserDirs where
  config : Option String
  data : Option String
deriving DecidableEq, Repr

/-- The name of the program within those directories. -/
def programDir : String := "stickyard"

namespace UserDirs

/-- The settings file that is read if no other is asked for. -/
def settingsPath (dirs : UserDirs) : Option String :=
  dirs.config.map fun dir => joinPath (joinPath dir programDir) "config.toml"

end UserDirs

namespace Settings

/-- The directory of the stickers. -/
def stickerDirIn (s : Settings) (dirs : UserDirs) : Option String :=
  s.stickerDir <|> dirs.data.map fun dir => joinPath dir programDir

/-- The path of the library file. -/
def libraryPathIn (s : Settings) (dirs : UserDirs) : Option String :=
  (s.stickerDirIn dirs).map fun dir => joinPath dir "library.json"

end Settings

/-- Why settings cannot be used. -/
inductive SettingsError where
  | malformed (path : String)
  | unreadable (path : String) (cause : FileError)
  | zeroPageSize
deriving DecidableEq, Repr

/-- The wording of a settings error. -/
def SettingsError.message : SettingsError → String
  | .malformed path => "TOML parse error in " ++ path
  | .unreadable path cause => "I/O error reading " ++ path ++ ": " ++ cause.message
  | .zeroPageSize => "invalid value for search.page-size: must be at least 1"

end StickerBook
