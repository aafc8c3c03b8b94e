import StickerBook.CommandLine.Run

/-!
# The program

The outer layer: it reads the real disk and the environment, and prints what a command line comes to.
-/

namespace StickerBook.CommandLine
set_option autoImplicit false
open Files (Disk FileError)

/-- The cause of a failed access to the disk. System codes come with either sign. -/
def fileError : IO.Error → FileError
  | .noFileOrDirectory _ _ _ => .notFound
  | .inappropriateType path code text =>
    if code = 21 ∨ code = 0 - 21 then .isDirectory
    else if code = 20 ∨ code = 0 - 20 then .notDirectory
    else .other (toString (IO.Error.inappropriateType path code text))
  | e => .other (toString e)

/-- The disk of the machine. -/
def machineDisk : Disk IO where
  readBytes path := do
    if path.isEmpty then return .error .notFound
    if path.toList.contains '\x00' then return .error .nulInName
    try
      return .ok (← IO.FS.readBinFile path)
    catch e =>
      return .error (fileError e)
  isFile path := do
    try
      let data ← (← IO.FS.realPath path).metadata
      return data.type == .file
    catch _ =>
      return false

/-- A directory of the user: the one that the environment names by an absolute path, or else one below the
home directory. -/
def userDir (name : String) (belowHome : String) : IO (Option String) := do
  match ← IO.getEnv name, ← IO.getEnv "HOME" with
  | some dir, home =>
    if dir.startsWith "/" then return some dir
    else return home.map (Files.joinPath · belowHome)
  | none, home => return home.map (Files.joinPath · belowHome)

/-- The directories of the user. -/
def machineDirs : IO UserDirs := do
  return { config := ← userDir "XDG_CONFIG_HOME" ".config"
           data := ← userDir "XDG_DATA_HOME" ".local/share" }

/-- Prints what a run comes to, and yields the exit code. -/
def conclude : Except Failure String → IO UInt32
  | .ok out => do
    IO.print out
    return 0
  | .error (.usage e) => do
    if e = .helpWanted || e = .versionWanted then
      IO.println e.message
      return 0
    else
      IO.eprintln e.message
      return 2
  | .error f => do
    IO.eprintln ("Error: " ++ f.message)
    return 1

end StickerBook.CommandLine

/-- Runs a command line. -/
def main (args : List String) : IO UInt32 := do
  StickerBook.CommandLine.conclude
    (← StickerBook.CommandLine.run StickerBook.CommandLine.machineDisk
      (← StickerBook.CommandLine.machineDirs) args)
