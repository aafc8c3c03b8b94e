import StickerBook.Files.Basic

/-!
# Disks in memory

A disk in memory is a working directory that holds a list of files and directories, each under its
path; the directories on the way to them are there as well. Of what lies outside, only the directories
above it are known. A path is followed name by name, as an operating system does it: a name within a
file is an error of its own, and `..` leads up from a directory that must be there.
-/

namespace StickerBook.Files
set_option autoImplicit false

/-- What a disk in memory holds under a path. -/
inductive Entry where
  | file (bytes : ByteArray)
  | directory

/-- A place on a disk in memory. -/
inductive Place where
  | file (bytes : ByteArray)
  | within (names : List String)
  | outside

/-- A working directory. Each entry comes with the names on its path. -/
structure Memory where
  entries : List (List String × Entry)

/-- The pieces of a text between slashes. -/
def pathPieces (path : String) : List String :=
  (path.toList.splitOnP (· = '/')).map String.ofList

/-- The names on a path; single dots and empty names lead nowhere. -/
def pathNames (path : String) : List String :=
  (pathPieces path).filter fun name => !name.isEmpty && name ≠ "."

namespace Memory

/-- The working directory with the given contents. -/
def ofList (contents : List (String × Entry)) : Memory where
  entries := contents.map fun (path, entry) => (pathNames path, entry)

/-- The place that the names lead to from the working directory. -/
def lookUp (d : Memory) (names : List String) : Except FileError Place :=
  match d.entries.find? (·.1 = names) with
  | some (_, .file bytes) => .ok (.file bytes)
  | some (_, .directory) => .ok (.within names)
  | none =>
    if names.isEmpty || d.entries.any fun e => names.isPrefixOf e.1 then .ok (.within names)
    else .error .notFound

/-- Goes from a place to the place of a name in it. -/
def enter (d : Memory) (place : Place) (name : String) : Except FileError Place :=
  match place with
  | .file _ => .error .notDirectory
  | .outside =>
    if name.isEmpty || name = "." || name = ".." then .ok .outside
    else if name.utf8ByteSize > 255 then .error .nameTooLong
    else .error .notFound
  | .within names =>
    if name.isEmpty || name = "." then .ok (.within names)
    else if name = ".." then .ok (if names.isEmpty then .outside else .within names.dropLast)
    else if name.utf8ByteSize > 255 then .error .nameTooLong
    else d.lookUp (names ++ [name])

/-- Follows a path. -/
def follow (d : Memory) (path : String) : Except FileError Place :=
  if path.toList.contains '\x00' then .error .nulInName
  else if path.isEmpty then .error .notFound
  else if path.utf8ByteSize > 4095 then .error .nameTooLong
  else
    let start := if path.toList.head? = some '/' then Place.outside else .within []
    (pathPieces path).foldlM d.enter start

/-- The disk, which does not change. -/
def disk (d : Memory) : Disk Id where
  readBytes path := match d.follow path with
    | .error e => .error e
    | .ok (.file bytes) => .ok bytes
    | .ok _ => .error .isDirectory
  isFile path := match d.follow path with
    | .ok (.file _) => true
    | _ => false

end Memory

end StickerBook.Files
