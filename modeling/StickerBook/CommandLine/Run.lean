import StickerBook.CommandLine.Invocation
import StickerBook.Editor.Combobox
import StickerBook.Editor.SearchPage
import StickerBook.Library.Load
import StickerBook.Library.Source
import StickerBook.Search.Statement
import StickerBook.Settings.File
import StickerBook.Suggest.Package

/-!
# Running commands

A command prints one page of search results, the choices for a package input, or the statement of a
search. Errors are found in the order in which the work is done: command line, settings, search text,
library.
-/

namespace StickerBook.CommandLine
set_option autoImplicit false
open Editor (Combobox SearchPage packageCombobox)
open Files (Disk)
open Lookup (Session Source)

/-- Why a command fails. -/
inductive Failure where
  | usage (error : UsageError)
  | settings (error : SettingsError)
  | library (error : LoadError)
  | search (text : String) (error : SearchError)
  | noLibraryPath
deriving DecidableEq, Repr

/-- The wording of a failure. -/
def Failure.message : Failure → String
  | .usage error => error.message
  | .settings error => error.message
  | .library error => error.message
  | .search text error => "invalid search '" ++ text ++ "': " ++ error.message
  | .noLibraryPath => "no library location; pass --library or set library.sticker-dir"

/-- A line of output for a row of search results. -/
def rowLine (t : Thumb) : String :=
  toString t.id ++ "\t" ++ t.name ++ "\t" ++ t.package ++ "\t" ++ t.kind.display
    ++ (if t.fav then "\t*" else "") ++ "\n"

/-- The line of output below the rows. -/
def pageLine (page pages : Nat) : String :=
  "page " ++ toString (page + 1) ++ "/" ++ toString pages ++ "\n"

/-- The line of output for a choice. -/
def choiceLine {α : Type} (highlighted : Bool) (c : Choice α) : String :=
  (if highlighted then "> " else "  ") ++ c.label ++ "\n"

/-- The search page after a text and a page number have been put in and all lookups are answered. -/
def searchPage (l : Library) (query : String) (page : Nat) : SearchPage :=
  let (request, widget) := SearchPage.start
  let s : Session SearchPage Thumb Thumb := { widget, backend := { source := .direct l.findThumbs } }
  let s := s.enqueue (some request)
  let (request, s) := s.update (s.widget.setInput query)
  let s := s.enqueue request
  let (request, s) := s.update (s.widget.setPage page)
  (s.enqueue request).settle.2.widget

/-- The output of a search. -/
def searchOutput (l : Library) (query : String) (page : Nat) : Except SearchError String :=
  (l.countPages query).map fun pages =>
    String.join ((searchPage l query page).rows.map rowLine) ++ pageLine page pages

/-- The package combobox after a text has been typed, the list has been opened and the lookup is
answered. -/
def packageBox (l : Library) (text : String) : Combobox String :=
  let widget := (packageCombobox.setInput text).2
  let s : Session (Combobox String) String (Choice String) :=
    { widget, backend := { source := packageSuggestions l.findPackages } }
  let (request, s) := s.update s.widget.openList
  (s.enqueue request).settle.2.widget

/-- The output of a suggestion. -/
def suggestOutput (l : Library) (text : String) : String :=
  let box := packageBox l text
  String.join (box.candidates.mapIdx fun i c => choiceLine (box.highlighted = some i) c)

/-- The output of a statement. -/
def sqlOutput (s : Settings) (search : Search) (page : Nat) (count : Bool) : String :=
  (if count then search.countStatement.text else (search.pageStatement page s.pageSize).text) ++ "\n"

variable {m : Type → Type} [Monad m]

/-- Loads the library from a path or else from where the settings say. -/
def loadLibrary (disk : Disk m) (dirs : UserDirs) (s : Settings) (path : Option String) :
    m (Except Failure Library) := do
  match path <|> s.libraryPathIn dirs with
  | none => return .error .noLibraryPath
  | some path =>
    return ((← Library.load disk path).map (·.withPageSize s.pageSize)).mapError .library

/-- Carries out a command. -/
def runCommand (disk : Disk m) (dirs : UserDirs) (s : Settings) (i : Invocation) :
    m (Except Failure String) := do
  match i.command with
  | .search query page =>
    match Search.parse query with
    | .error e => return .error (.search query e)
    | .ok _ =>
      match ← loadLibrary disk dirs s i.library with
      | .error e => return .error e
      | .ok l => return (searchOutput l query page).mapError (.search query)
  | .suggest text => return (← loadLibrary disk dirs s i.library).map (suggestOutput · text)
  | .sql query page count =>
    match Search.parse query with
    | .error e => return .error (.search query e)
    | .ok search => return .ok (sqlOutput s search page count)

/-- Runs a command line and yields what it prints. -/
def run (disk : Disk m) (dirs : UserDirs) (args : List String) : m (Except Failure String) := do
  match Invocation.parse args with
  | .error e => return .error (.usage e)
  | .ok i =>
    match ← Settings.loadOrDefault disk dirs i.config with
    | .error e => return .error (.settings e)
    | .ok s => runCommand disk dirs s i

end StickerBook.CommandLine
