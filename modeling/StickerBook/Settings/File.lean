import StickerBook.Settings.Basic
import StickerBook.Toml.Document

/-!
# Settings files

Settings are written in TOML. Each section has one key; a section or key that is left out keeps its
default, and one that is not known is refused. A section may also be a list with the value of its key.
-/

namespace StickerBook.Settings
set_option autoImplicit false
open Files (Disk)
open Toml (Members Value)

/-- The text of a value. -/
def text? : Value → Option String
  | .string text => some text
  | _ => none

/-- The word of a value. -/
def word? : Value → Option Nat
  | .scalar (.integer (some n)) => if 0 ≤ n ∧ n ≤ maxWord then some n.toNat else none
  | _ => none

/-- What a section gives to its key: nothing, or a value. -/
def keyValue? (key : String) : Value → Option (Option Value)
  | .table _ [] => some none
  | .table _ [(name, v)] => if name = key then some (some v) else none
  | .list _ items => some items.head?
  | _ => none

/-- Takes the settings of a section over, if it is well formed. -/
def section? {α : Type} (key : String) (read : Value → Option α) (set : α → Settings) (s : Settings)
    (v : Value) : Option Settings :=
  match keyValue? key v with
  | none => none
  | some none => some s
  | some (some v) => (read v).map set

/-- Takes one section over. -/
def takeSection (s : Settings) : String × Value → Option Settings
  | ("library", v) => section? "sticker-dir" text? (fun dir => { s with stickerDir := some dir }) s v
  | ("search", v) => section? "page-size" word? (fun n => { s with pageSize := n }) s v
  | ("query", v) => section? "timeout-ms" word? (fun n => { s with timeoutMs := n }) s v
  | ("log", v) => section? "filter" text? (fun filter => { s with logFilter := some filter }) s v
  | _ => none

/-- The settings in a table. -/
def ofMembers? (members : Members) : Option Settings := members.foldlM takeSection {}

/-- Reads the settings in the text of the file at `path`. A page holds at least one row. -/
def parse (path text : String) : Except SettingsError Settings :=
  match (Toml.read? text).bind ofMembers? with
  | none => .error (.malformed path)
  | some s => if s.pageSize = 0 then .error .zeroPageSize else .ok s

variable {m : Type → Type} [Monad m]

/-- Reads the settings file at a path. -/
def load (disk : Disk m) (path : String) : m (Except SettingsError Settings) := do
  match ← disk.readText path with
  | .error cause => return .error (.unreadable path cause)
  | .ok text => return parse path text

/-- Reads the settings file at a path, or else the one in its usual place, if there is one. -/
def loadOrDefault (disk : Disk m) (dirs : UserDirs) (path : Option String) :
    m (Except SettingsError Settings) := do
  match path, dirs.settingsPath with
  | some path, _ => load disk path
  | none, none => return .ok {}
  | none, some path => if ← disk.isFile path then load disk path else return .ok {}

end StickerBook.Settings
