import StickerBook.Editor.Effect

/-!
# Lockable fields

A field holds a value that its owner holds as well. Edits and resets are reported to an owner that
listens; a value that comes from the owner is not. A locked field is not reset.
-/

namespace StickerBook.Editor
set_option autoImplicit false
variable {α : Type}

/-- A field of a form. `heard` says whether the owner listens to it. -/
structure LockableField (α : Type) where
  value : α
  default : α
  locked : Bool := false
  heard : Bool := true
deriving DecidableEq, Repr

namespace LockableField

/-- The field that starts at its default. -/
def start (default : α) (heard : Bool) : LockableField α := { value := default, default, heard }

/-- What the owner hears of the value. -/
def report (f : LockableField α) : List α := if f.heard then [f.value] else []

/-- Takes over the value of the owner. -/
def sync (f : LockableField α) (value : α) : LockableField α := { f with value }

/-- Stores an edit. -/
def setValue (f : LockableField α) (value : α) : Effect Unit α (LockableField α) :=
  let f := { f with value }
  { result := (), changes := f.report, state := f }

/-- Locks or unlocks the field. -/
def setLocked (f : LockableField α) (locked : Bool) : LockableField α := { f with locked }

/-- Restores the default unless the field is locked, and says whether it did. -/
def reset (f : LockableField α) : Effect Bool α (LockableField α) :=
  if f.locked then { result := false, state := f }
  else
    let f := { f with value := f.default }
    { result := true, changes := f.report, state := f }

end LockableField

end StickerBook.Editor
