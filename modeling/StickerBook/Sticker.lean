import StickerBook.Tag

/-!
# Stickers

A sticker is one stored picture or text. A thumb is the part of it that a result page shows.
-/

namespace StickerBook
set_option autoImplicit false

/-- The package a sticker falls back to when none is chosen. -/
def defaultPackage : String := "Inbox"

/-- What a sticker holds. -/
inductive Kind where
  | pic
  | text
deriving DecidableEq, Repr, Inhabited

namespace Kind

/-- The word for a kind. -/
def display : Kind → String
  | .pic => "pic"
  | .text => "text"

/-- The kind that a word names. -/
def ofString? : String → Option Kind
  | "pic" => some .pic
  | "text" => some .text
  | _ => none

/-- The complaint about a word that names no kind. -/
def unknownMessage (word : String) : String :=
  "unknown sticky type '" ++ word ++ "' (expected 'pic' or 'text')"

@[simp] theorem ofString?_display (k : Kind) : ofString? k.display = some k := by
  cases k <;> rfl

end Kind

/-- The row that a search shows for a sticker. -/
structure Thumb where
  id : Nat
  name : String
  package : String
  kind : Kind
  path : Option String := none
  fav : Bool := false
deriving DecidableEq, Repr

/-- A stored sticker. -/
structure Sticker where
  id : Nat
  name : String
  package : String := defaultPackage
  kind : Kind := .pic
  tags : List Tag := []
  createDate : Int := 0
  modifyDate : Int := 0
  path : Option String := none
  fav : Bool := false
deriving DecidableEq, Repr

/-- The thumb of a sticker. -/
def Sticker.thumb (s : Sticker) : Thumb :=
  { id := s.id, name := s.name, package := s.package, kind := s.kind, path := s.path, fav := s.fav }

end StickerBook
