import StickerBook.Library.NameSet
import StickerBook.Paging
import StickerBook.Sticker

/-!
# Libraries

A library holds package names and stickers, the latter in the order in which they were added. The
default package is always there, and so is the package of every sticker.
-/

namespace StickerBook
set_option autoImplicit false

/-- A library; its result pages hold `pageSize` rows. -/
structure Library where
  packages : NameSet
  stickers : List Sticker
  pageSize : Nat
  pageSize_pos : 0 < pageSize

namespace Library

/-- The page size of a library for which none is chosen. -/
def defaultPageSize : Nat := 30

/-- The library without stickers. -/
def empty : Library where
  packages := .singleton defaultPackage
  stickers := []
  pageSize := defaultPageSize
  pageSize_pos := by decide

/-- The library with another page size; a page holds at least one row. -/
def withPageSize (l : Library) (pageSize : Nat) : Library :=
  { l with pageSize := max pageSize 1, pageSize_pos := by omega }

/-- The library with a further package. -/
def addPackage (l : Library) (name : String) : Library :=
  { l with packages := l.packages.insert name }

/-- The library with a further sticker and its package. -/
def addSticker (l : Library) (s : Sticker) : Library :=
  { l with packages := l.packages.insert s.package, stickers := l.stickers ++ [s] }

/-- The library of the given packages and stickers. -/
def ofContents (packages : List String) (stickers : List Sticker) : Library :=
  stickers.foldl addSticker { empty with packages := empty.packages.insertAll packages }

end Library

end StickerBook
