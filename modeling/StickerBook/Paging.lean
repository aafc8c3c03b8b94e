import StickerBook.Word

/-!
# Pages

A list is shown in pages of a fixed size. Even an empty list has one page, and a page beyond the
last one is empty.
-/

namespace StickerBook
set_option autoImplicit false

/-- The number of pages for `total` rows. -/
def pageCount (total pageSize : Nat) : Nat :=
  if pageSize = 0 then 1 else max ((total + pageSize - 1) / pageSize) 1

/-- The rows of one page. -/
def pageOf {α : Type} (pageSize page : Nat) (rows : List α) : List α :=
  (rows.drop (saturatingMul page pageSize)).take pageSize

end StickerBook
