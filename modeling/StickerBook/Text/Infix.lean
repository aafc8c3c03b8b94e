/-!
# Substrings

`contains needle text` says whether `needle` occurs in `text` without a gap; the empty text occurs
everywhere.
-/

set_option autoImplicit false

namespace StickerBook.Text

/-- The text `needle` occurs somewhere in the given text. -/
def contains (needle : List Char) : List Char → Bool
  | [] => needle.isEmpty
  | c :: rest => needle.isPrefixOf (c :: rest) || contains needle rest

theorem contains_iff {needle text : List Char} :
    contains needle text = true ↔ needle <:+: text := by
  induction text with
  | nil => simp [contains]
  | cons c rest ih => simp [contains, ih, List.infix_cons_iff]

end StickerBook.Text
