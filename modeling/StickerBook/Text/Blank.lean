/-!
# Blank characters

`isBlank` is the property `White_Space` of the Unicode character database, which is wider than the
ASCII class `Char.isWhitespace` of core. `trim` removes the blanks at both ends of a text.
-/

set_option autoImplicit false

namespace StickerBook.Text

/-- Membership of a number in a list of half-open ranges. -/
def inRanges (ranges : List (Nat × Nat)) (n : Nat) : Bool :=
  ranges.any fun r => decide (r.1 ≤ n) && decide (n < r.2)

theorem inRanges_iff {ranges : List (Nat × Nat)} {n : Nat} :
    inRanges ranges n = true ↔ ∃ r ∈ ranges, r.1 ≤ n ∧ n < r.2 := by
  simp [inRanges]

/-- The characters with the property `White_Space`. -/
def blankRanges : List (Nat × Nat) :=
  [(0x9, 0xE), (0x20, 0x21), (0x85, 0x86), (0xA0, 0xA1), (0x1680, 0x1681), (0x2000, 0x200B),
   (0x2028, 0x202A), (0x202F, 0x2030), (0x205F, 0x2060), (0x3000, 0x3001)]

/-- A blank character. -/
def isBlank (c : Char) : Bool :=
  inRanges blankRanges c.toNat

/-- The text without its leading blanks. -/
def trimStart (cs : List Char) : List Char :=
  cs.dropWhile isBlank

/-- The text without its trailing blanks. -/
def trimEnd (cs : List Char) : List Char :=
  (cs.reverse.dropWhile isBlank).reverse

/-- The text without the blanks at its two ends. -/
def trim (cs : List Char) : List Char :=
  trimEnd (trimStart cs)

/-- `trim` on strings. -/
def trimString (s : String) : String :=
  String.ofList (trim s.toList)

@[simp] theorem toList_trimString (s : String) : (trimString s).toList = trim s.toList := by
  simp [trimString]

end StickerBook.Text
