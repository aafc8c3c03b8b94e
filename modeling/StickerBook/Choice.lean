import StickerBook.Tag

/-!
# Choices

A choice is what a suggestion list offers: a value and the label under which it is shown. Two
choices are the same choice when their values are equal; labels such as `Create "cats"` are
decoration.
-/

namespace StickerBook
set_option autoImplicit false

/-- Values that can be chosen: a value may be blank, meaning none, and has a plain label. -/
class Choosable (α : Type) where
  isBlank : α → Bool
  label : α → String

instance : Choosable String where
  isBlank := (·.isEmpty)
  label := id

instance : Choosable Tag where
  isBlank t := t.ns.isEmpty && t.value.isEmpty
  label := Tag.display

/-- A value on offer with its label. -/
structure Choice (α : Type) where
  value : α
  label : String
deriving DecidableEq, Repr

namespace Choice
variable {α : Type}

/-- The choice of a value under its plain label. -/
def plain [Choosable α] (value : α) : Choice α := { value, label := Choosable.label value }

/-- Two choices are the same if their values are equal. -/
def same [DecidableEq α] (a b : Choice α) : Bool := decide (a.value = b.value)

instance [Hashable α] : Hashable (Choice α) where
  hash c := hash c.value

/-- The label of a choice that would create what it names. -/
def createLabel (name : String) : String := "Create \"" ++ name ++ "\""

end Choice

end StickerBook
