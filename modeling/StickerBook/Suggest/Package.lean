import StickerBook.Choice
import StickerBook.Library.Source

/-!
# Package suggestions

The default package comes first, then an entry that creates a package of the typed name if there is
none, then the known packages that were found.
-/

namespace StickerBook
set_option autoImplicit false

/-- The choices for a trimmed package input, given the known packages that were found for it. -/
def packageChoices (input : String) (found : List String) : List (Choice String) :=
  let known := input = defaultPackage ∨ input ∈ found
  .plain defaultPackage
    :: (if input.isEmpty || known then [] else [{ value := input, label := Choice.createLabel input }])
    ++ (found.filter (· ≠ defaultPackage)).map .plain

/-- The source of package choices over a source of package names. Blanks around the input do not count. -/
def packageSuggestions (find : String → Nat → Lookup.Outcome String) :
    Lookup.Source String (Choice String) where
  key input _ := (Text.trimString input, 0)
  find := find
  present input found := packageChoices (Text.trimString input) found

end StickerBook
