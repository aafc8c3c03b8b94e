import StickerBook.Choice
import StickerBook.Library.Source

/-!
# Tag suggestions

If the typed text is a tag that was not found, an entry that creates it comes first; the tags that
were found follow.
-/

namespace StickerBook
set_option autoImplicit false

/-- The choices for a tag input, given the known tags that were found for it. -/
def tagChoices (input : String) (found : List Tag) : List (Choice Tag) :=
  let create : List (Choice Tag) := match Tag.parse input with
    | .ok t => if t ∈ found then [] else [{ value := t, label := Choice.createLabel t.display }]
    | .error _ => []
  create ++ found.map .plain

/-- The source of tag choices over a source of tags. -/
def tagSuggestions (find : String → Nat → Lookup.Outcome Tag) : Lookup.Source Tag (Choice Tag) where
  key input _ := (input, 0)
  find := find
  present := tagChoices

end StickerBook
