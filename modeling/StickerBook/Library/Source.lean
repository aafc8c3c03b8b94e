import StickerBook.Library.Lookup
import StickerBook.Lookup.Source

/-!
# A library as a source

A library answers every lookup at once. A text that is no search is an invalid query.
-/

namespace StickerBook.Library
set_option autoImplicit false
open Lookup (Outcome)

/-- The answer to a search for thumbs. -/
def findThumbs (l : Library) (query : String) (page : Nat) : Outcome Thumb :=
  match l.search query page with
  | .ok thumbs => .ready thumbs
  | .error e => .failed (.invalidQuery e.message)

/-- The answer to a search for packages. -/
def findPackages (l : Library) (query : String) (_page : Nat) : Outcome String :=
  .ready (l.searchPackages query)

/-- The answer to a search for tags. -/
def findTags (l : Library) (query : String) (_page : Nat) : Outcome Tag :=
  .ready (l.searchTags query)

end StickerBook.Library
