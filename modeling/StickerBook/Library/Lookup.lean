import StickerBook.Library.Basic
import StickerBook.Search.Parse
import StickerBook.Text.Infix
import StickerBook.Text.Lower

/-!
# Looking up stickers, packages and tags

`Sticker.satisfies` says which stickers a search selects. The rows of a search are sorted by the
column that it asks for, from low to high or from high to low, and rows that agree there by id.
Packages and tags are looked up by a part of their text, whatever its case.
-/

namespace StickerBook
set_option autoImplicit false
open Text (contains lower trim)

/-- The lower-case form of `needle` occurs in the lower-case form of `text`. -/
def containsFolded (needle text : String) : Bool :=
  contains (lower needle.toList) (lower text.toList)

namespace Sticker

/-- A sticker has the property of a keyword. -/
def satisfiesKeyword (s : Sticker) (k : Filter String) : Bool :=
  containsFolded k.value s.name != k.negated

/-- A sticker has the property of a tag filter. -/
def satisfiesTag (s : Sticker) (t : Filter Tag) : Bool :=
  s.tags.contains t.value != t.negated

/-- A sticker has the property of a meta filter. Date filters cannot be negated, and a filter with a
value that makes no sense lets every sticker pass. -/
def satisfiesMeta (s : Sticker) (search : Search) (m : MetaFilter) : Bool :=
  match m.key with
  | .package => decide (s.package = m.value) != m.negated
  | .kind => search.kind?.all fun kind => decide (s.kind = kind) != m.negated
  | .after => (search.dateBound? .after).all fun bound => decide (bound ≤ s.modifyDate)
  | .before => (search.dateBound? .before).all fun bound => decide (s.modifyDate ≤ bound)
  | .sort | .order => true

/-- A sticker has all the properties that a search asks for. -/
def satisfies (s : Sticker) (search : Search) : Bool :=
  search.keywords.all s.satisfiesKeyword && search.tags.all s.satisfiesTag
    && search.effectiveMetas.all (s.satisfiesMeta search)

end Sticker

namespace Search

/-- The comparison of two stickers by the sort column. -/
def compareField (search : Search) (a b : Sticker) : Ordering :=
  match search.sortField? with
  | none => .eq
  | some .name => compare a.name b.name
  | some .create => compare a.createDate b.createDate
  | some .modify => compare a.modifyDate b.modifyDate

/-- The comparison of two stickers in the order of the results. -/
def compareRows (search : Search) (a b : Sticker) : Ordering :=
  (if search.descending then (search.compareField a b).swap else search.compareField a b).then
    (compare a.id b.id)

/-- The stickers of a list that a search selects, in the order of the results. -/
def rows (search : Search) (stickers : List Sticker) : List Sticker :=
  (stickers.filter (·.satisfies search)).mergeSort fun a b => (search.compareRows a b).isLE

end Search

namespace Library

/-- One page of the thumbs that a search text selects. -/
def search (l : Library) (text : String) (page : Nat) : Except SearchError (List Thumb) :=
  (Search.parse text).map fun s => (pageOf l.pageSize page (s.rows l.stickers)).map Sticker.thumb

/-- The number of pages of a search text. -/
def countPages (l : Library) (text : String) : Except SearchError Nat :=
  (Search.parse text).map fun s => pageCount (s.rows l.stickers).length l.pageSize

/-- The packages whose name contains the input, in order. -/
def searchPackages (l : Library) (input : String) : List String :=
  l.packages.names.filter fun name => containsFolded (Text.trimString input) name

/-- The tags of all stickers whose written form contains the input, in order and each once. -/
def searchTags (l : Library) (input : String) : List Tag :=
  distinctBy id <|
    ((l.stickers.flatMap Sticker.tags).filter fun t =>
      containsFolded (Text.trimString input) t.display).mergeSort Tag.le

end Library

end StickerBook
