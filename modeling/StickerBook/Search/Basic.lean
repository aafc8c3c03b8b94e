import StickerBook.Distinct
import StickerBook.Sticker
import StickerBook.Text.Numeral
import StickerBook.Word

/-!
# Searches

A search is a list of keyword filters, of tag filters and of meta filters, each possibly negated.
Of the meta filters with one key the first counts (`Search.meta?`, `Search.effectiveMetas`).
-/

namespace StickerBook
set_option autoImplicit false

/-- A wanted or, if negated, unwanted property. -/
structure Filter (α : Type) where
  value : α
  negated : Bool := false
deriving DecidableEq, Repr

/-- The reserved keys. -/
inductive MetaKey where
  | package
  | kind
  | sort
  | order
  | after
  | before
deriving DecidableEq, Repr, Inhabited

namespace MetaKey

/-- The canonical name of a key. -/
def display : MetaKey → String
  | .package => "package"
  | .kind => "type"
  | .sort => "sort"
  | .order => "order"
  | .after => "after"
  | .before => "before"

/-- The key that a word names, whatever the case of its ASCII letters. -/
def ofString? (word : String) : Option MetaKey :=
  match String.ofList (word.toList.map Char.toLower) with
  | "package" => some .package
  | "pkg" => some .package
  | "type" => some .kind
  | "sort" => some .sort
  | "order" => some .order
  | "after" => some .after
  | "before" => some .before
  | _ => none

end MetaKey

/-- A filter on a reserved key. -/
structure MetaFilter where
  key : MetaKey
  value : String
  negated : Bool := false
deriving DecidableEq, Repr

/-- The columns that results can be sorted by. -/
inductive SortField where
  | name
  | create
  | modify
deriving DecidableEq, Repr

namespace SortField

/-- The word for a sort column. -/
def display : SortField → String
  | .name => "name"
  | .create => "create"
  | .modify => "modify"

/-- The sort column that a word names. -/
def ofString? : String → Option SortField
  | "name" => some .name
  | "create" => some .create
  | "modify" => some .modify
  | _ => none

end SortField

/-- Why a text is no search. Columns count characters from zero. -/
inductive SearchError where
  | unterminatedQuote (column : Nat)
  | danglingNegation (column : Nat)
  | unsortable (value : String)
  | invalidOrder (value : String)
  | invalidDate (key : MetaKey) (value : String)
  | invalidKind (value : String)
deriving DecidableEq, Repr

/-- The wording of a search error. -/
def SearchError.message : SearchError → String
  | .unterminatedQuote column => "unterminated quote starting at column " ++ toString column
  | .danglingNegation column => "'-' at column " ++ toString column ++ " does not negate anything"
  | .unsortable value =>
    value ++ " is not sortable; it must be one of 'name', 'create' or 'modify'"
  | .invalidOrder value => "order must be 'asc' or 'desc', got '" ++ value ++ "'"
  | .invalidDate key value => key.display ++ " expects a unix timestamp, got '" ++ value ++ "'"
  | .invalidKind value => Kind.unknownMessage value

/-- A structured search. -/
structure Search where
  keywords : List (Filter String) := []
  tags : List (Filter Tag) := []
  metas : List MetaFilter := []
deriving DecidableEq, Repr

/-- The date that a text denotes. -/
def date? (value : String) : Option Int :=
  Text.intNumeral? minDate maxDate value.toList

namespace Search

/-- A search that filters nothing. -/
def isEmpty (s : Search) : Bool :=
  s.tags.isEmpty && s.keywords.isEmpty && s.metas.isEmpty

/-- The meta filters that count: the first one of each key. -/
def effectiveMetas (s : Search) : List MetaFilter := distinctBy MetaFilter.key s.metas

/-- The meta filter of a key that counts. -/
def meta? (s : Search) (key : MetaKey) : Option MetaFilter := s.metas.find? fun m => m.key = key

/-- The column to sort by, if one is asked for. -/
def sortField? (s : Search) : Option SortField := (s.meta? .sort).bind (SortField.ofString? ·.value)

/-- The sort column runs from high to low. -/
def descending (s : Search) : Bool := (s.meta? .order).any (·.value = "desc")

/-- The kind that is asked for. -/
def kind? (s : Search) : Option Kind := (s.meta? .kind).bind (Kind.ofString? ·.value)

/-- The date given with a key. -/
def dateBound? (s : Search) (key : MetaKey) : Option Int := (s.meta? key).bind (date? ·.value)

end Search

end StickerBook
