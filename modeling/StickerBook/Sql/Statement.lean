import StickerBook.Search.Basic
import StickerBook.Sql.Like
import StickerBook.Sql.Literal

/-!
# Select statements over a sticker store

The store has the tables `sticker`, `package`, `tag` and `sticker_tag`. A `Statement` is a select
over the stickers, or over those with given tags; `Statement.text` writes it. User texts get into
the text as literals only (`Statement.pieces`).
-/

namespace StickerBook.Sql
set_option autoImplicit false

/-- The stickers that have every wanted and no excluded tag. The wanted tags are distinct. -/
structure TagSelection where
  wanted : List Tag
  excluded : List Tag
deriving DecidableEq, Repr

/-- A condition on one row. -/
inductive Condition where
  | nameLike (negated : Bool) (pattern : String)
  | packageIs (negated : Bool) (name : String)
  | kindIs (negated : Bool) (word : String)
  | modifiedFrom (bound : Int)
  | modifiedUntil (bound : Int)
deriving DecidableEq, Repr

/-- What a statement answers: one page of rows in an order, or the number of all rows. -/
inductive Answer where
  | rows (order : Option (SortField × Bool)) (limit offset : Nat)
  | count
deriving DecidableEq, Repr

/-- A select statement. The rows satisfy all conditions. -/
structure Statement where
  tagged : Option TagSelection
  conditions : List Condition
  answer : Answer
deriving DecidableEq, Repr

/-- The test that a row of `tag` holds the given tag. -/
def tagTest (t : Tag) : List Piece :=
  [.fixed "(tag.namespace = ", .literal t.ns, .fixed " AND tag.value = ", .literal t.value, .fixed ")"]

/-- The test that a row of `tag` holds one of the given tags. -/
def anyTagTest (tags : List Tag) : List Piece := joinPieces " OR " (tags.map tagTest)

namespace TagSelection

/-- The test that a sticker has none of the excluded tags. -/
def exclusion (s : TagSelection) : List Piece :=
  .fixed ("sticker.id NOT IN (SELECT sticker_tag.sticker FROM sticker_tag " ++
      "JOIN tag ON sticker_tag.tag = tag.id WHERE ")
    :: anyTagTest s.excluded ++ [.fixed ")"]

/-- The select over the stickers with every wanted and no excluded tag. -/
def pieces (s : TagSelection) : List Piece :=
  if s.wanted.isEmpty then .fixed "SELECT sticker.* FROM sticker WHERE " :: s.exclusion
  else
    .fixed ("SELECT sticker.* FROM sticker JOIN sticker_tag ON sticker.id = sticker_tag.sticker " ++
        "WHERE sticker_tag.tag IN (SELECT id FROM tag WHERE ")
      :: anyTagTest s.wanted
      ++ [.fixed (") GROUP BY sticker.id HAVING COUNT(DISTINCT sticker_tag.tag) = " ++
        toString s.wanted.length)]
      ++ (if s.excluded.isEmpty then [] else .fixed " AND " :: s.exclusion)

end TagSelection

namespace Condition

/-- The condition reads the table `package`. -/
def readsPackage : Condition → Bool
  | .packageIs _ _ => true
  | _ => false

/-- The sign for equality or, if negated, inequality. -/
def sign (negated : Bool) : String := if negated then "<>" else "="

/-- The text of a condition. -/
def pieces : Condition → List Piece
  | .nameLike negated pattern =>
    [.fixed ("inp.name " ++ (if negated then "NOT LIKE" else "LIKE") ++ " "), .literal pattern,
      .fixed " ESCAPE ", .literal "\\"]
  | .packageIs negated name => [.fixed ("package.name " ++ sign negated ++ " "), .literal name]
  | .kindIs negated word => [.fixed ("inp.type " ++ sign negated ++ " "), .literal word]
  | .modifiedFrom bound => [.fixed ("inp.modify_date >= " ++ toString bound)]
  | .modifiedUntil bound => [.fixed ("inp.modify_date <= " ++ toString bound)]

end Condition

/-- The column that holds a sort field. -/
def sortColumn : SortField → String
  | .name => "inp.name"
  | .create => "inp.create_date"
  | .modify => "inp.modify_date"

namespace Answer

/-- What is selected. -/
def selected : Answer → String
  | .rows _ _ _ => "inp.*"
  | .count => "COUNT(inp.id)"

/-- The clauses after the conditions. -/
def clauses : Answer → String
  | .count => ""
  | .rows order limit offset =>
    (match order with
      | none => ""
      | some (field, descending) =>
        " ORDER BY " ++ sortColumn field ++ " " ++ (if descending then "DESC" else "ASC"))
      ++ " LIMIT " ++ toString limit ++ " OFFSET " ++ toString offset

end Answer

namespace Statement

/-- The select over the rows of a table. -/
def selectFrom (table : String) (s : Statement) : List Piece :=
  .fixed ("SELECT " ++ s.answer.selected ++ " FROM " ++ table ++ " AS inp" ++
      (if s.conditions.any Condition.readsPackage then " JOIN package ON inp.package = package.id"
        else ""))
    :: (if s.conditions.isEmpty then []
        else .fixed " WHERE " :: joinPieces " AND " (s.conditions.map Condition.pieces))
    ++ [.fixed (s.answer.clauses ++ ";")]

/-- The statement as fixed text and literals. -/
def pieces (s : Statement) : List Piece :=
  match s.tagged with
  | none => s.selectFrom "sticker"
  | some selection =>
    .fixed "WITH tagged_sticker AS (" :: selection.pieces ++ .fixed ") " :: s.selectFrom "tagged_sticker"

/-- The text of a statement. -/
def text (s : Statement) : String := render s.pieces

end Statement

end StickerBook.Sql
