import StickerBook.Sql.Statement

/-!
# Searches as statements

The statement for a search selects the rows that satisfy its keywords, its tags and its effective
meta filters. A date filter whose value is no date, possible only in a search that was not read from
a text, selects everything.
-/

namespace StickerBook.Search
set_option autoImplicit false
open Sql

/-- The selection by tags, if a search has tag filters. A wanted tag counts once. -/
def tagSelection? (s : Search) : Option TagSelection :=
  if s.tags.isEmpty then none
  else some {
    wanted := distinctBy id ((s.tags.filter (!·.negated)).map Filter.value)
    excluded := (s.tags.filter (·.negated)).map Filter.value }

/-- The condition of a keyword. -/
def keywordCondition (k : Filter String) : Condition :=
  .nameLike k.negated (containsPattern k.value)

/-- The condition of a meta filter, if it is one on single rows. -/
def metaCondition? (s : Search) (m : MetaFilter) : Option Condition :=
  match m.key with
  | .package => some (.packageIs m.negated m.value)
  | .kind => some (.kindIs m.negated m.value)
  | .after => (s.dateBound? .after).map .modifiedFrom
  | .before => (s.dateBound? .before).map .modifiedUntil
  | .sort | .order => none

/-- All conditions on single rows. -/
def conditions (s : Search) : List Condition :=
  s.keywords.map keywordCondition ++ s.effectiveMetas.filterMap s.metaCondition?

/-- The statement for one page of matching stickers. -/
def pageStatement (s : Search) (page pageSize : Nat) : Statement where
  tagged := s.tagSelection?
  conditions := s.conditions
  answer := .rows (s.sortField?.map (·, s.descending)) pageSize (saturatingMul page pageSize)

/-- The statement for the number of matching stickers. -/
def countStatement (s : Search) : Statement where
  tagged := s.tagSelection?
  conditions := s.conditions
  answer := .count

end StickerBook.Search
