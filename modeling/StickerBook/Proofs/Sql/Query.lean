import StickerBook.Proofs.Sql.Scanning
import StickerBook.Sql.Statement

/-!
# Queries

A `Query` is a statement of SQL in the part of the language that selecting stickers takes: inner joins, conditions that
must all hold, subqueries after `IN`, groups of which the members are counted, a named subselect, and the choice of a
page. `Statement.query` is the query that a statement stands for, and the text of the statement is the text of the query
(`Statement.text_query`).
-/

namespace StickerBook.Sql
set_option autoImplicit false

/-- A column, with the name of its table or without. -/
structure Column where
  source : Option String := none
  name : String
deriving DecidableEq, Repr

namespace Column

/-- The text of a column. -/
def text (c : Column) : String :=
  match c.source with
  | none => c.name
  | some source => source ++ "." ++ c.name

/-- The column of a table. -/
def of (source name : String) : Column where
  source := some source
  name := name

end Column

/-- A comparison of one column with a constant. -/
inductive Test where
  | equals (negated : Bool) (column : Column) (value : String)
  | like (negated : Bool) (column : Column) (pattern : String)
  | atLeast (column : Column) (bound : Int)
  | atMost (column : Column) (bound : Int)
deriving DecidableEq, Repr

/-- The text of a test. -/
def Test.text : Test → String
  | .equals negated column value => column.text ++ " " ++ Condition.sign negated ++ " " ++ quote value
  | .like negated column pattern =>
    column.text ++ " " ++ (if negated then "NOT LIKE" else "LIKE") ++ " " ++ quote pattern ++ " ESCAPE " ++ quote "\\"
  | .atLeast column bound => column.text ++ " >= " ++ toString bound
  | .atMost column bound => column.text ++ " <= " ++ toString bound

/-- A further table, joined where two columns are equal. -/
structure Join where
  table : String
  left : Column
  right : Column
deriving DecidableEq, Repr

/-- The text of a join. -/
def Join.text (j : Join) : String := " JOIN " ++ j.table ++ " ON " ++ j.left.text ++ " = " ++ j.right.text

/-- A table, the name by which it is called, and the tables joined to it. -/
structure Source where
  table : String
  called : String := table
  joins : List Join := []
deriving DecidableEq, Repr

/-- The text of a source. -/
def Source.text (f : Source) : String :=
  f.table ++ (if f.called = f.table then "" else " AS " ++ f.called) ++ String.join (f.joins.map Join.text)

/-- The values of a column where one of several groups of tests is met as a whole. -/
structure Subquery where
  column : Column
  source : Source
  anyOf : List (List Test)
deriving DecidableEq, Repr

/-- The text of a subquery. -/
def Subquery.text (q : Subquery) : String :=
  "SELECT " ++ q.column.text ++ " FROM " ++ q.source.text ++ " WHERE "
    ++ " OR ".intercalate (q.anyOf.map fun tests => "(" ++ " AND ".intercalate (tests.map Test.text) ++ ")")

/-- One of the conditions of a select. -/
inductive Clause where
  | test (t : Test)
  | within (negated : Bool) (column : Column) (values : Subquery)
deriving DecidableEq, Repr

/-- The text of a condition. -/
def Clause.text : Clause → String
  | .test t => t.text
  | .within negated column values => column.text ++ (if negated then " NOT IN (" else " IN (") ++ values.text ++ ")"

/-- Groups with equal values of a column, of which those are kept that have a given number of distinct values of another
column and meet all conditions. -/
structure Grouping where
  key : Column
  counted : Column
  number : Nat
  having : List Clause := []
deriving DecidableEq, Repr

/-- The text of a grouping. -/
def Grouping.text (g : Grouping) : String :=
  " GROUP BY " ++ g.key.text ++ " HAVING COUNT(DISTINCT " ++ g.counted.text ++ ") = " ++ toString g.number
    ++ String.join (g.having.map fun c => " AND " ++ c.text)

/-- What a select goes through, once or group by group. -/
structure Select where
  source : Source
  conditions : List Clause := []
  grouping : Option Grouping := none
deriving DecidableEq, Repr

/-- The text of a select that yields the given columns. -/
def Select.text (q : Select) (columns : String) : String :=
  "SELECT " ++ columns ++ " FROM " ++ q.source.text
    ++ (if q.conditions.isEmpty then "" else " WHERE " ++ " AND ".intercalate (q.conditions.map Clause.text))
    ++ (q.grouping.map Grouping.text).getD ""

/-- What a query yields: a page of rows in an order, or the number of values of a column. The flag of an order says
whether it runs from high to low. -/
inductive Output where
  | rows (order : Option (Column × Bool)) (limit offset : Nat)
  | count (column : Column)
deriving DecidableEq, Repr

namespace Output

/-- What stands for the columns when the rows called `called` are put out. -/
def columns (called : String) : Output → String
  | .rows _ _ _ => called ++ ".*"
  | .count column => "COUNT(" ++ column.text ++ ")"

/-- The text of an order. -/
def orderText (order : Column × Bool) : String :=
  " ORDER BY " ++ order.1.text ++ " " ++ (if order.2 then "DESC" else "ASC")

/-- What stands at the end of a query. -/
def ending : Output → String
  | .rows order limit offset =>
    (order.map orderText).getD "" ++ " LIMIT " ++ toString limit ++ " OFFSET " ++ toString offset
  | .count _ => ""

end Output

/-- A query. It may name the rows of a first select and refer to them like a table. -/
structure Query where
  named : Option (String × Select) := none
  main : Select
  output : Output
deriving DecidableEq, Repr

/-- The text of a query. -/
def Query.text (q : Query) : String :=
  (q.named.map fun n => "WITH " ++ n.1 ++ " AS (" ++ n.2.text (n.2.source.called ++ ".*") ++ ") ").getD ""
    ++ q.main.text (q.output.columns q.main.source.called) ++ q.output.ending ++ ";"

/-- The tests that a row of `tag` holds the given tag. -/
def tagTests (t : Tag) : List Test :=
  [.equals false (.of "tag" "namespace") t.ns, .equals false (.of "tag" "value") t.value]

namespace TagSelection

/-- The ids of the given tags. -/
def idsOf (tags : List Tag) : Subquery where
  column := { name := "id" }
  source := { table := "tag" }
  anyOf := tags.map tagTests

/-- The ids of the stickers that have one of the given tags. -/
def holders (tags : List Tag) : Subquery where
  column := .of "sticker_tag" "sticker"
  source := { table := "sticker_tag", joins := [⟨"tag", .of "sticker_tag" "tag", .of "tag" "id"⟩] }
  anyOf := tags.map tagTests

/-- The condition that a sticker has none of the excluded tags. -/
def withoutExcluded (s : TagSelection) : Clause := .within true (.of "sticker" "id") (holders s.excluded)

/-- The stickers with their links to tags. -/
def linked : Source where
  table := "sticker"
  joins := [⟨"sticker_tag", .of "sticker" "id", .of "sticker_tag" "sticker"⟩]

/-- The condition that a link leads to a wanted tag. -/
def linksWanted (s : TagSelection) : Clause := .within false (.of "sticker_tag" "tag") (idsOf s.wanted)

/-- The stickers that are linked to as many tags as are wanted and have none of the excluded ones. -/
def grouping (s : TagSelection) : Grouping where
  key := .of "sticker" "id"
  counted := .of "sticker_tag" "tag"
  number := s.wanted.length
  having := if s.excluded.isEmpty then [] else [s.withoutExcluded]

/-- The select over the stickers with every wanted and no excluded tag. A sticker with the wanted tags is found once
for each of them. -/
def select (s : TagSelection) : Select :=
  if s.wanted.isEmpty then { source := { table := "sticker" }, conditions := [s.withoutExcluded] }
  else { source := linked, conditions := [s.linksWanted], grouping := some s.grouping }

end TagSelection

/-- The clause of a condition. -/
def Condition.clause : Condition → Clause
  | .nameLike negated pattern => .test (.like negated (.of "inp" "name") pattern)
  | .packageIs negated name => .test (.equals negated (.of "package" "name") name)
  | .kindIs negated word => .test (.equals negated (.of "inp" "type") word)
  | .modifiedFrom bound => .test (.atLeast (.of "inp" "modify_date") bound)
  | .modifiedUntil bound => .test (.atMost (.of "inp" "modify_date") bound)

/-- The column of a sort field. -/
def orderColumn : SortField → Column
  | .name => .of "inp" "name"
  | .create => .of "inp" "create_date"
  | .modify => .of "inp" "modify_date"

/-- The output that answers as demanded. -/
def Answer.output : Answer → Output
  | .rows order limit offset => .rows (order.map fun o => (orderColumn o.1, o.2)) limit offset
  | .count => .count (.of "inp" "id")

namespace Statement

/-- The select over the rows of a table. -/
def main (table : String) (s : Statement) : Select where
  source := {
    table
    called := "inp"
    joins := if s.conditions.any Condition.readsPackage then [⟨"package", .of "inp" "package", .of "package" "id"⟩]
      else [] }
  conditions := s.conditions.map Condition.clause

/-- The query that a statement stands for. -/
def query (s : Statement) : Query :=
  match s.tagged with
  | none => { main := s.main "sticker", output := s.answer.output }
  | some selection => {
    named := some ("tagged_sticker", selection.select)
    main := s.main "tagged_sticker"
    output := s.answer.output }

end Statement

section
variable {pieces more : List Piece}

theorem render_nil : render [] = "" := String.join_nil

theorem render_fixed (text : String) : render (.fixed text :: pieces) = text ++ render pieces := String.join_cons

theorem render_literal (value : String) : render (.literal value :: pieces) = quote value ++ render pieces :=
  String.join_cons

theorem render_append : render (pieces ++ more) = render pieces ++ render more := by
  unfold render
  rw [List.map_append, String.join_append]

theorem render_joinPieces (separator : String) (parts : List (List Piece)) :
    render (joinPieces separator parts) = separator.intercalate (parts.map render) := by
  induction parts with
  | nil => exact String.intercalate_nil.symm
  | cons p parts ih =>
    cases parts with
    | nil => exact String.intercalate_singleton.symm
    | cons q parts =>
      rw [joinPieces_cons_cons, render_append, render_fixed, ih, List.map_cons, List.map_cons, List.map_cons,
        String.intercalate_cons_cons, String.append_assoc]

end

/-- Texts are equal if they have the same characters, however they are put together. -/
theorem render_tagTest (t : Tag) :
    render (tagTest t) = "(" ++ " AND ".intercalate ((tagTests t).map Test.text) ++ ")" := by
  simp [← String.toList_inj, tagTest, tagTests, render_fixed, render_literal, render_nil, String.intercalate_cons_cons,
    Test.text, Column.of, Column.text, Condition.sign]

/-- The text of a choice between tags. -/
def anyTagText (tags : List Tag) : String := " OR ".intercalate
  ((tags.map tagTests).map fun tests => "(" ++ " AND ".intercalate (tests.map Test.text) ++ ")")

theorem render_anyTagTest (tags : List Tag) : render (anyTagTest tags) = anyTagText tags := by
  have each : render ∘ tagTest
      = (fun tests => "(" ++ " AND ".intercalate (tests.map Test.text) ++ ")") ∘ tagTests := funext render_tagTest
  unfold anyTagTest anyTagText
  rw [render_joinPieces, List.map_map, List.map_map, each]

namespace TagSelection
variable (s : TagSelection) (tags : List Tag)

theorem text_holders : (holders tags).text
    = "SELECT sticker_tag.sticker FROM sticker_tag JOIN tag ON sticker_tag.tag = tag.id WHERE " ++ anyTagText tags := by
  simp [holders, Subquery.text, Source.text, Join.text, Column.of, Column.text, anyTagText]

theorem text_idsOf : (idsOf tags).text = "SELECT id FROM tag WHERE " ++ anyTagText tags := by
  simp [idsOf, Subquery.text, Source.text, Column.text, anyTagText]

theorem text_linked : linked.text = "sticker JOIN sticker_tag ON sticker.id = sticker_tag.sticker" := by
  simp [linked, Source.text, Join.text, Column.of, Column.text]

theorem text_withoutExcluded : s.withoutExcluded.text
    = "sticker.id" ++ (" NOT IN (" ++ ((holders s.excluded).text ++ ")")) := by
  have column : (Column.of "sticker" "id").text = "sticker.id" := by decide
  simp only [withoutExcluded, Clause.text, column, if_true, String.append_assoc]

theorem text_linksWanted : s.linksWanted.text
    = "sticker_tag.tag" ++ (" IN (" ++ ((idsOf s.wanted).text ++ ")")) := by
  have column : (Column.of "sticker_tag" "tag").text = "sticker_tag.tag" := by decide
  simp only [linksWanted, Clause.text, column, Bool.false_eq_true, if_false, String.append_assoc]

theorem render_exclusion : render s.exclusion = s.withoutExcluded.text := by
  have opened : "sticker.id NOT IN (SELECT sticker_tag.sticker FROM sticker_tag "
        ++ "JOIN tag ON sticker_tag.tag = tag.id WHERE "
      = "sticker.id" ++ (" NOT IN ("
        ++ "SELECT sticker_tag.sticker FROM sticker_tag JOIN tag ON sticker_tag.tag = tag.id WHERE ") := by decide
  unfold exclusion
  rw [List.cons_append, render_fixed, render_append, render_fixed, render_nil, render_anyTagTest, opened,
    text_withoutExcluded, text_holders]
  simp only [String.append_assoc, String.append_empty]

theorem text_grouping : s.grouping.text
    = " GROUP BY sticker.id HAVING COUNT(DISTINCT sticker_tag.tag) = " ++ toString s.wanted.length
      ++ (if s.excluded.isEmpty then "" else " AND " ++ s.withoutExcluded.text) := by
  unfold grouping Grouping.text
  cases s.excluded.isEmpty with
  | true => simp [Column.of, Column.text]
  | false => simp [Column.of, Column.text]

theorem render_pieces : render s.pieces = s.select.text "sticker.*" := by
  unfold pieces select
  split
  · have opened : "SELECT sticker.* FROM sticker WHERE " = "SELECT sticker.* FROM sticker" ++ " WHERE " := by decide
    have selected : ({ source := { table := "sticker" }, conditions := [s.withoutExcluded] } : Select).text "sticker.*"
        = "SELECT sticker.* FROM sticker" ++ (" WHERE " ++ s.withoutExcluded.text) := by simp [Select.text, Source.text]
    rw [render_fixed, render_exclusion, opened, String.append_assoc, selected]
  · have opened : "SELECT sticker.* FROM sticker JOIN sticker_tag ON sticker.id = sticker_tag.sticker "
          ++ "WHERE sticker_tag.tag IN (SELECT id FROM tag WHERE "
        = "SELECT sticker.* FROM " ++ ("sticker JOIN sticker_tag ON sticker.id = sticker_tag.sticker"
          ++ (" WHERE " ++ ("sticker_tag.tag" ++ (" IN (" ++ "SELECT id FROM tag WHERE ")))) := by decide
    have closed : ") GROUP BY sticker.id HAVING COUNT(DISTINCT sticker_tag.tag) = "
        = ")" ++ " GROUP BY sticker.id HAVING COUNT(DISTINCT sticker_tag.tag) = " := by decide
    have having : render (if s.excluded.isEmpty then [] else .fixed " AND " :: s.exclusion)
        = if s.excluded.isEmpty then "" else " AND " ++ s.withoutExcluded.text := by
      rw [apply_ite render, render_nil, render_fixed, render_exclusion]
    have columns : "SELECT " ++ "sticker.*" ++ " FROM " = "SELECT sticker.* FROM " := by decide
    rw [render_append, render_append, render_fixed, having, render_anyTagTest, opened, closed]
    unfold Select.text
    rw [columns, text_linked]
    simp only [render_fixed, render_nil, text_grouping, text_linksWanted, text_idsOf, List.isEmpty_cons,
      Option.map_some, Option.getD_some, List.map_cons, List.map_nil, String.intercalate_singleton,
      Bool.false_eq_true, if_false, String.append_assoc, String.append_empty]

end TagSelection

namespace Condition

theorem render_pieces (c : Condition) : render c.pieces = c.clause.text := by
  cases c <;> simp [← String.toList_inj, pieces, clause, render_fixed, render_literal, render_nil, Clause.text,
    Test.text, Column.of, Column.text]

end Condition

namespace Answer

theorem selected_eq (a : Answer) : a.selected = a.output.columns "inp" := by
  cases a with
  | rows => simp [selected, output, Output.columns]
  | count => simp [selected, output, Output.columns, Column.of, Column.text]

theorem clauses_eq (a : Answer) : a.clauses = a.output.ending := by
  cases a with
  | count => rfl
  | rows order limit offset =>
    cases order with
    | none => rfl
    | some order =>
      have column : sortColumn order.1 = (orderColumn order.1).text := by
        cases order.1 <;> simp [sortColumn, orderColumn, Column.of, Column.text]
      unfold clauses output Output.ending Output.orderText
      simp only [column, Option.map_some, Option.getD_some]

end Answer

namespace Statement
variable (s : Statement)

theorem text_source {table : String} (other : "inp" ≠ table) : (s.main table).source.text = table ++ " AS inp" ++
    (if s.conditions.any Condition.readsPackage then " JOIN package ON inp.package = package.id" else "") := by
  unfold main Source.text
  rw [if_neg other]
  cases s.conditions.any Condition.readsPackage with
  | true => simp [Join.text, Column.of, Column.text]
  | false => simp

theorem render_conditions : render (if s.conditions.isEmpty then []
      else .fixed " WHERE " :: joinPieces " AND " (s.conditions.map Condition.pieces))
    = if s.conditions.isEmpty then ""
      else " WHERE " ++ " AND ".intercalate ((s.conditions.map Condition.clause).map Clause.text) := by
  split
  · exact render_nil
  · rw [render_fixed, render_joinPieces, List.map_map, List.map_map]
    exact congrArg (fun f => " WHERE " ++ " AND ".intercalate (s.conditions.map f)) (funext Condition.render_pieces)

theorem render_selectFrom {table : String} (other : "inp" ≠ table) : render (s.selectFrom table)
    = (s.main table).text (s.answer.output.columns "inp") ++ s.answer.output.ending ++ ";" := by
  have source := s.text_source other
  have conditions := s.render_conditions
  have none : (s.main table).conditions.isEmpty = s.conditions.isEmpty := List.isEmpty_map
  unfold selectFrom Select.text
  rw [List.cons_append, render_fixed, render_append, render_fixed, render_nil, conditions, source, none,
    Answer.selected_eq, Answer.clauses_eq]
  simp only [main, String.append_assoc, String.append_empty, Option.map_none, Option.getD_none]

/-- **The text of a statement is the text of its query.** -/
theorem text_query : s.query.text = s.text := by
  unfold query Query.text text pieces
  cases s.tagged with
  | none => exact (s.render_selectFrom (by decide)).symm
  | some selection =>
    have called : selection.select.source.called = "sticker" := by
      unfold TagSelection.select
      split <;> rfl
    have columns : "sticker" ++ ".*" = "sticker.*" := by decide
    have opened : "WITH tagged_sticker AS (" = "WITH " ++ ("tagged_sticker" ++ " AS (") := by decide
    have main := s.render_selectFrom (show "inp" ≠ "tagged_sticker" by decide)
    simp only [Option.map_some, Option.getD_some, called, columns, List.cons_append, render_fixed, render_append,
      selection.render_pieces, main, opened, String.append_assoc]
    rfl

end Statement

end StickerBook.Sql
