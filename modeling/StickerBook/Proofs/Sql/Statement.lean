import StickerBook.Proofs.Sql.Scanning
import StickerBook.Sql.Statement

/-!
# Reading back select statements

No text of a statement can end its literal: the pieces of every statement are separated
(`Statement.separated_pieces`), and what stands outside the literals is the same after the texts are blanked
(`Statement.outside_blank`).
-/

namespace StickerBook.Sql
set_option autoImplicit false

/-- The texts of a list of tags, in the order in which a statement names them. -/
def tagTexts (tags : List Tag) : List String := tags.flatMap fun t => [t.ns, t.value]

/-- A tag without text. -/
def blankTag : Tag where
  ns := ""
  value := ""

theorem separated_tagTest (t : Tag) : Separated (tagTest t) :=
  .fixed (by decide) (.literal (by decide) (.fixed (by decide) (.literal (by decide) (.fixed (by decide) .nil))))

theorem separated_anyTagTest (tags : List Tag) : Separated (anyTagTest tags) := by
  apply Separated.joinPieces (by decide) (by decide)
  intro p member
  obtain ⟨t, -, rfl⟩ := List.mem_map.1 member
  exact separated_tagTest t

theorem literals_anyTagTest (tags : List Tag) : literals (anyTagTest tags) = tagTexts tags := by
  unfold anyTagTest tagTexts
  rw [literals_joinPieces, List.flatMap_map]
  rfl

/-- A test for tags shows no more of them than their number. -/
theorem outside_anyTagTest_blank (tags : List Tag) :
    outside (anyTagTest (tags.map fun _ => blankTag)) = outside (anyTagTest tags) := by
  unfold anyTagTest
  rw [outside_joinPieces, outside_joinPieces, List.map_map, List.map_map, List.map_map]
  rfl

namespace TagSelection
variable (s : TagSelection)

/-- The texts of a selection by tags. -/
def texts : List String := tagTexts s.wanted ++ tagTexts s.excluded

/-- The selection with blank tags. -/
def blank : TagSelection where
  wanted := s.wanted.map fun _ => blankTag
  excluded := s.excluded.map fun _ => blankTag

theorem separated_exclusion : Separated s.exclusion := by
  unfold exclusion
  apply Separated.fixed (.append (by decide +kernel) (by decide +kernel))
  exact (separated_anyTagTest s.excluded).append (by decide) (.fixed (by decide) .nil)

theorem literals_exclusion : literals s.exclusion = tagTexts s.excluded := by
  unfold exclusion
  simp [literals_anyTagTest]

theorem outside_exclusion_blank : outside s.blank.exclusion = outside s.exclusion := by
  have tests : outside (anyTagTest s.blank.excluded) = outside (anyTagTest s.excluded) :=
    outside_anyTagTest_blank s.excluded
  unfold exclusion
  simp only [outside_append, outside_fixed, List.cons_append, tests]

theorem separated_pieces : Separated s.pieces := by
  unfold pieces
  split
  · exact .fixed (by decide) s.separated_exclusion
  · have tail : Separated (if s.excluded.isEmpty then [] else .fixed " AND " :: s.exclusion) := by
      split
      · exact .nil
      · exact .fixed (by decide) s.separated_exclusion
    have count : Plain (") GROUP BY sticker.id HAVING COUNT(DISTINCT sticker_tag.tag) = "
        ++ toString s.wanted.length) :=
      .append (by decide +kernel) (.toString_nat _)
    rw [List.append_assoc]
    apply Separated.fixed (.append (by decide +kernel) (by decide +kernel))
    refine (separated_anyTagTest s.wanted).append ?_ (.fixed count tail)
    exact mt String.append_eq_empty_iff.1 (fun both => absurd both.1 (by decide))

/-- The literals of a selection by tags are the texts of the wanted tags, then those of the excluded ones. -/
theorem literals_pieces : literals s.pieces = s.texts := by
  unfold pieces texts
  split
  · next none_wanted =>
    rw [List.isEmpty_iff.1 none_wanted, literals_fixed, literals_exclusion]
    rfl
  · have tail : literals (if s.excluded.isEmpty then [] else .fixed " AND " :: s.exclusion) = tagTexts s.excluded := by
      split
      · next none_excluded =>
        rw [List.isEmpty_iff.1 none_excluded]
        rfl
      · rw [literals_fixed, literals_exclusion]
    simp only [List.cons_append, literals_fixed, literals_append, literals_anyTagTest, tail, literals_nil,
      List.append_nil]

theorem outside_blank : outside s.blank.pieces = outside s.pieces := by
  have tests : outside (anyTagTest s.blank.wanted) = outside (anyTagTest s.wanted) :=
    outside_anyTagTest_blank s.wanted
  have wanted : s.blank.wanted.length = s.wanted.length := List.length_map _
  have none_wanted : s.blank.wanted.isEmpty = s.wanted.isEmpty := List.isEmpty_map
  have none_excluded : s.blank.excluded.isEmpty = s.excluded.isEmpty := List.isEmpty_map
  unfold pieces
  rw [none_wanted, none_excluded, wanted]
  split
  · rw [outside_fixed, outside_fixed, outside_exclusion_blank]
  · simp only [List.cons_append, outside_fixed, outside_append, tests]
    split
    · rfl
    · rw [outside_fixed, outside_fixed, outside_exclusion_blank]

end TagSelection

namespace Condition

/-- The texts of a condition. A pattern comes with its escape character. -/
def texts : Condition → List String
  | .nameLike _ pattern => [pattern, "\\"]
  | .packageIs _ name => [name]
  | .kindIs _ word => [word]
  | .modifiedFrom _ | .modifiedUntil _ => []

/-- The condition with a blank text. -/
def blank : Condition → Condition
  | .nameLike negated _ => .nameLike negated ""
  | .packageIs negated _ => .packageIs negated ""
  | .kindIs negated _ => .kindIs negated ""
  | .modifiedFrom bound => .modifiedFrom bound
  | .modifiedUntil bound => .modifiedUntil bound

theorem plain_sign (negated : Bool) : Plain (sign negated) := .ite (by decide) (by decide)

theorem separated_pieces (c : Condition) : Separated c.pieces := by
  have blank : Plain " " := by decide
  cases c with
  | nameLike negated pattern =>
    have like : Plain (if negated then "NOT LIKE" else "LIKE") := .ite (by decide) (by decide)
    exact .fixed (.append (.append (by decide) like) blank) (.literal (by decide) (.fixed (by decide) .last))
  | packageIs negated name => exact .fixed (.append (.append (by decide) (plain_sign negated)) blank) .last
  | kindIs negated word => exact .fixed (.append (.append (by decide) (plain_sign negated)) blank) .last
  | modifiedFrom bound => exact .fixed (.append (by decide) (.toString_int bound)) .nil
  | modifiedUntil bound => exact .fixed (.append (by decide) (.toString_int bound)) .nil

theorem literals_pieces (c : Condition) : literals c.pieces = c.texts := by
  cases c <;> rfl

theorem outside_blank (c : Condition) : outside c.blank.pieces = outside c.pieces := by
  cases c <;> rfl

theorem readsPackage_blank (c : Condition) : c.blank.readsPackage = c.readsPackage := by
  cases c <;> rfl

end Condition

namespace Answer

theorem plain_selected (a : Answer) : Plain a.selected := by
  cases a with
  | rows => exact (by decide : Plain "inp.*")
  | count => decide

/-- The clauses of an answer hold the words of a sort column, two numbers and nothing else. -/
theorem plain_clauses (a : Answer) : Plain a.clauses := by
  cases a with
  | count => decide
  | rows order limit offset =>
    have page {sorted : String} (plain : Plain sorted) :
        Plain (sorted ++ " LIMIT " ++ toString limit ++ " OFFSET " ++ toString offset) :=
      .append (.append (.append (.append plain (by decide)) (.toString_nat limit)) (by decide)) (.toString_nat offset)
    cases order with
    | none => exact page (by decide : Plain "")
    | some order =>
      obtain ⟨field, descending⟩ := order
      have column : Plain (sortColumn field) := by
        cases field <;> decide
      have direction : Plain (if descending then "DESC" else "ASC") := .ite (by decide) (by decide)
      exact page (.append (.append (.append (by decide) column) (by decide)) direction)

end Answer

namespace Statement
variable (s : Statement)

/-- The texts of a statement, in the order in which it names them. -/
def texts : List String := (s.tagged.toList.flatMap TagSelection.texts) ++ s.conditions.flatMap Condition.texts

/-- The statement with blank texts. -/
def blank : Statement where
  tagged := s.tagged.map TagSelection.blank
  conditions := s.conditions.map Condition.blank
  answer := s.answer

theorem separated_selectFrom {table : String} (plain : Plain table) : Separated (s.selectFrom table) := by
  have joined : Plain (if s.conditions.any Condition.readsPackage
      then " JOIN package ON inp.package = package.id" else "") := .ite (by decide) (by decide)
  have head : Plain ("SELECT " ++ s.answer.selected ++ " FROM " ++ table ++ " AS inp") :=
    .append (.append (.append (.append (by decide) s.answer.plain_selected) (by decide)) plain) (by decide)
  have clauses : Plain (s.answer.clauses ++ ";") := s.answer.plain_clauses.append (by decide)
  have ends : s.answer.clauses ++ ";" ≠ "" := mt String.append_eq_empty_iff.1 fun both => nomatch both.2
  have conditions : Separated (if s.conditions.isEmpty then []
      else .fixed " WHERE " :: joinPieces " AND " (s.conditions.map Condition.pieces)) := by
    split
    · exact .nil
    · refine .fixed (by decide) (.joinPieces (by decide) (by decide) fun p member => ?_)
      obtain ⟨c, -, rfl⟩ := List.mem_map.1 member
      exact c.separated_pieces
  exact .fixed (head.append joined) (conditions.append ends (.fixed clauses .nil))

theorem literals_selectFrom (table : String) :
    literals (s.selectFrom table) = s.conditions.flatMap Condition.texts := by
  unfold selectFrom
  rw [List.cons_append, literals_fixed, literals_append, literals_fixed, literals_nil, List.append_nil]
  split
  · next none =>
    rw [List.isEmpty_iff.1 none]
    rfl
  · rw [literals_fixed, literals_joinPieces, List.flatMap_map]
    exact congrArg (List.flatMap · s.conditions) (funext Condition.literals_pieces)

theorem outside_selectFrom_blank (table : String) :
    outside (s.blank.selectFrom table) = outside (s.selectFrom table) := by
  have reads : s.blank.conditions.any Condition.readsPackage = s.conditions.any Condition.readsPackage := by
    unfold blank
    rw [List.any_map]
    exact congrArg (List.any s.conditions) (funext Condition.readsPackage_blank)
  have none : s.blank.conditions.isEmpty = s.conditions.isEmpty := List.isEmpty_map
  have parts : (s.blank.conditions.map Condition.pieces).map outside
      = (s.conditions.map Condition.pieces).map outside := by
    unfold blank
    rw [List.map_map, List.map_map, List.map_map]
    exact congrArg (List.map · s.conditions) (funext Condition.outside_blank)
  have answer : s.blank.answer = s.answer := rfl
  have joined : outside (joinPieces " AND " (s.blank.conditions.map Condition.pieces))
      = outside (joinPieces " AND " (s.conditions.map Condition.pieces)) := by
    rw [outside_joinPieces, outside_joinPieces, parts]
  unfold selectFrom
  rw [reads, none, answer]
  cases s.conditions.isEmpty with
  | true => rfl
  | false => simp only [Bool.false_eq_true, if_false, List.cons_append, outside_fixed, outside_append, joined]

/-- The literals of every statement stand apart from each other, and no other text of it holds a quote. -/
theorem separated_pieces : Separated s.pieces := by
  unfold pieces
  cases s.tagged with
  | none => exact s.separated_selectFrom (by decide)
  | some selection =>
    exact .fixed (by decide)
      (selection.separated_pieces.append (by decide) (.fixed (by decide) (s.separated_selectFrom (by decide))))

theorem literals_pieces : literals s.pieces = s.texts := by
  unfold pieces texts
  cases s.tagged with
  | none => exact s.literals_selectFrom _
  | some selection =>
    simp [TagSelection.literals_pieces, literals_selectFrom]

/-- What stands outside the literals does not depend on the texts. -/
theorem outside_blank : outside s.blank.pieces = outside s.pieces := by
  have tagged : s.blank.tagged = s.tagged.map TagSelection.blank := rfl
  have select := s.outside_selectFrom_blank
  unfold pieces
  rw [tagged]
  cases s.tagged with
  | none => exact select "sticker"
  | some selection =>
    simp only [Option.map_some, List.cons_append, outside_fixed, outside_append, selection.outside_blank, select]

end Statement

end StickerBook.Sql
