import Mathlib.Data.List.Sort
import StickerBook.Proofs.Distinct
import StickerBook.Proofs.Search.Meaning
import StickerBook.Proofs.Sql.Statement
import StickerBook.Search.Statement

/-!
# The texts of a search in its statements

A statement for a search holds the texts of the search in literals and nowhere else. All that stands outside the
literals is settled by the shape of the search (`Search.texts_stay_in_literals`).
-/

namespace StickerBook.Search
set_option autoImplicit false
open Sql

/-- The wanted tags, as often as they are asked for. -/
def wantedTags (s : Search) : List Tag := (s.tags.filter (!·.negated)).map Filter.value

/-- The unwanted tags. -/
def excludedTags (s : Search) : List Tag := (s.tags.filter (·.negated)).map Filter.value

/-- A filter is reached before any that has the key of another. -/
def Reaches (s : Search) (a b : MetaFilter) : Prop :=
  ∃ front back, s.metas = front ++ a :: back ∧ ∀ c ∈ front ++ [a], c.key ≠ b.key

/-- The first filter for the package and the first one for the kind, as far as there are any, in the order in which they
are reached. -/
structure FirstNamed (s : Search) (named : List MetaFilter) : Prop where
  mem_iff : ∀ m, m ∈ named ↔ s.IsFirst m ∧ (m.key = .package ∨ m.key = .kind)
  ordered : named.Pairwise s.Reaches

/-- The texts of a search in the order in which a statement names them, given the first filters for the package and the
kind. A wanted tag is named once, a keyword by its pattern and the escape character. -/
def texts (s : Search) (named : List MetaFilter) : List String :=
  tagTexts s.wantedTags.eraseDups ++ tagTexts s.excludedTags
    ++ s.keywords.flatMap (fun k => [containsPattern k.value, "\\"]) ++ named.map MetaFilter.value

/-- What a search looks like without its texts. `coincidences` tells for each wanted tag where among them it
stands first. -/
structure Shape where
  keywords : List Bool
  tags : List Bool
  coincidences : List Nat
  metas : List (MetaKey × Bool)
  after : Option Int
  before : Option Int
  sortField : Option SortField
  descending : Bool
deriving DecidableEq, Repr

/-- The shape of a search. -/
def shape (s : Search) : Shape where
  keywords := s.keywords.map Filter.negated
  tags := s.tags.map Filter.negated
  coincidences := s.wantedTags.map fun t => s.wantedTags.idxOf t
  metas := s.metas.map fun m => (m.key, m.negated)
  after := s.dateBound? .after
  before := s.dateBound? .before
  sortField := s.sortField?
  descending := s.descending

namespace Shape

/-- The selection by blank tags. -/
def tagSelection? (shape : Shape) : Option TagSelection :=
  if shape.tags.isEmpty then none
  else some {
    wanted := (distinctBy id shape.coincidences).map fun _ => blankTag
    excluded := (shape.tags.filter id).map fun _ => blankTag }

/-- The condition of a meta filter without its text. -/
def metaCondition? (shape : Shape) (m : MetaKey × Bool) : Option Condition :=
  match m.1 with
  | .package => some (.packageIs m.2 "")
  | .kind => some (.kindIs m.2 "")
  | .after => shape.after.map .modifiedFrom
  | .before => shape.before.map .modifiedUntil
  | .sort | .order => none

/-- The statement with blank texts for the searches of a shape. -/
def statement (shape : Shape) (answer : Answer) : Statement where
  tagged := shape.tagSelection?
  conditions :=
    shape.keywords.map (.nameLike · "") ++ (distinctBy Prod.fst shape.metas).filterMap shape.metaCondition?
  answer := answer

end Shape

variable (s : Search)

/-- The filters for the package and the kind among those that count. -/
def namedMetas : List MetaFilter := s.effectiveMetas.filter fun m => m.key = .package ∨ m.key = .kind

theorem firstNamed_namedMetas : s.FirstNamed s.namedMetas where
  mem_iff m := by
    unfold namedMetas
    rw [List.mem_filter, mem_effectiveMetas_iff, decide_eq_true_iff]
  ordered := (pairwise_distinctBy MetaFilter.key s.metas).filter _

/-- Of two places in a list one is reached first, and what stands there is passed on the way to the other. -/
theorem Reaches.asymm {s : Search} {a b : MetaFilter} (first : s.Reaches a b) : ¬s.Reaches b a := by
  rintro ⟨front', back', parts', new'⟩
  obtain ⟨front, back, parts, new⟩ := first
  have reached : front ++ [a] <+: s.metas := ⟨back, by rw [parts, List.append_assoc]; rfl⟩
  have reached' : front' ++ [b] <+: s.metas := ⟨back', by rw [parts', List.append_assoc]; rfl⟩
  rcases List.prefix_or_prefix_of_prefix reached reached' with within | within
  · exact new' a (within.subset List.mem_concat_self) rfl
  · exact new b (within.subset List.mem_concat_self) rfl

instance : Std.Asymm s.Reaches := ⟨fun _ _ => Reaches.asymm⟩

/-- A search has its first filters in one order only. -/
theorem FirstNamed.unique {s : Search} {named named' : List MetaFilter} (first : s.FirstNamed named)
    (first' : s.FirstNamed named') : named = named' := by
  refine first.ordered.eq_of_mem_iff first'.ordered fun m => ?_
  rw [first.mem_iff, first'.mem_iff]

/-- As many distinct tags are wanted as distinct places among them. -/
theorem blank_distinct_wantedTags : (distinctBy id s.wantedTags).map (fun _ => blankTag)
    = (distinctBy id s.shape.coincidences).map fun _ => blankTag := by
  have places : distinctBy id s.wantedTags = distinctBy (fun t => s.wantedTags.idxOf t) s.wantedTags :=
    distinctBy_congr fun t member _ _ => (List.idxOf_inj member).symm
  unfold shape
  rw [distinctBy_map, List.map_map, places]
  rfl

theorem blank_tagSelection? : s.tagSelection?.map TagSelection.blank = s.shape.tagSelection? := by
  have none : s.shape.tags.isEmpty = s.tags.isEmpty := List.isEmpty_map
  have wanted := s.blank_distinct_wantedTags
  have excluded : s.excludedTags.map (fun _ => blankTag) = (s.shape.tags.filter id).map fun _ => blankTag := by
    unfold excludedTags shape
    rw [List.filter_map, List.map_map, List.map_map]
    rfl
  unfold tagSelection? Shape.tagSelection?
  rw [none, ← wanted, ← excluded]
  cases s.tags.isEmpty with
  | true => rfl
  | false => rfl

/-- A meta filter without its text gives the condition of the filter without its text. -/
theorem blank_metaCondition? (m : MetaFilter) :
    (s.metaCondition? m).map Condition.blank = s.shape.metaCondition? (m.key, m.negated) := by
  unfold metaCondition? Shape.metaCondition? shape
  cases m.key with
  | package | kind | sort | order => rfl
  | after =>
    rw [Option.map_map]
    rfl
  | before =>
    rw [Option.map_map]
    rfl

/-- Of the statement for a search, only the texts are not settled by the shape. -/
theorem blank_eq {statement : Statement} (tagged : statement.tagged = s.tagSelection?)
    (conditions : statement.conditions = s.conditions) :
    statement.blank = s.shape.statement statement.answer := by
  have metas : (s.effectiveMetas.filterMap s.metaCondition?).map Condition.blank
      = (distinctBy Prod.fst s.shape.metas).filterMap s.shape.metaCondition? := by
    have kept : distinctBy Prod.fst s.shape.metas = s.effectiveMetas.map fun m => (m.key, m.negated) :=
      distinctBy_map _ _
    rw [kept, List.filterMap_map, List.map_filterMap]
    exact congrArg (List.filterMap · s.effectiveMetas) (funext s.blank_metaCondition?)
  have keywords : (s.keywords.map keywordCondition).map Condition.blank
      = s.shape.keywords.map (Condition.nameLike · "") := by
    unfold shape
    rw [List.map_map, List.map_map]
    rfl
  unfold Statement.blank Shape.statement
  rw [tagged, conditions, blank_tagSelection?, Search.conditions, List.map_append, keywords, metas]

/-- A condition from a meta filter names the text of a filter for the package or the kind only. -/
theorem texts_metaConditions (metas : List MetaFilter) :
    (metas.filterMap s.metaCondition?).flatMap Condition.texts
      = (metas.filter fun m => m.key = .package ∨ m.key = .kind).map MetaFilter.value := by
  induction metas with
  | nil => rfl
  | cons m rest ih =>
    cases key : m.key with
    | package | kind | sort | order => simp [metaCondition?, key, Condition.texts, ih]
    | after => cases bound : s.dateBound? .after <;> simp [metaCondition?, key, bound, Condition.texts, ih]
    | before => cases bound : s.dateBound? .before <;> simp [metaCondition?, key, bound, Condition.texts, ih]

theorem texts_tagSelection? : s.tagSelection?.toList.flatMap TagSelection.texts
    = tagTexts s.wantedTags.eraseDups ++ tagTexts s.excludedTags := by
  rw [← distinctBy_id_eq_eraseDups]
  unfold tagSelection? wantedTags excludedTags
  cases s.tags with
  | nil => rfl
  | cons t rest => exact List.append_nil _

/-- The texts of a statement for a search are those of the search. -/
theorem texts_eq {statement : Statement} (tagged : statement.tagged = s.tagSelection?)
    (conditions : statement.conditions = s.conditions) : statement.texts = s.texts s.namedMetas := by
  have keywords : (s.keywords.map keywordCondition).flatMap Condition.texts
      = s.keywords.flatMap fun k => [containsPattern k.value, "\\"] :=
    List.flatMap_map _ _ _
  unfold Statement.texts texts namedMetas
  rw [tagged, conditions, texts_tagSelection?, Search.conditions, List.flatMap_append, keywords,
    texts_metaConditions, List.append_assoc, List.append_assoc, List.append_assoc]

/-- What reading a statement for a search yields. -/
theorem scanLiterals_statement {statement : Statement} (tagged : statement.tagged = s.tagSelection?)
    (conditions : statement.conditions = s.conditions) : scanLiterals statement.text = some {
      literals := (s.texts s.namedMetas).map String.toList
      outside := outside (s.shape.statement statement.answer).pieces } := by
  unfold Statement.text
  rw [statement.separated_pieces.scanLiterals_render, statement.literals_pieces, s.texts_eq tagged conditions,
    ← statement.outside_blank, s.blank_eq tagged conditions]

/-- **No text escapes its literal.** Reading the statements of a search from left to right ends outside of any
literal and yields the texts of the search as literals. What stands outside them is a function of the shape. -/
theorem texts_stay_in_literals :
    ∃ (pageText : Shape → Nat → Nat → List Char) (countText : Shape → List Char), ∀ s : Search,
      ∃ named, s.FirstNamed named ∧
        (∀ page pageSize, scanLiterals (s.pageStatement page pageSize).text =
          some { literals := (s.texts named).map String.toList, outside := pageText s.shape page pageSize }) ∧
        scanLiterals s.countStatement.text =
          some { literals := (s.texts named).map String.toList, outside := countText s.shape } := by
  refine ⟨fun shape page pageSize => outside (shape.statement (.rows
      (shape.sortField.map (·, shape.descending)) pageSize (saturatingMul page pageSize))).pieces,
    fun shape => outside (shape.statement .count).pieces,
    fun s => ⟨s.namedMetas, s.firstNamed_namedMetas, fun page pageSize => ?_, ?_⟩⟩
  · exact s.scanLiterals_statement rfl rfl
  · exact s.scanLiterals_statement rfl rfl

/-- Quotes, a backslash and signs of patterns in the texts, a tag that is wanted twice, and filters that come too late. -/
theorem texts_stay_in_literals_cats :
    let cat : Tag := ⟨"female", "cat's"⟩
    let s : Search := {
      keywords := [{ value := "100%'\\_" }, { value := "dog", negated := true }]
      tags := [{ value := cat }, { value := ⟨"misc", "'"⟩, negated := true }, { value := ⟨"misc", "cute"⟩ }, { value := cat }]
      metas := [{ key := .kind, value := "pic" }, { key := .sort, value := "name" },
        { key := .package, value := "Bob's'", negated := true }, { key := .kind, value := "text" },
        { key := .package, value := "Inbox" }] }
    let literals := ["female", "cat's", "misc", "cute", "misc", "'", "%100\\%'\\\\\\_%", "\\", "%dog%", "\\", "pic", "Bob's'"]
    ∃ pageText countText, s.FirstNamed [
        { key := .kind, value := "pic" }, { key := .package, value := "Bob's'", negated := true }] ∧
      scanLiterals (s.pageStatement 1 30).text = some { literals := literals.map String.toList, outside := pageText } ∧
      scanLiterals s.countStatement.text = some { literals := literals.map String.toList, outside := countText } := by
  intro cat s literals
  obtain ⟨pageText, countText, reads⟩ := texts_stay_in_literals
  obtain ⟨named, first, page, count⟩ := reads s
  obtain rfl : named = s.namedMetas := first.unique s.firstNamed_namedMetas
  exact ⟨_, _, first, page 1 30, count⟩

end StickerBook.Search
