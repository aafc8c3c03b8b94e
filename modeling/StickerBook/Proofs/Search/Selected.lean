import StickerBook.Library.Basic
import StickerBook.Proofs.Search.Meaning
import StickerBook.Proofs.Sql.Like
import StickerBook.Proofs.Sql.Selected
import StickerBook.Proofs.Text.Ascii
import StickerBook.Search.Statement

/-!
# Searching a mirror of a library

The statements for a search find the same stickers in a database as the search finds in a library that the database
mirrors (`Search.found_in_mirror`), as long as the names of the stickers and the keywords are texts of ASCII: the
database ignores the case of ASCII letters only.
-/

namespace StickerBook.Search
set_option autoImplicit false
open Sql
open Text (Ascii contains_iff lower_ascii)
variable {search : Search} {s : Sticker}

/-- On texts of ASCII a pattern matches like the keyword it is made from. -/
theorem matchesLike_eq_containsFolded {value name : String} (plain : Ascii value) (plain' : Ascii name) :
    matchesLike (containsPattern value) name = containsFolded value name := by
  rw [Bool.eq_iff_iff, matchesLike_containsPattern, containsFolded, contains_iff, lower_ascii plain, lower_ascii plain']

theorem meets_keywordCondition {k : Filter String} (plain : Ascii k.value) (plain' : Ascii s.name) :
    (keywordCondition k).meets s = s.satisfiesKeyword k := by
  rw [keywordCondition, Condition.meets, matchesLike_eq_containsFolded plain plain', Sticker.satisfiesKeyword]

/-- The condition of a meta filter is the property that it names. -/
theorem meets_metaCondition? {m : MetaFilter} (first : search.IsFirst m) (valid : m.key.check m.value = .ok ()) :
    (search.metaCondition? m).all (Condition.meets s) = s.satisfiesMeta search m := by
  unfold metaCondition?
  cases key : m.key with
  | package | sort | order => simp [Sticker.satisfiesMeta, key, Condition.meets]
  | after => cases bound : search.dateBound? .after <;> simp [Sticker.satisfiesMeta, key, bound, Condition.meets]
  | before => cases bound : search.dateBound? .before <;> simp [Sticker.satisfiesMeta, key, bound, Condition.meets]
  | kind =>
    have means := Sticker.satisfiesMeta_iff (s := s) first valid
    rw [Bool.eq_iff_iff, means]
    unfold Sticker.MatchesMeta
    rw [key]
    exact Sticker.bne_negated_iff

theorem all_meets_conditions {text : String} (parsed : parse text = .ok search)
    (agree : ∀ k ∈ search.keywords, (keywordCondition k).meets s = s.satisfiesKeyword k) :
    search.conditions.all (Condition.meets s)
      = (search.keywords.all s.satisfiesKeyword && search.effectiveMetas.all (s.satisfiesMeta search)) := by
  have words : (search.keywords.map keywordCondition).all (Condition.meets s)
      = search.keywords.all s.satisfiesKeyword := by
    rw [List.all_map, Bool.eq_iff_iff, List.all_eq_true, List.all_eq_true]
    refine forall₂_congr fun k member => ?_
    rw [Function.comp_apply, agree k member]
  have metas : (search.effectiveMetas.filterMap search.metaCondition?).all (Condition.meets s)
      = search.effectiveMetas.all (s.satisfiesMeta search) := by
    rw [List.all_filterMap, Bool.eq_iff_iff, List.all_eq_true, List.all_eq_true]
    refine forall₂_congr fun m member => ?_
    have first := mem_effectiveMetas_iff.1 member
    rw [← meets_metaCondition? first (check_of_parse parsed first.mem)]
    cases search.metaCondition? m with
    | none => exact Iff.rfl
    | some c => exact Iff.rfl
  rw [conditions, List.all_append, words, metas]

/-- A selection by tags has the properties that the tag filters name. -/
theorem all_selects_tagSelection? :
    search.tagSelection?.all (fun sel => decide (sel.Selects s)) = search.tags.all s.satisfiesTag := by
  unfold tagSelection?
  cases none : search.tags.isEmpty with
  | true =>
    rw [List.isEmpty_iff.1 none]
    rfl
  | false =>
    rw [if_neg Bool.false_ne_true, Option.all_some, Bool.eq_iff_iff, decide_eq_true_iff, List.all_eq_true]
    unfold TagSelection.Selects
    simp only [mem_distinctBy_id_iff, Sticker.satisfiesTag_iff]
    constructor
    · rintro ⟨wanted, excluded⟩ f member
      cases negated : f.negated with
      | true =>
        have missing := excluded f.value (List.mem_map_of_mem (List.mem_filter.2 ⟨member, negated⟩))
        exact iff_of_false missing (Bool.noConfusion ·)
      | false =>
        have there := wanted f.value (List.mem_map_of_mem (List.mem_filter.2 ⟨member, by simp [negated]⟩))
        exact iff_of_true there rfl
    · intro holds
      constructor
      · intro t asked
        obtain ⟨f, member, rfl⟩ := List.mem_map.1 asked
        obtain ⟨place, negated⟩ := List.mem_filter.1 member
        exact (holds f place).2 (by simpa using negated)
      · intro t asked there
        obtain ⟨f, member, rfl⟩ := List.mem_map.1 asked
        obtain ⟨place, negated⟩ := List.mem_filter.1 member
        exact absurd ((holds f place).1 there) (by simpa using negated)

/-- A statement for a search selects what the search selects, if its conditions for the keywords do. -/
theorem selects_eq_satisfies_of_agree {statement : Statement} (tagged : statement.tagged = search.tagSelection?)
    (conditions : statement.conditions = search.conditions) {text : String} (parsed : parse text = .ok search)
    (agree : ∀ k ∈ search.keywords, (keywordCondition k).meets s = s.satisfiesKeyword k) :
    statement.selects s = s.satisfies search := by
  unfold Statement.selects Sticker.satisfies
  rw [tagged, conditions, all_selects_tagSelection?, all_meets_conditions parsed agree, ← Bool.and_assoc,
    Bool.and_comm (search.tags.all _)]

theorem selects_eq_satisfies {statement : Statement} (tagged : statement.tagged = search.tagSelection?)
    (conditions : statement.conditions = search.conditions) {text : String} (parsed : parse text = .ok search)
    (keywords : ∀ k ∈ search.keywords, Ascii k.value) (name : Ascii s.name) :
    statement.selects s = s.satisfies search :=
  selects_eq_satisfies_of_agree tagged conditions parsed fun k asked => meets_keywordCondition (keywords k asked) name

/-- The statements of a search find some stickers in a database in which these have the given rows. Their texts are
those of queries which select these rows; a first page that has room for all of them puts out all of them. -/
structure FindsIn (search : Search) (db : Database) (rowOf : Sticker → Row) (matching : List Sticker) : Prop where
  text : ∀ page pageSize, (search.pageStatement page pageSize).query.text = (search.pageStatement page pageSize).text
  rows : ∀ page pageSize, ((search.pageStatement page pageSize).query.rows db).Perm (matching.map rowOf)
  answers : ∀ page pageSize, ∃ answer, (search.pageStatement page pageSize).query.Answers db answer
  part : ∀ page pageSize answer, (search.pageStatement page pageSize).query.Answers db answer →
    answer.Subperm (matching.map rowOf)
  all : ∀ pageSize answer, matching.length ≤ pageSize → (search.pageStatement 0 pageSize).query.Answers db answer →
    answer.Perm (matching.map rowOf)
  countText : search.countStatement.query.text = search.countStatement.text
  count : search.countStatement.query.count? db = some matching.length

theorem wanted_nodup {sel : TagSelection} (asked : sel ∈ search.tagSelection?) : sel.wanted.Nodup := by
  unfold tagSelection? at asked
  split at asked
  · cases asked
  · obtain rfl := Option.some.inj asked
    exact distinctBy_id_nodup _

/-- A database that mirrors some stickers finds those that its statements select. -/
theorem findsIn_of_selected {db : Database} {rowOf : Sticker → Row} {stickers matching : List Sticker}
    (mirrors : Mirrors db rowOf stickers) (ids : (stickers.map Sticker.id).Nodup)
    (selected : ∀ statement : Statement, statement.tagged = search.tagSelection? →
      statement.conditions = search.conditions → stickers.filter statement.selects = matching) :
    search.FindsIn db rowOf matching := by
  have page_rows (page pageSize : Nat) :
      ((search.pageStatement page pageSize).query.rows db).Perm (matching.map rowOf) := by
    have found := mirrors.rows_query ids (search.pageStatement page pageSize) fun _ => wanted_nodup
    rwa [selected _ rfl rfl] at found
  have output (page pageSize : Nat) := (search.pageStatement page pageSize).output_query
  refine {
    text := fun page pageSize => (search.pageStatement page pageSize).text_query
    rows := page_rows
    answers := fun page pageSize => Query.exists_answers (output page pageSize)
    part := fun page pageSize _ answers => answers.subperm.trans (page_rows page pageSize).subperm
    all := fun pageSize answer fits answers => ?_
    countText := search.countStatement.text_query
    count := ?_ }
  · have length := mirrors.length_scopes_query ids (search.pageStatement 0 pageSize) fun _ => wanted_nodup
    rw [selected _ rfl rfl] at length
    have first : saturatingMul 0 pageSize = 0 := by simp [saturatingMul]
    have output_first := (output 0 pageSize).trans (congrArg (Output.rows _ pageSize) first)
    exact (answers.perm output_first (length ▸ fits)).trans (page_rows 0 pageSize)
  · have count := mirrors.count?_query ids (fun _ => wanted_nodup) (show search.countStatement.answer = .count from rfl)
    rwa [selected _ rfl rfl] at count

/-- **A database that mirrors a library finds what the library finds.** -/
theorem found_in_mirror {text : String} (parsed : parse text = .ok search) {l : Library} {db : Database}
    {rowOf : Sticker → Row} (mirrors : Mirrors db rowOf l.stickers) (ids : (l.stickers.map Sticker.id).Nodup)
    (names : ∀ s ∈ l.stickers, Ascii s.name) (keywords : ∀ k ∈ search.keywords, Ascii k.value) :
    search.FindsIn db rowOf (l.stickers.filter (·.satisfies search)) := by
  have selected (statement : Statement) (tagged : statement.tagged = search.tagSelection?)
      (conditions : statement.conditions = search.conditions) :
      l.stickers.filter statement.selects = l.stickers.filter (·.satisfies search) :=
    List.filter_congr fun s member => selects_eq_satisfies tagged conditions parsed keywords (names s member)
  exact findsIn_of_selected mirrors ids selected

/-- A library of three stickers, two of them cute cats, one of these with a tag that is not wanted. -/
def cats : Library :=
  .ofContents [] [
    { id := 1, name := "Sleepy cat", package := "Cats", tags := [⟨"female", "cat"⟩, ⟨"misc", "cute"⟩],
      modifyDate := 30 },
    { id := 2, name := "Angry cat", package := "Cats", tags := [⟨"misc", "cute"⟩, ⟨"misc", "nsfw"⟩], modifyDate := 20 },
    { id := 3, name := "Dog wave", tags := [⟨"male", "dog"⟩], kind := .text }]

/-- Cute cats in a package since some date. -/
def cuteCats : Search where
  keywords := [{ value := "cat" }]
  tags := [{ value := ⟨"misc", "cute"⟩ }, { value := ⟨"misc", "nsfw"⟩, negated := true }, { value := ⟨"misc", "cute"⟩ }]
  metas := [{ key := .package, value := "Cats" }, { key := .after, value := "20" }]

theorem found_in_mirror_cats :
    parse "cat misc:cute -misc:nsfw misc:cute package:Cats after:20" = .ok cuteCats ∧
      Mirrors (mirror cats.stickers) (stickerRow cats.stickers) cats.stickers ∧ (cats.stickers.map Sticker.id).Nodup ∧
      (∀ s ∈ cats.stickers, Ascii s.name) ∧ (∀ k ∈ cuteCats.keywords, Ascii k.value) ∧
      cuteCats.FindsIn (mirror cats.stickers) (stickerRow cats.stickers)
        (cats.stickers.filter (·.satisfies cuteCats)) := by
  have parsed : parse "cat misc:cute -misc:nsfw misc:cute package:Cats after:20" = .ok cuteCats := by rfl
  have ids : (cats.stickers.map Sticker.id).Nodup := by decide
  have names : ∀ s ∈ cats.stickers, Ascii s.name := by decide
  have keywords : ∀ k ∈ cuteCats.keywords, Ascii k.value := by decide
  have mirrors := mirrors_mirror ids
  exact ⟨parsed, mirrors, ids, names, keywords, found_in_mirror parsed mirrors ids names keywords⟩

end StickerBook.Search
