import StickerBook.Proofs.Library.Parts
import StickerBook.Suggest.Tag

/-!
# Which tags are suggested

Whether a typed tag is known is decided by looking for the typed text among the tags of the library. That text is longer
than the tag if there are blanks around its colon, and then the tag is not found (`lower_trim_infix_iff`). So a tag is
offered for creation exactly if no sticker carries it or the text spells it with such blanks
(`Library.offers_creation_iff`).
-/

namespace StickerBook
set_option autoImplicit false
open Text (eq_of_lower_isInfix lower trim trimString)

namespace Choice
variable {α : Type}

/-- A choice that is not shown under the plain label of its value. -/
def Synthetic [Choosable α] (c : Choice α) : Prop := c ≠ .plain c.value

/-- The label of a creation is not the name itself. -/
theorem createLabel_ne (name : String) : createLabel name ≠ name := by
  intro same
  have quote : "\"".length = 1 := by decide
  have lengths := congrArg String.length same
  simp only [createLabel, String.length_append, quote] at lengths
  omega

/-- The choice that creates what it names. -/
def creation [Choosable α] (value : α) : Choice α := { value, label := createLabel (Choosable.label value) }

theorem creation_ne_plain [Choosable α] (a b : α) : creation a ≠ plain b := by
  intro same
  obtain ⟨rfl, label⟩ := Choice.mk.inj same
  exact createLabel_ne _ label

theorem synthetic_creation [Choosable α] (value : α) : (creation value).Synthetic := creation_ne_plain value value

theorem plain_mem_map_iff [Choosable α] {value : α} {values : List α} :
    plain value ∈ values.map plain ↔ value ∈ values := by
  refine ⟨fun member => ?_, List.mem_map_of_mem⟩
  obtain ⟨other, there, same⟩ := List.mem_map.1 member
  obtain rfl : other = value := congrArg Choice.value same
  exact there

theorem not_synthetic_of_mem [Choosable α] {c : Choice α} {values : List α} (member : c ∈ values.map plain) :
    ¬c.Synthetic := by
  obtain ⟨value, -, rfl⟩ := List.mem_map.1 member
  exact fun other => other rfl

end Choice

/-- A text that is read as a tag occurs in the written form of that tag only if it is the written form. -/
theorem lower_trim_infix_iff {input : String} {t : Tag} (read : Tag.parse input = .ok t) :
    lower (trim input.toList) <:+: lower t.display.toList ↔ trimString input = t.display := by
  constructor
  · intro found
    have same := eq_of_lower_isInfix (Tag.display_sublist_of_parse read) found
    rw [trimString, ← same, String.ofList_toList]
  · intro same
    have written : trim input.toList = t.display.toList := by rw [← Text.toList_trimString, same]
    exact written ▸ List.infix_rfl

namespace Library
variable {l : Library} {input : String} {t : Tag}

/-- The choices that a library offers for a tag input. -/
def offeredTags (l : Library) (input : String) : List (Choice Tag) := tagChoices input (l.searchTags input)

theorem answer_tagSuggestions (l : Library) (input : String) (page : Nat) :
    (tagSuggestions l.findTags).answer input page = .ready (l.offeredTags input) := rfl

/-- The tag that a library offers for creation: the typed one, unless it is found. -/
def newTag? (l : Library) (input : String) : Option Tag :=
  match Tag.parse input with
  | .ok t => if t ∈ l.searchTags input then none else some t
  | .error _ => none

theorem offeredTags_eq :
    l.offeredTags input = (l.newTag? input).toList.map .creation ++ (l.searchTags input).map .plain := by
  unfold offeredTags tagChoices newTag?
  cases Tag.parse input with
  | error e => rfl
  | ok t =>
    dsimp only
    split <;> rfl

theorem newTag?_eq_some_iff : l.newTag? input = some t ↔ Tag.parse input = .ok t ∧ t ∉ l.searchTags input := by
  unfold newTag?
  cases Tag.parse input with
  | error e => simp
  | ok t' =>
    by_cases found : t' ∈ l.searchTags input
    · simp only [found, if_true, reduceCtorEq, Except.ok.injEq, false_iff, not_and, not_not]
      rintro rfl
      exact found
    · simp only [found, if_false, Option.some.injEq, Except.ok.injEq]
      constructor
      · rintro rfl
        exact ⟨rfl, found⟩
      · exact And.left

/-- A typed tag is found exactly if a sticker carries it and it is typed as it is written. -/
theorem mem_searchTags_of_parse_iff (read : Tag.parse input = .ok t) :
    t ∈ l.searchTags input ↔ l.Carries t ∧ trimString input = t.display := by
  rw [mem_searchTags_iff, lower_trim_infix_iff read]

/-- A library lists what it finds. -/
theorem plain_mem_offeredTags_iff : .plain t ∈ l.offeredTags input ↔ t ∈ l.searchTags input := by
  rw [offeredTags_eq, List.mem_append, Choice.plain_mem_map_iff]
  refine or_iff_right fun created => ?_
  obtain ⟨t', -, same⟩ := List.mem_map.1 created
  exact Choice.creation_ne_plain t' t same

/-- A library offers to create the typed tag unless it finds it, and nothing else. -/
theorem synthetic_mem_offeredTags_iff {c : Choice Tag} : c ∈ l.offeredTags input ∧ c.Synthetic ↔
    ∃ t, Tag.parse input = .ok t ∧ t ∉ l.searchTags input ∧ c = .creation t := by
  rw [offeredTags_eq, List.mem_append]
  constructor
  · rintro ⟨created | listed, synthetic⟩
    · obtain ⟨t, new, rfl⟩ := List.mem_map.1 created
      obtain ⟨read, missing⟩ := newTag?_eq_some_iff.1 (Option.mem_toList.1 new)
      exact ⟨t, read, missing, rfl⟩
    · exact absurd synthetic (Choice.not_synthetic_of_mem listed)
  · rintro ⟨t, read, missing, rfl⟩
    have new : t ∈ (l.newTag? input).toList := Option.mem_toList.2 (newTag?_eq_some_iff.2 ⟨read, missing⟩)
    exact ⟨.inl (List.mem_map_of_mem new), Choice.synthetic_creation t⟩

/-- **When a tag can be created.** Exactly the tag that is typed is offered for creation, unless a sticker carries it and
the text spells it without blanks around its colon; just then the typed tag is listed. -/
theorem offers_creation_iff (l : Library) (input : String) (page : Nat) :
    ∃ choices, (tagSuggestions l.findTags).answer input page = .ready choices ∧
      (∀ c, c ∈ choices ∧ c.Synthetic ↔ ∃ t, Tag.parse input = .ok t ∧
        ¬(l.Carries t ∧ trimString input = t.display) ∧ c = .creation t) ∧
      ∀ t, Tag.parse input = .ok t →
        (.plain t ∈ choices ↔ l.Carries t ∧ trimString input = t.display) := by
  refine ⟨l.offeredTags input, l.answer_tagSuggestions input page, fun c => ?created, fun t read => ?listed⟩
  case created =>
    rw [synthetic_mem_offeredTags_iff]
    refine exists_congr fun t => and_congr_right fun read => ?_
    rw [mem_searchTags_of_parse_iff read]
  case listed => rw [plain_mem_offeredTags_iff, mem_searchTags_of_parse_iff read]

/-- A library with a tagged cat. -/
def taggedCat : Library := .ofContents [] [{ id := 1, name := "cat", tags := [⟨"female", "cat"⟩] }]

theorem offers_creation_cat :
    Tag.parse " female:cat" = .ok ⟨"female", "cat"⟩ ∧
      ∃ choices, (tagSuggestions taggedCat.findTags).answer " female:cat" 0 = .ready choices ∧
        (.plain ⟨"female", "cat"⟩ ∈ choices ↔
          taggedCat.Carries ⟨"female", "cat"⟩ ∧ trimString " female:cat" = "female:cat") := by
  have read : Tag.parse " female:cat" = .ok ⟨"female", "cat"⟩ := by decide +kernel
  obtain ⟨choices, answered, -, listed⟩ := offers_creation_iff taggedCat " female:cat" 0
  exact ⟨read, choices, answered, listed _ read⟩

/-- The tag of the cat is typed with blanks around its colon: it is offered for creation, and it is not listed. -/
theorem creates_known_tag :
    Tag.parse "female : cat" = .ok ⟨"female", "cat"⟩ ∧ taggedCat.Carries ⟨"female", "cat"⟩ ∧
      (tagSuggestions taggedCat.findTags).answer "female : cat" 0
        = .ready [⟨⟨"female", "cat"⟩, "Create \"female:cat\""⟩] := by
  decide +kernel

end Library

end StickerBook
