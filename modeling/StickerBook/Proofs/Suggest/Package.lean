import Mathlib.Data.List.Nodup
import StickerBook.Proofs.Library.Built
import StickerBook.Proofs.Suggest.Tag
import StickerBook.Suggest.Package

/-!
# Which packages are suggested

Whether a typed package is new is decided by looking among the packages that were found, but a package is always found by
its own name (`Library.mem_searchPackages_self_iff`). So the box offers to create a package exactly if there is none of
the typed name, and neither this box nor that for tags offers anything twice (`Library.Built.offers_once`).
-/

namespace StickerBook
set_option autoImplicit false
open Text (lower trim trimString trimString_trimString)

theorem Choice.map_value_map_plain {α : Type} [Choosable α] (values : List α) :
    (values.map plain).map Choice.value = values := by
  simp [Function.comp_def, plain]

theorem Choice.map_value_map_creation {α : Type} [Choosable α] (values : List α) :
    (values.map creation).map Choice.value = values := by
  simp [Function.comp_def, creation]

namespace Library
variable {l : Library} {input : String}

/-- The package that can be created under a name: none if the name is blank or taken. -/
def newPackage? (l : Library) (name : String) : Option String :=
  if name ≠ "" ∧ name ∉ l.packages.names then some name else none

/-- The choices for a package input: the default package, one for a new package of the typed name, and the other
packages whose name contains the typed one, in order. -/
structure OffersPackages (l : Library) (input : String) (choices : List (Choice String)) : Prop where
  listing : ∃ others : List String, choices = .plain defaultPackage
      :: ((l.newPackage? (trimString input)).toList.map .creation ++ others.map .plain) ∧
    others.Pairwise (· < ·) ∧
    ∀ name, name ∈ others ↔ name ∈ l.packages.names ∧ name ≠ defaultPackage ∧
      lower (trimString input).toList <:+: lower name.toList
  defaultOnce : (choices.map Choice.value).count defaultPackage = 1
  distinct : (choices.map Choice.value).Nodup

/-- The choices for a tag input: one for the typed tag if it is not found, then the tags whose written form contains the
input, in order. -/
structure OffersTags (l : Library) (input : String) (choices : List (Choice Tag)) : Prop where
  listing : ∃ (created : Option Tag) (found : List Tag),
    choices = created.toList.map .creation ++ found.map .plain ∧
    (∀ t, created = some t ↔ Tag.parse input = .ok t ∧ t ∉ found) ∧ found.Pairwise Tag.Below ∧
    ∀ t, t ∈ found ↔ l.Carries t ∧ lower (trimString input).toList <:+: lower t.display.toList
  distinct : (choices.map Choice.value).Nodup

/-- The choices that a library offers for a package input. -/
def offeredPackages (l : Library) (input : String) : List (Choice String) :=
  packageChoices (trimString input) (l.searchPackages (trimString input))

theorem answer_packageSuggestions (l : Library) (input : String) (page : Nat) :
    (packageSuggestions l.findPackages).answer input page = .ready (l.offeredPackages input) := rfl

/-- A package is found by its own name. -/
theorem mem_searchPackages_self_iff :
    trimString input ∈ l.searchPackages (trimString input) ↔ trimString input ∈ l.packages.names := by
  rw [mem_searchPackages_iff, ← Text.toList_trimString (trimString input), trimString_trimString]
  exact and_iff_left List.infix_rfl

/-- An input is known exactly if a package bears its name; that of the default package is no exception. -/
theorem known_iff (default : defaultPackage ∈ l.packages.names) :
    trimString input = defaultPackage ∨ trimString input ∈ l.searchPackages (trimString input) ↔
      trimString input ∈ l.packages.names := by
  rw [mem_searchPackages_self_iff]
  constructor
  · rintro (same | member)
    · rw [same]
      exact default
    · exact member
  · exact .inr

theorem offeredPackages_eq (default : defaultPackage ∈ l.packages.names) : l.offeredPackages input
    = .plain defaultPackage :: ((l.newPackage? (trimString input)).toList.map .creation
      ++ ((l.searchPackages (trimString input)).filter (· ≠ defaultPackage)).map .plain) := by
  unfold offeredPackages packageChoices newPackage?
  simp only [known_iff default]
  by_cases blank : trimString input = ""
  · simp [blank]
  · by_cases taken : trimString input ∈ l.packages.names
    · simp [taken]
    · simp [blank, taken, Choice.creation, Choosable.label]

theorem newPackage?_eq_some_iff {name other : String} :
    l.newPackage? name = some other ↔ name = other ∧ name ≠ "" ∧ name ∉ l.packages.names := by
  unfold newPackage?
  split
  · next free => simp [free]
  · next free => simp [free]

/-- A new value in front of distinct ones. -/
theorem nodup_toList_append {α : Type} {created : Option α} {values : List α} (distinct : values.Nodup)
    (fresh : ∀ value ∈ created, value ∉ values) : (created.toList ++ values).Nodup := by
  refine List.nodup_append.2 ⟨Option.toList_nodup created, distinct, ?_⟩
  intro value new other listed same
  exact fresh value (Option.mem_toList.1 new) (same ▸ listed)

/-- The default package is not new, and no new package is another one that is listed. -/
theorem distinct_packages (default : defaultPackage ∈ l.packages.names) (name : String) {others : List String}
    (ordered : others.Pairwise (· < ·))
    (known : ∀ other ∈ others, other ∈ l.packages.names ∧ other ≠ defaultPackage) :
    (defaultPackage :: ((l.newPackage? name).toList ++ others)).Nodup := by
  refine List.nodup_cons.2 ⟨?_, nodup_toList_append ordered.nodup ?_⟩
  · intro again
    rcases List.mem_append.1 again with new | other
    · obtain ⟨same, -, free⟩ := newPackage?_eq_some_iff.1 (Option.mem_toList.1 new)
      exact free (same ▸ default)
    · exact (known _ other).2 rfl
  · intro other new listed
    obtain ⟨rfl, -, free⟩ := newPackage?_eq_some_iff.1 new
    exact free (known _ listed).1

/-- The box for packages offers each of its choices once. -/
theorem offersPackages_offeredPackages (default : defaultPackage ∈ l.packages.names) :
    l.OffersPackages input (l.offeredPackages input) := by
  let others := (l.searchPackages (trimString input)).filter (· ≠ defaultPackage)
  have mem_others (name : String) : name ∈ others ↔ name ∈ l.packages.names ∧ name ≠ defaultPackage ∧
      lower (trimString input).toList <:+: lower name.toList := by
    rw [List.mem_filter, decide_eq_true_iff, mem_searchPackages_iff, ← Text.toList_trimString, trimString_trimString]
    tauto
  have ordered : others.Pairwise (· < ·) := pairwise_lt_searchPackages.filter _
  have distinct := distinct_packages default (trimString input) ordered
    fun name member => ⟨((mem_others name).1 member).1, ((mem_others name).1 member).2.1⟩
  have values : (l.offeredPackages input).map Choice.value
      = defaultPackage :: ((l.newPackage? (trimString input)).toList ++ others) := by
    rw [offeredPackages_eq default, List.map_cons, List.map_append, Choice.map_value_map_creation,
      Choice.map_value_map_plain]
    rfl
  rw [← values] at distinct
  exact {
    listing := ⟨others, offeredPackages_eq default, ordered, mem_others⟩
    defaultOnce := List.count_eq_one_of_mem distinct (by simp [values])
    distinct := distinct }

/-- The box for tags offers each of its choices once. -/
theorem offersTags_offeredTags : l.OffersTags input (l.offeredTags input) := by
  have ordered : (l.searchTags input).Pairwise Tag.Below := pairwise_below_searchTags
  have values : (l.offeredTags input).map Choice.value = (l.newTag? input).toList ++ l.searchTags input := by
    rw [offeredTags_eq, List.map_append, Choice.map_value_map_creation, Choice.map_value_map_plain]
  have distinct : ((l.offeredTags input).map Choice.value).Nodup := by
    rw [values]
    apply nodup_toList_append ordered.nodup
    intro t new
    exact (newTag?_eq_some_iff.1 new).2
  refine { listing := ⟨_, _, offeredTags_eq, fun _ => newTag?_eq_some_iff, ordered, fun t => ?_⟩, distinct := distinct }
  rw [mem_searchTags_iff, Text.toList_trimString]

/-- **Nothing is offered twice.** -/
theorem Built.offers_once (built : l.Built) (input : String) (page : Nat) : ∃ packages tags,
    (packageSuggestions l.findPackages).answer input page = .ready packages ∧
    (tagSuggestions l.findTags).answer input page = .ready tags ∧
    l.OffersPackages input packages ∧ l.OffersTags input tags :=
  ⟨_, _, l.answer_packageSuggestions input page, l.answer_tagSuggestions input page,
    offersPackages_offeredPackages built.default_mem, offersTags_offeredTags⟩

/-- A library with a tagged cat, and with two packages of like names. -/
def catalogue : Library :=
  ((Library.empty.addPackage "Catalogue").addPackage "Cats").addSticker
    { id := 1, name := "cat", package := "Cats", tags := [⟨"female", "cat"⟩, ⟨"misc", "cat:ears"⟩] }

theorem Built.offers_once_cat : catalogue.Built ∧ ∃ packages tags,
    (packageSuggestions catalogue.findPackages).answer " cat " 0 = .ready packages ∧
    (tagSuggestions catalogue.findTags).answer " cat " 0 = .ready tags ∧
    catalogue.OffersPackages " cat " packages ∧ catalogue.OffersTags " cat " tags := by
  have built : catalogue.Built := .addSticker _ (.addPackage "Cats" (.addPackage "Catalogue" .empty))
  exact ⟨built, built.offers_once " cat " 0⟩

example : (packageSuggestions (ofContents ["Catalogue", "Cats"] []).findPackages).answer " cat " 0
    = .ready [⟨"Inbox", "Inbox"⟩, ⟨"cat", "Create \"cat\""⟩, ⟨"Catalogue", "Catalogue"⟩, ⟨"Cats", "Cats"⟩] := by
  decide +kernel

end Library

end StickerBook
