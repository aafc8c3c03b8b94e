import StickerBook.Proofs.Search.Meaning
import StickerBook.Proofs.Tag
import StickerBook.Proofs.Text.Lower

/-!
# What a library finds by a piece of a text

Stickers are found by a piece of their name, packages by a piece of their name, and tags by a piece of their written
form, as long as each `Σ` of the piece has the same lower-case form there as in the piece alone
(`Library.found_by_piece`). A word that is typed up to a `Σ` inside it is lost (`Library.lost_at_sigma`).
-/

namespace StickerBook
set_option autoImplicit false
open Text (KeepsSigmas Trimmed contains_iff lower lower_isInfix trim trim_eq_self_iff)

theorem containsFolded_iff {needle text : String} :
    containsFolded needle text = true ↔ lower needle.toList <:+: lower text.toList :=
  contains_iff

theorem containsFolded_piece {before piece after : String}
    (kept : KeepsSigmas before.toList piece.toList after.toList) :
    containsFolded piece (before ++ piece ++ after) = true := by
  rw [containsFolded_iff]
  simpa using lower_isInfix kept

namespace Library
variable {l : Library} {input : String}

/-- Some sticker of the library has the tag. -/
def Carries (l : Library) (t : Tag) : Prop := ∃ s ∈ l.stickers, t ∈ s.tags

instance (l : Library) (t : Tag) : Decidable (l.Carries t) := inferInstanceAs (Decidable (∃ s ∈ l.stickers, t ∈ s.tags))

theorem mem_searchPackages_iff {name : String} : name ∈ l.searchPackages input ↔
    name ∈ l.packages.names ∧ lower (trim input.toList) <:+: lower name.toList := by
  rw [searchPackages, List.mem_filter, containsFolded_iff, Text.toList_trimString]

theorem mem_searchTags_iff {t : Tag} : t ∈ l.searchTags input ↔
    l.Carries t ∧ lower (trim input.toList) <:+: lower t.display.toList := by
  rw [searchTags, mem_distinctBy_id_iff, List.mem_mergeSort, List.mem_filter, containsFolded_iff,
    Text.toList_trimString, List.mem_flatMap, Carries]

/-- The packages that are found are listed in order, each once. -/
theorem pairwise_lt_searchPackages : (l.searchPackages input).Pairwise (· < ·) := l.packages.increasing.filter _

/-- The tags that are found are listed in order, each once. -/
theorem pairwise_below_searchTags : (l.searchTags input).Pairwise Tag.Below := by
  unfold searchTags
  generalize (l.stickers.flatMap Sticker.tags).filter (fun t => containsFolded (Text.trimString input) t.display) = tags
  have sorted := List.pairwise_mergeSort Tag.le_trans Tag.le_total tags
  have level := sorted.sublist (distinctBy_sublist id (tags.mergeSort Tag.le))
  have once := distinctBy_id_nodup (tags.mergeSort Tag.le)
  exact level.imp₂ (fun _ _ le different => Tag.below_of_le le different) once

/-- **Anything is found by a piece of its own text** whose sigmas keep their lower-case form. -/
theorem found_by_piece {before piece after : String} (kept : KeepsSigmas before.toList piece.toList after.toList) :
    (∀ s : Sticker, s.name = before ++ piece ++ after →
      s.satisfies { keywords := [{ value := piece }] } = true ∧
        s.satisfies { keywords := [{ value := piece, negated := true }] } = false) ∧
    (∀ (l : Library) (name : String), Trimmed piece.toList → name ∈ l.packages.names →
      name = before ++ piece ++ after → name ∈ l.searchPackages piece) ∧
    (∀ (l : Library) (t : Tag), Trimmed piece.toList → l.Carries t →
      t.display = before ++ piece ++ after → t ∈ l.searchTags piece) := by
  have found := containsFolded_piece kept
  refine ⟨?keywords, ?packages, ?tags⟩
  case keywords =>
    intro s named
    rw [Sticker.satisfies_keyword, Sticker.satisfies_keyword]
    simp [Sticker.satisfiesKeyword, named, found]
  case packages =>
    intro l name bare member named
    rw [mem_searchPackages_iff, trim_eq_self_iff.2 bare, named]
    exact ⟨named ▸ member, containsFolded_iff.1 found⟩
  case tags =>
    intro l t bare carried written
    rw [mem_searchTags_iff, trim_eq_self_iff.2 bare, written]
    exact ⟨carried, containsFolded_iff.1 found⟩

/-- A sticker whose package and tag bear its name. -/
def bearing (name : String) : Sticker := { id := 1, name, package := name, tags := [⟨"muse", name⟩] }

theorem found_by_piece_odysseus :
    let s := bearing "ΟΔΥΣΣΕΥΣ"
    let l := ofContents [] [s]
    KeepsSigmas "ΟΔΥΣ".toList "ΣΕΥΣ".toList "".toList ∧ Trimmed "ΣΕΥΣ".toList ∧
      s.satisfies { keywords := [{ value := "ΣΕΥΣ" }] } = true ∧
      s.satisfies { keywords := [{ value := "ΣΕΥΣ", negated := true }] } = false ∧
      "ΟΔΥΣΣΕΥΣ" ∈ l.searchPackages "ΣΕΥΣ" ∧ ⟨"muse", "ΟΔΥΣΣΕΥΣ"⟩ ∈ l.searchTags "ΣΕΥΣ" := by
  intro s l
  have kept : KeepsSigmas "ΟΔΥΣ".toList "ΣΕΥΣ".toList "".toList := by decide +kernel
  have kept' : KeepsSigmas "muse:ΟΔΥΣ".toList "ΣΕΥΣ".toList "".toList := by decide +kernel
  have bare : Trimmed "ΣΕΥΣ".toList := by decide +kernel
  have keywords := (found_by_piece kept).1 s rfl
  have package := (found_by_piece kept).2.1 l "ΟΔΥΣΣΕΥΣ" bare (by decide) rfl
  have tag := (found_by_piece kept').2.2 l ⟨"muse", "ΟΔΥΣΣΕΥΣ"⟩ bare (by decide) rfl
  exact ⟨kept, bare, keywords.1, keywords.2, package, tag⟩

/-- The muse is not found while her name is typed: at its end the `Σ` is another letter than inside the name. -/
theorem lost_at_sigma :
    let s := bearing "ΜΟΥΣΑ"
    let l := ofContents [] [s]
    "ΜΟΥΣΑ" = "" ++ "ΜΟΥΣ" ++ "Α" ∧ Trimmed "ΜΟΥΣ".toList ∧
      s.satisfies { keywords := [{ value := "ΜΟΥΣ" }] } = false ∧
      s.satisfies { keywords := [{ value := "ΜΟΥΣ", negated := true }] } = true ∧
      "ΜΟΥΣΑ" ∈ l.packages.names ∧ "ΜΟΥΣΑ" ∉ l.searchPackages "ΜΟΥΣ" ∧
      l.Carries ⟨"muse", "ΜΟΥΣΑ"⟩ ∧ ⟨"muse", "ΜΟΥΣΑ"⟩ ∉ l.searchTags "ΜΟΥΣ" := by
  decide +kernel

end Library

end StickerBook
