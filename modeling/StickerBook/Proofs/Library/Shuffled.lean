import Mathlib.Data.List.Sort
import StickerBook.Proofs.Library.Built
import StickerBook.Proofs.Library.Parts
import StickerBook.Proofs.Library.RowOrder

/-!
# Libraries filled in another order

What a library answers depends on what was put into it, but not on the order, if its stickers have different ids
(`Library.answersLike_of_shuffled`). Its packages and the tags that it finds are listed in their own order, and its rows
are sorted until no two of them are level (`Search.rows_eq_of_perm`).
-/

namespace StickerBook
set_option autoImplicit false
open Text (lower trim)

namespace Library
variable {l k : Library} {additions others : List Addition}

/-- Two libraries give the same answer to every question. -/
structure AnswersLike (l k : Library) : Prop where
  search : ∀ text page, l.search text page = k.search text page
  countPages : ∀ text, l.countPages text = k.countPages text
  searchPackages : ∀ input, l.searchPackages input = k.searchPackages input
  searchTags : ∀ input, l.searchTags input = k.searchTags input
  packages : l.packages.names = k.packages.names

/-- Sets of names with the same members are listed alike. -/
theorem names_eq_of_mem_iff {names names' : NameSet} (same : ∀ name, name ∈ names.names ↔ name ∈ names'.names) :
    names.names = names'.names :=
  names.increasing.eq_of_mem_iff names'.increasing same

/-- The tags that are found depend on what the stickers carry only. -/
theorem searchTags_eq_of_carries (same : ∀ t, l.Carries t ↔ k.Carries t) (input : String) :
    l.searchTags input = k.searchTags input := by
  refine pairwise_below_searchTags.eq_of_mem_iff pairwise_below_searchTags fun t => ?_
  rw [mem_searchTags_iff, mem_searchTags_iff, same]

/-- Libraries with the same packages and, in whatever order, the same stickers give the same answers. -/
theorem answersLike_of_perm (size : l.pageSize = k.pageSize) (packages : l.packages.names = k.packages.names)
    (stickers : l.stickers.Perm k.stickers) (ids : (l.stickers.map Sticker.id).Nodup) : l.AnswersLike k where
  search := by
    intro text page
    unfold Library.search
    simp only [Search.rows_eq_of_perm stickers ids, size]
  countPages := by
    intro text
    unfold Library.countPages
    simp only [Search.rows_eq_of_perm stickers ids, size]
  searchPackages := by
    intro input
    unfold Library.searchPackages
    rw [packages]
  searchTags := by
    refine searchTags_eq_of_carries fun t => ?_
    unfold Carries
    simp only [stickers.mem_iff]
  packages := packages

/-- **The order of additions cannot be seen.** Two libraries with one page size that were given the same things in
different orders give the same answers, if their stickers have different ids. -/
theorem answersLike_of_shuffled (left : BuiltBy additions l) (right : BuiltBy others k) (shuffled : additions.Perm others)
    (size : l.pageSize = k.pageSize) (ids : (l.stickers.map Sticker.id).Nodup) : l.AnswersLike k := by
  have packages : l.packages.names = k.packages.names := by
    apply names_eq_of_mem_iff
    intro name
    rw [left.mem_packages_iff, right.mem_packages_iff]
    simp only [shuffled.mem_iff]
  have stickers : l.stickers.Perm k.stickers := by
    rw [left.stickers_eq, right.stickers_eq]
    exact shuffled.filterMap _
  exact answersLike_of_perm size packages stickers ids

/-- Two cats of one name and a dog, put in from a file or one by one. -/
theorem answersLike_of_shuffled_cats :
    let nap : Sticker := { id := 7, name := "cat", package := "Cats", tags := [⟨"misc", "nap"⟩] }
    let wave : Sticker := { id := 3, name := "cat", package := "Cats", tags := [⟨"misc", "cute"⟩, ⟨"misc", "nap"⟩] }
    let dog : Sticker := { id := 5, name := "dog" }
    let l := (ofContents ["Dogs"] [nap, dog, wave]).withPageSize 1
    let k := ((((empty.withPageSize 1).addSticker wave).addSticker nap).addPackage "Dogs").addSticker dog
    BuiltBy [.package "Dogs", .sticker nap, .sticker dog, .sticker wave] l ∧
      BuiltBy [.sticker wave, .sticker nap, .package "Dogs", .sticker dog] k ∧
      [Addition.package "Dogs", .sticker nap, .sticker dog, .sticker wave].Perm
        [.sticker wave, .sticker nap, .package "Dogs", .sticker dog] ∧
      l.pageSize = k.pageSize ∧ (l.stickers.map Sticker.id).Nodup ∧ l.AnswersLike k := by
  intro nap wave dog l k
  have left : BuiltBy [.package "Dogs", .sticker nap, .sticker dog, .sticker wave] l :=
    (builtBy_ofContents ["Dogs"] [nap, dog, wave]).withPageSize 1
  have right : BuiltBy [.sticker wave, .sticker nap, .package "Dogs", .sticker dog] k :=
    (((BuiltBy.empty.withPageSize 1).addSticker wave |>.addSticker nap).addPackage "Dogs").addSticker dog
  have shuffled : [Addition.package "Dogs", .sticker nap, .sticker dog, .sticker wave].Perm
      [.sticker wave, .sticker nap, .package "Dogs", .sticker dog] := by
    decide
  have ids : (l.stickers.map Sticker.id).Nodup := by decide
  exact ⟨left, right, shuffled, rfl, ids, answersLike_of_shuffled left right shuffled rfl ids⟩

end Library

end StickerBook
