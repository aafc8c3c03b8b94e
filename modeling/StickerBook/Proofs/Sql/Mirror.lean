import Mathlib.Data.List.Nodup
import StickerBook.Proofs.Distinct
import StickerBook.Proofs.Sql.Database
import StickerBook.Sticker

/-!
# Databases that mirror stickers

A database mirrors a list of stickers if it has one row for each of them, one for each of their packages and one for
each of their tags, and links every sticker to its tags. Further rows of packages and tags, further columns and repeated
links are allowed, and so is any order of the rows.
-/

namespace StickerBook.Sql
set_option autoImplicit false

/-- A row of `tag` holds a tag. -/
def Row.Holds (row : Row) (t : Tag) : Prop := row "namespace" = .text t.ns ∧ row "value" = .text t.value

/-- A row holds one tag. -/
theorem Row.Holds.unique {row : Row} {t u : Tag} (holds : row.Holds t) (holds' : row.Holds u) : t = u := by
  have ns : t.ns = u.ns := Value.text.inj (holds.1.symm.trans holds'.1)
  have value : t.value = u.value := Value.text.inj (holds.2.symm.trans holds'.2)
  cases t
  cases u
  cases ns
  cases value
  rfl

/-- The tables mirror a list of stickers, of which each has the given row. -/
structure Mirrors (db : Database) (rowOf : Sticker → Row) (stickers : List Sticker) : Prop where
  stored : ∃ order : List Sticker, order.Perm stickers ∧ db "sticker" = order.map rowOf
  ids : ∀ s ∈ stickers, rowOf s "id" = .number s.id
  names : ∀ s ∈ stickers, rowOf s "name" = .text s.name
  kinds : ∀ s ∈ stickers, rowOf s "type" = .text s.kind.display
  created : ∀ s ∈ stickers, rowOf s "create_date" = .number s.createDate
  modified : ∀ s ∈ stickers, rowOf s "modify_date" = .number s.modifyDate
  packageIds : ((db "package").map (· "id")).Nodup
  packages : ∀ s ∈ stickers, ∃ row ∈ db "package", row "id" = rowOf s "package" ∧ row "name" = .text s.package
  tagIds : ((db "tag").map (· "id")).Nodup
  tagTexts : ((db "tag").map fun row => (row "namespace", row "value")).Nodup
  tags : ∀ s ∈ stickers, ∀ t, t ∈ s.tags ↔ ∃ link ∈ db "sticker_tag", ∃ row ∈ db "tag",
    link "sticker" = .number s.id ∧ link "tag" = row "id" ∧ row.Holds t

theorem filter_eq_singleton {α β : Type} [DecidableEq β] {f : α → β} {as : List α} (apart : (as.map f).Nodup) {a : α}
    (member : a ∈ as) : as.filter (fun b => f a = f b) = [a] := by
  induction as with
  | nil => cases member
  | cons b rest ih =>
    obtain ⟨new, later⟩ := List.nodup_cons.1 apart
    rcases List.mem_cons.1 member with rfl | member
    · have others : rest.filter (fun b => f a = f b) = [] := by
        refine List.filter_eq_nil_iff.2 fun b member same => new ?_
        rw [of_decide_eq_true same]
        exact List.mem_map_of_mem member
      simp [others]
    · have other : f a ≠ f b := fun same => new (same ▸ List.mem_map_of_mem member)
      simp [other, ih later member]

namespace Mirrors
variable {db : Database} {rowOf : Sticker → Row} {stickers : List Sticker} (mirrors : Mirrors db rowOf stickers)
include mirrors

/-- The package of a sticker has one row. -/
theorem exists_package {s : Sticker} (member : s ∈ stickers) : ∃ row : Row,
    (db "package").filter (fun r => rowOf s "package" = r "id") = [row] ∧ row "name" = .text s.package := by
  obtain ⟨row, place, id, name⟩ := mirrors.packages s member
  refine ⟨row, ?_, name⟩
  rw [← id]
  exact filter_eq_singleton (f := (· "id")) mirrors.packageIds place

/-- A tag has one row. -/
theorem row_unique {row row' : Row} {t : Tag} (place : row ∈ db "tag") (place' : row' ∈ db "tag") (holds : row.Holds t)
    (holds' : row'.Holds t) : row = row' := by
  refine List.inj_on_of_nodup_map mirrors.tagTexts place place' ?_
  rw [holds.1, holds.2, holds'.1, holds'.2]

/-- The id of a tag is that of no other tag. -/
theorem tag_unique {row row' : Row} {t t' : Tag} (place : row ∈ db "tag") (place' : row' ∈ db "tag")
    (holds : row.Holds t) (holds' : row'.Holds t') (same : row "id" = row' "id") : t = t' := by
  have rows : row = row' := List.inj_on_of_nodup_map mirrors.tagIds place place' same
  exact holds.unique (rows ▸ holds')

end Mirrors

/-- A row with the given values. The other columns do not matter. -/
def Row.of (cells : List (String × Value)) : Row := fun column => (cells.lookup column).getD default

section
variable (stickers : List Sticker)

/-- The packages of some stickers. -/
def packagesOf : List String := distinctBy id (stickers.map Sticker.package)

/-- The tags of some stickers. -/
def tagsOf : List Tag := distinctBy id (stickers.flatMap Sticker.tags)

/-- The number of the place of an element in a list. -/
def placeIn {α : Type} [DecidableEq α] (as : List α) (a : α) : Value := .number (as.idxOf a)

/-- The row of a sticker. Packages and tags are numbered by their places. -/
def stickerRow (s : Sticker) : Row := .of [
  ("id", .number s.id), ("name", .text s.name), ("package", placeIn (packagesOf stickers) s.package),
  ("type", .text s.kind.display), ("create_date", .number s.createDate), ("modify_date", .number s.modifyDate)]

/-- The row of a package. -/
def packageRow (package : String) : Row :=
  .of [("id", placeIn (packagesOf stickers) package), ("name", .text package)]

/-- The row of a tag. -/
def tagRow (t : Tag) : Row :=
  .of [("id", placeIn (tagsOf stickers) t), ("namespace", .text t.ns), ("value", .text t.value)]

/-- The row that links a sticker to a tag. -/
def linkRow (s : Sticker) (t : Tag) : Row := .of [("sticker", .number s.id), ("tag", placeIn (tagsOf stickers) t)]

/-- A database of some stickers. -/
def mirror : Database
  | "sticker" => stickers.map (stickerRow stickers)
  | "package" => (packagesOf stickers).map (packageRow stickers)
  | "tag" => (tagsOf stickers).map (tagRow stickers)
  | "sticker_tag" => stickers.flatMap fun s => s.tags.map (linkRow stickers s)
  | _ => []

end

theorem placeIn_injective {α : Type} [DecidableEq α] {as : List α} {a b : α} (member : a ∈ as)
    (same : placeIn as a = placeIn as b) : a = b :=
  (List.idxOf_inj member).1 (Int.ofNat.inj (Value.number.inj same))

theorem nodup_places {α : Type} [DecidableEq α] {as : List α} (distinct : as.Nodup) : (as.map (placeIn as)).Nodup :=
  List.Nodup.map_on (fun _ member _ _ same => placeIn_injective member same) distinct

theorem mem_tagsOf {stickers : List Sticker} {s : Sticker} {t : Tag} (member : s ∈ stickers) (tagged : t ∈ s.tags) :
    t ∈ tagsOf stickers :=
  mem_distinctBy_id_iff.2 (List.mem_flatMap.2 ⟨s, member, tagged⟩)

theorem tagRow_holds (stickers : List Sticker) (t : Tag) : (tagRow stickers t).Holds t := ⟨rfl, rfl⟩

/-- Every list of stickers with different ids is mirrored. -/
theorem mirrors_mirror {stickers : List Sticker} (apart : (stickers.map Sticker.id).Nodup) :
    Mirrors (mirror stickers) (stickerRow stickers) stickers where
  stored := ⟨stickers, .refl _, rfl⟩
  ids _ _ := rfl
  names _ _ := rfl
  kinds _ _ := rfl
  created _ _ := rfl
  modified _ _ := rfl
  packageIds := by
    have places := nodup_places (distinctBy_id_nodup (stickers.map Sticker.package))
    exact (List.map_map (l := packagesOf stickers)).symm ▸ places
  packages s member := by
    have listed : s.package ∈ packagesOf stickers := mem_distinctBy_id_iff.2 (List.mem_map_of_mem member)
    exact ⟨packageRow stickers s.package, List.mem_map_of_mem listed, rfl, rfl⟩
  tagIds := by
    have places := nodup_places (distinctBy_id_nodup (stickers.flatMap Sticker.tags))
    exact (List.map_map (l := tagsOf stickers)).symm ▸ places
  tagTexts := by
    have texts : ((tagsOf stickers).map fun t => (Value.text t.ns, Value.text t.value)).Nodup := by
      refine (distinctBy_id_nodup _).map fun t u same => ?_
      obtain ⟨ns, value⟩ := Prod.mk.inj same
      have holds : (tagRow stickers t).Holds u := ⟨ns, value⟩
      exact (tagRow_holds stickers t).unique holds
    exact (List.map_map (l := tagsOf stickers)).symm ▸ texts
  tags s member t := by
    constructor
    · intro tagged
      exact ⟨linkRow stickers s t, List.mem_flatMap.2 ⟨s, member, List.mem_map_of_mem tagged⟩, tagRow stickers t,
        List.mem_map_of_mem (mem_tagsOf member tagged), rfl, rfl, tagRow_holds stickers t⟩
    · rintro ⟨link, linked, row, listed, own, same, holds⟩
      obtain ⟨s', member', linked⟩ := List.mem_flatMap.1 linked
      obtain ⟨t', tagged, rfl⟩ := List.mem_map.1 linked
      obtain ⟨u, -, rfl⟩ := List.mem_map.1 listed
      obtain rfl := (tagRow_holds stickers u).unique holds
      have sticker : s' = s :=
        List.inj_on_of_nodup_map apart member' member (Int.ofNat.inj (Value.number.inj own))
      have tag : t' = u := placeIn_injective (mem_tagsOf member' tagged) same
      rw [← sticker, ← tag]
      exact tagged

end StickerBook.Sql
