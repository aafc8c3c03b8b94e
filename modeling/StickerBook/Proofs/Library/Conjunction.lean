import StickerBook.Proofs.Library.Listing
import StickerBook.Proofs.Search.Beside

/-!
# Search texts as conjunctions

Two search texts with a blank between them ask for what both of them ask for, as long as no key that selects stickers is
given in both: of the filters with one key only the first counts (`Search.matches_append`). So their pages together show
the rows that the pages of both texts show, whichever of the two comes first and however they are sorted
(`Library.shows_both`).
-/

namespace StickerBook
set_option autoImplicit false
open Text (isBlank)

namespace Search
variable {s t : Search} {m : MetaFilter}

/-- What is first in the first of two searches is first in both of them together. -/
theorem IsFirst.append_left (first : s.IsFirst m) (t : Search) : (s ++ t).IsFirst m := by
  obtain ⟨front, back, parts, new⟩ := first
  refine ⟨front, back ++ t.metas, ?_, new⟩
  show s.metas ++ t.metas = _
  rw [parts, List.append_assoc, List.cons_append]

/-- What is first in the second search stays first unless the first one asks for its key. -/
theorem IsFirst.append_right (first : t.IsFirst m) (free : ¬s.Asks m.key) : (s ++ t).IsFirst m := by
  obtain ⟨front, back, parts, new⟩ := first
  refine ⟨s.metas ++ front, back, ?_, fun b member => ?_⟩
  · show s.metas ++ t.metas = _
    rw [parts, List.append_assoc]
  · rcases List.mem_append.1 member with early | late
    · exact fun same => free ⟨b, early, same⟩
    · exact new b late

theorem IsFirst.of_append (first : (s ++ t).IsFirst m) : s.IsFirst m ∨ t.IsFirst m := by
  obtain ⟨front, back, parts, new⟩ := first
  have parts : s.metas ++ t.metas = front ++ m :: back := parts
  rcases List.append_eq_append_iff.1 parts with ⟨between, rfl, behind⟩ | ⟨between, before, behind⟩
  · exact .inr ⟨between, back, behind, fun b member => new b (List.mem_append_right _ member)⟩
  · cases between with
    | nil => exact .inr ⟨[], back, behind.symm, fun _ none => nomatch none⟩
    | cons c between =>
      obtain ⟨rfl, -⟩ := List.cons_eq_cons.1 behind
      exact .inl ⟨front, between, before, new⟩

/-- No key that selects stickers is asked for in both searches. -/
def Apart (s t : Search) : Prop := ∀ key, s.Asks key → t.Asks key → key = .sort ∨ key = .order

theorem Apart.symm (apart : s.Apart t) : t.Apart s := fun key right left => apart key left right

/-- Filters that sort let every sticker pass. -/
theorem matchesMeta_of_sorting (x : Sticker) (sorting : m.key = .sort ∨ m.key = .order) : x.MatchesMeta m := by
  unfold Sticker.MatchesMeta
  rcases sorting with key | key
  · rw [key]
    trivial
  · rw [key]
    trivial

/-- A sticker matches two searches together if it matches each of them. -/
theorem matches_append (apart : s.Apart t) {x : Sticker} : x.Matches (s ++ t) ↔ x.Matches s ∧ x.Matches t := by
  constructor
  · intro both
    obtain ⟨keywords, later⟩ := List.forall_mem_append.1 both.keywords
    obtain ⟨tags, later'⟩ := List.forall_mem_append.1 both.tags
    refine ⟨⟨keywords, tags, fun m first => both.metas m (first.append_left t)⟩, ⟨later, later', fun m first => ?_⟩⟩
    by_cases asked : s.Asks m.key
    · exact matchesMeta_of_sorting x (apart m.key asked ⟨m, first.mem, rfl⟩)
    · exact both.metas m (first.append_right asked)
  · rintro ⟨left, right⟩
    refine ⟨List.forall_mem_append.2 ⟨left.keywords, right.keywords⟩, List.forall_mem_append.2 ⟨left.tags, right.tags⟩,
      fun m first => ?_⟩
    rcases first.of_append with first | first
    · exact left.metas m first
    · exact right.metas m first

end Search

namespace Library
variable {l : Library} {text a b : String} {w : Char} {search s t : Search}

/-- Rows, each with its place in the library, are what the pages of a text show. -/
structure Shows (l : Library) (text : String) (rows : List (Sticker × Nat)) : Prop where
  listed : ∃ search, Search.parse text = .ok search ∧ l.Lists search rows
  paged : ∃ n pages, l.countPages text = .ok n ∧ (∀ i, l.search text i = .ok (pages i))
    ∧ ArePages l.pageSize (rows.map (·.1.thumb)) n pages

theorem shows_placedRows (size : l.stickers.length < UInt64.size) (parsed : Search.parse text = .ok search) :
    l.Shows text (search.placedRows l.stickers) where
  listed := ⟨search, parsed, l.lists_placedRows parsed⟩
  paged := by
    refine ⟨_, _, l.countPages_of_parse parsed, l.search_of_parse parsed, ?_⟩
    rw [← thumbs_eq]
    exact arePages_pageOf (length_thumbs_le_maxWord size search) l.pageSize_pos

/-- A page of a text shows a thumb. -/
def Finds (l : Library) (text : String) (thumb : Thumb) : Prop :=
  ∃ i thumbs, l.search text i = .ok thumbs ∧ thumb ∈ thumbs

/-- The pages show the thumbs of their rows. -/
theorem Shows.finds_iff {rows : List (Sticker × Nat)} (shows : l.Shows text rows) {thumb : Thumb} :
    l.Finds text thumb ↔ ∃ row ∈ rows, row.1.thumb = thumb := by
  obtain ⟨n, pages, -, page, shown⟩ := shows.paged
  rw [← List.mem_map, ← shown.whole, List.mem_flatMap]
  constructor
  · rintro ⟨i, thumbs, found, member⟩
    obtain rfl := Except.ok.inj ((page i).symm.trans found)
    rcases Nat.lt_or_ge i n with inside | outside
    · exact ⟨i, List.mem_range.2 inside, member⟩
    · rw [shown.beyond i outside] at member
      cases member
  · rintro ⟨i, -, member⟩
    exact ⟨i, pages i, page i, member⟩

/-- Where ids are told apart, so are rows by their thumbs. -/
theorem eq_of_thumb (ids : (l.stickers.map Sticker.id).Nodup) {x y : Sticker × Nat} (left : l.stickers[x.2]? = some x.1)
    (right : l.stickers[y.2]? = some y.1) (same : x.1.thumb = y.1.thumb) : x = y := by
  have ids_eq : x.1.id = y.1.id := congrArg Thumb.id same
  have left_id : (l.stickers.map Sticker.id)[x.2]? = some x.1.id := by rw [List.getElem?_map, left, Option.map_some]
  have right_id : (l.stickers.map Sticker.id)[y.2]? = some y.1.id := by rw [List.getElem?_map, right, Option.map_some]
  have inside := (List.getElem?_eq_some_iff.1 left_id).1
  have place : x.2 = y.2 := (List.getElem?_inj inside ids).1 (by rw [left_id, right_id, ids_eq])
  rw [place, right] at left
  exact Prod.ext (Option.some.inj left).symm place

/-- A sticker is selected by two texts with a blank between them if each of them selects it. -/
theorem satisfies_beside (blank : isBlank w = true) (left : Search.parse a = .ok s) (right : Search.parse b = .ok t)
    (apart : s.Apart t) : ∃ both, Search.parse (a ++ String.singleton w ++ b) = .ok both ∧
      ∀ x : Sticker, x.satisfies both = (x.satisfies s && x.satisfies t) := by
  have parsed : Search.parse (a ++ String.singleton w ++ b) = .ok (s ++ t) := by
    rw [Search.parse_append blank left, right]
    rfl
  refine ⟨s ++ t, parsed, fun x => ?_⟩
  rw [Bool.eq_iff_iff, Bool.and_eq_true, Sticker.satisfies_iff_matches parsed, Sticker.satisfies_iff_matches left,
    Sticker.satisfies_iff_matches right]
  exact Search.matches_append apart

/-- The rows that two texts show together are those that both of them show. -/
theorem mem_placedRows_both {both : Search} (selects : ∀ x : Sticker, x.satisfies both = (x.satisfies s && x.satisfies t))
    (stickers : List Sticker) (row : Sticker × Nat) :
    row ∈ both.placedRows stickers ↔ row ∈ s.placedRows stickers ∧ row ∈ t.placedRows stickers := by
  obtain ⟨x, i⟩ := row
  rw [Search.mem_placedRows_iff, Search.mem_placedRows_iff, Search.mem_placedRows_iff, selects, Bool.and_eq_true,
    and_and_left]

/-- So are their thumbs, where ids are told apart. -/
theorem finds_both_iff (ids : (l.stickers.map Sticker.id).Nodup) {both : String} {rows rowsA rowsB : List (Sticker × Nat)}
    (shows : l.Shows both rows) (showsA : l.Shows a rowsA) (showsB : l.Shows b rowsB)
    (common : ∀ row, row ∈ rows ↔ row ∈ rowsA ∧ row ∈ rowsB) (thumb : Thumb) :
    l.Finds both thumb ↔ l.Finds a thumb ∧ l.Finds b thumb := by
  rw [shows.finds_iff, showsA.finds_iff, showsB.finds_iff]
  constructor
  · rintro ⟨row, member, named⟩
    obtain ⟨left, right⟩ := (common row).1 member
    exact ⟨⟨row, left, named⟩, row, right, named⟩
  · rintro ⟨⟨row, left, named⟩, row', right, named'⟩
    obtain ⟨_, -, lists⟩ := showsA.listed
    obtain ⟨_, -, lists'⟩ := showsB.listed
    have place := ((lists.matching row.1 row.2).1 left).1
    have place' := ((lists'.matching row'.1 row'.2).1 right).1
    obtain rfl := eq_of_thumb ids place place' (named.trans named'.symm)
    exact ⟨row, (common row).2 ⟨left, right⟩, named⟩

/-- **Search text is a conjunction.** Of two texts that can be read and give no selecting key twice, the text of both with
a blank between them selects the stickers that each of them selects. In every library its pages show the rows, each with
its place in the library, that the pages of both texts show, and so do its pages if the texts change places. Where ids
are told apart, this can be seen from the thumbs on the pages. -/
theorem shows_both (blank : isBlank w = true) (left : Search.parse a = .ok s) (right : Search.parse b = .ok t)
    (apart : s.Apart t) :
    (∃ both, Search.parse (a ++ String.singleton w ++ b) = .ok both ∧
      ∀ x : Sticker, x.satisfies both = (x.satisfies s && x.satisfies t)) ∧
    ∀ l : Library, l.stickers.length < UInt64.size →
      (∃ rowsA rowsB rows turned, l.Shows a rowsA ∧ l.Shows b rowsB ∧
        l.Shows (a ++ String.singleton w ++ b) rows ∧ l.Shows (b ++ String.singleton w ++ a) turned ∧
        ∀ row, (row ∈ rows ↔ row ∈ rowsA ∧ row ∈ rowsB) ∧ (row ∈ turned ↔ row ∈ rows)) ∧
      ∀ thumb, (l.Finds (b ++ String.singleton w ++ a) thumb ↔ l.Finds (a ++ String.singleton w ++ b) thumb) ∧
        ((l.stickers.map Sticker.id).Nodup →
          (l.Finds (a ++ String.singleton w ++ b) thumb ↔ l.Finds a thumb ∧ l.Finds b thumb)) := by
  obtain ⟨both, parsed, selects⟩ := satisfies_beside blank left right apart
  obtain ⟨turned, parsed', selects'⟩ := satisfies_beside blank right left apart.symm
  refine ⟨⟨both, parsed, selects⟩, fun l size => ?_⟩
  have showsA := shows_placedRows size left
  have showsB := shows_placedRows size right
  have shows := shows_placedRows size parsed
  have showsTurned := shows_placedRows size parsed'
  have common := mem_placedRows_both selects l.stickers
  have same (row : Sticker × Nat) : row ∈ turned.placedRows l.stickers ↔ row ∈ both.placedRows l.stickers := by
    rw [common, mem_placedRows_both selects' l.stickers, and_comm]
  refine ⟨⟨_, _, _, _, showsA, showsB, shows, showsTurned, fun row => ⟨common row, same row⟩⟩, fun thumb => ⟨?_, ?_⟩⟩
  · rw [shows.finds_iff, showsTurned.finds_iff]
    simp only [same]
  · exact fun ids => finds_both_iff ids shows showsA showsB common thumb

/-- Cats by name, and what is in their package, newest first. -/
theorem shows_both_cats :
    let s : Search := { keywords := [{ value := "cat" }], metas := [{ key := .sort, value := "name" }] }
    let t : Search := {
      tags := [{ value := ⟨"misc", "nsfw"⟩, negated := true }],
      metas := [{ key := .package, value := "Cats" }, { key := .sort, value := "modify" }, { key := .order, value := "desc" }] }
    let l : Library := (ofContents [] [
      { id := 4, name := "cat nap", package := "Cats" }, { id := 2, name := "wildcat" },
      { id := 3, name := "Angry cat", package := "Cats", tags := [⟨"misc", "nsfw"⟩] },
      { id := 1, name := "litter box", package := "Cats" }]).withPageSize 2
    let a := "cat sort:name"
    let b := "-misc:nsfw package:Cats sort:modify order:desc"
    isBlank ' ' = true ∧ Search.parse a = .ok s ∧ Search.parse b = .ok t ∧ s.Apart t ∧
      l.stickers.length < UInt64.size ∧ (l.stickers.map Sticker.id).Nodup ∧
      (∃ both, Search.parse (a ++ String.singleton ' ' ++ b) = .ok both ∧
        ∀ x : Sticker, x.satisfies both = (x.satisfies s && x.satisfies t)) ∧
      (∃ rowsA rowsB rows turned, l.Shows a rowsA ∧ l.Shows b rowsB ∧
        l.Shows (a ++ String.singleton ' ' ++ b) rows ∧ l.Shows (b ++ String.singleton ' ' ++ a) turned ∧
        ∀ row, (row ∈ rows ↔ row ∈ rowsA ∧ row ∈ rowsB) ∧ (row ∈ turned ↔ row ∈ rows)) ∧
      ∀ thumb, (l.Finds (b ++ String.singleton ' ' ++ a) thumb ↔ l.Finds (a ++ String.singleton ' ' ++ b) thumb) ∧
        (l.Finds (a ++ String.singleton ' ' ++ b) thumb ↔ l.Finds a thumb ∧ l.Finds b thumb) := by
  intro s t l a b
  have blank : isBlank ' ' = true := by decide
  have left : Search.parse "cat sort:name" = .ok s := by rfl
  have right : Search.parse "-misc:nsfw package:Cats sort:modify order:desc" = .ok t := by rfl
  have apart : s.Apart t := by
    rintro key ⟨m, member, rfl⟩ -
    obtain rfl := List.mem_singleton.1 member
    exact .inl rfl
  have size : l.stickers.length < UInt64.size := by decide
  have ids : (l.stickers.map Sticker.id).Nodup := by decide
  obtain ⟨selected, everywhere⟩ := shows_both blank left right apart
  obtain ⟨rows, thumbs⟩ := everywhere l size
  exact ⟨blank, left, right, apart, size, ids, selected, rows, fun thumb => ⟨(thumbs thumb).1, (thumbs thumb).2 ids⟩⟩

end Library

end StickerBook
