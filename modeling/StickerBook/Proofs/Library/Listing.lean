import StickerBook.Proofs.Library.Pages
import StickerBook.Proofs.Library.RowOrder
import StickerBook.Proofs.Search.Meaning

/-!
# What a library answers to a search

The pages of a search make up one listing: every sticker that the search means, at its place in the order asked
for (`Library.Lists`). No row is lost or shown twice on the way to the pages (`Library.exists_listing`).
-/

namespace StickerBook.Library
set_option autoImplicit false

/-- Rows with their places in the library are the answer to a search: the matching stickers, each once, in the
order of the results. -/
structure Lists (l : Library) (search : Search) (rows : List (Sticker × Nat)) : Prop where
  matching : ∀ s i, (s, i) ∈ rows ↔ l.stickers[i]? = some s ∧ s.Matches search
  once : rows.Nodup
  ordered : rows.Pairwise search.Precedes

variable {text : String} {search : Search}

/-- A search has one listing. -/
theorem Lists.unique {l : Library} {rows rows' : List (Sticker × Nat)} (lists : l.Lists search rows)
    (lists' : l.Lists search rows') : rows = rows' := by
  refine lists.ordered.eq_of_mem_iff lists'.ordered fun ⟨s, i⟩ => ?_
  rw [lists.matching, lists'.matching]

theorem lists_placedRows (l : Library) (parsed : Search.parse text = .ok search) :
    l.Lists search (search.placedRows l.stickers) where
  matching := fun s i => by
    rw [Search.mem_placedRows_iff, Sticker.satisfies_iff_matches parsed]
  once := Search.nodup_placedRows
  ordered := Search.pairwise_precedes_placedRows

/-- The thumbs of all rows of a search. -/
def thumbs (l : Library) (search : Search) : List Thumb := (search.rows l.stickers).map Sticker.thumb

theorem thumbs_eq (l : Library) (search : Search) :
    l.thumbs search = (search.placedRows l.stickers).map (·.1.thumb) := by
  unfold thumbs
  rw [← Search.map_placedRows, List.map_map]
  rfl

/-- A search shows no more thumbs than the library has stickers. -/
theorem length_thumbs_le (l : Library) (search : Search) : (l.thumbs search).length ≤ l.stickers.length := by
  unfold thumbs Search.rows
  rw [List.length_map, List.length_mergeSort]
  exact List.length_filter_le _ _

/-- As many rows as there are stickers can be counted by a word. -/
theorem length_thumbs_le_maxWord {l : Library} (size : l.stickers.length < UInt64.size) (search : Search) :
    (l.thumbs search).length ≤ maxWord := by
  have fewer := l.length_thumbs_le search
  unfold UInt64.size at size
  unfold maxWord
  omega

theorem countPages_of_parse (l : Library) (parsed : Search.parse text = .ok search) :
    l.countPages text = .ok (pageCount (l.thumbs search).length l.pageSize) := by
  unfold countPages thumbs
  rw [parsed, List.length_map]
  rfl

theorem search_of_parse (l : Library) (parsed : Search.parse text = .ok search) (page : Nat) :
    l.search text page = .ok (pageOf l.pageSize page (l.thumbs search)) := by
  unfold Library.search thumbs
  rw [parsed, ← map_pageOf]
  rfl

/-- **The answer to a search.** The pages of a search that can be read hold the thumbs of its listing, and the
library tells their number. -/
theorem exists_listing (l : Library) (size : l.stickers.length < UInt64.size)
    (parsed : Search.parse text = .ok search) :
    ∃ n pages rows, l.countPages text = .ok n ∧ (∀ i, l.search text i = .ok (pages i))
      ∧ l.Lists search rows ∧ ArePages l.pageSize (rows.map (·.1.thumb)) n pages := by
  have shown := arePages_pageOf (length_thumbs_le_maxWord size search) l.pageSize_pos
  rw [thumbs_eq] at shown
  exact ⟨_, _, search.placedRows l.stickers, l.countPages_of_parse parsed, l.search_of_parse parsed,
    l.lists_placedRows parsed, l.thumbs_eq search ▸ shown⟩

/-- Five stickers on pages of two, three of them with one name and two of these with one id. -/
def fiveCats : Library :=
  (ofContents [] [
    { id := 7, name := "cat nap" }, { id := 3, name := "dog and cat" }, { id := 1, name := "wildcat" },
    { id := 7, name := "cat nap", package := "Cats" }, { id := 5, name := "cat nap" }]).withPageSize 2

/-- Cats without dogs, the last name first. What is asked for later does not count. -/
theorem exists_listing_cats :
    let text := "cat -dog sort:name order:desc sort:create order:asc"
    ∃ search, Search.parse text = .ok search ∧ fiveCats.stickers.length < UInt64.size ∧
      ∃ n pages rows, fiveCats.countPages text = .ok n ∧ (∀ i, fiveCats.search text i = .ok (pages i)) ∧
        fiveCats.Lists search rows ∧ ArePages 2 (rows.map (·.1.thumb)) n pages ∧
        rows.map (fun row => (row.1.name, row.1.id, row.2))
          = [("wildcat", 1, 2), ("cat nap", 5, 4), ("cat nap", 7, 0), ("cat nap", 7, 3)] := by
  intro text
  let search : Search := {
    keywords := [{ value := "cat" }, { value := "dog", negated := true }]
    metas := [{ key := .sort, value := "name" }, { key := .order, value := "desc" }, { key := .sort, value := "create" },
      { key := .order, value := "asc" }] }
  have parsed : Search.parse text = .ok search := by decide +kernel
  have size : fiveCats.stickers.length < UInt64.size := by decide
  obtain ⟨n, pages, rows, counted, shown, lists, paged⟩ := exists_listing fiveCats size parsed
  refine ⟨search, parsed, size, n, pages, rows, counted, shown, lists, paged, ?_⟩
  have ordered : search.placedRows fiveCats.stickers = [
      ({ id := 1, name := "wildcat" }, 2), ({ id := 5, name := "cat nap" }, 4), ({ id := 7, name := "cat nap" }, 0),
      ({ id := 7, name := "cat nap", package := "Cats" }, 3)] :=
    Search.placedRows_eq (by decide +kernel) (by decide +kernel)
  rw [lists.unique (fiveCats.lists_placedRows parsed), ordered]
  rfl

end StickerBook.Library
