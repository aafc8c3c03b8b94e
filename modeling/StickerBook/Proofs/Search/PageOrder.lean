import Mathlib.Data.List.Nodup
import Mathlib.Logic.Equiv.Basic
import StickerBook.Proofs.Library.Pages
import StickerBook.Proofs.Library.RowOrder
import StickerBook.Proofs.Search.Selected

/-!
# The order of pages

The library orders the rows of a search by the sort column and rows that agree there by id. A page statement orders
them by the sort column alone, and a database may bring rows that agree there in any order, another one for each page.
The page of the library is always one of those that the database can answer with. It is the only one, and the pages
make up the result, exactly if no two of the stickers that the statement selects agree in the sort column
(`pageOrder_of_parse`).
-/

namespace StickerBook
set_option autoImplicit false
open Sql Text
open Std (OrientedCmp ReflCmp TransCmp)

/-- A rearrangement of the images of a list is the list of images of a rearrangement. -/
theorem exists_perm_of_perm_map {α β : Type} {f : α → β} {as : List α} {bs : List β} (perm : bs.Perm (as.map f)) :
    ∃ as' : List α, as'.Perm as ∧ bs = as'.map f := by
  induction bs generalizing as with
  | nil =>
    have empty : as = [] := List.map_eq_nil_iff.1 perm.nil_eq.symm
    exact ⟨[], empty ▸ .nil, rfl⟩
  | cons b rest ih =>
    obtain ⟨a, member, rfl⟩ := List.mem_map.1 (perm.subset List.mem_cons_self)
    obtain ⟨front, back, rfl⟩ := List.append_of_mem member
    have moved : (f a :: rest).Perm (f a :: (front ++ back).map f) := perm.trans (List.perm_middle.map f)
    obtain ⟨as', perm', rfl⟩ := ih moved.cons_inv
    exact ⟨a :: as', (perm'.cons a).trans List.perm_middle.symm, rfl⟩

/-- A page of one row holds the row with the number of the page. -/
theorem mem_pageOf_one_iff {α : Type} {rows : List α} (bound : rows.length ≤ maxWord) {page : Nat} {a : α} :
    a ∈ pageOf 1 page rows ↔ rows[page]? = some a := by
  rw [pageOf_eq bound, Nat.mul_one, List.take_one, List.head?_drop]
  exact Option.mem_toList

namespace Search
variable {search : Search} {stickers rows : List Sticker} {a b : Sticker}

/-- The stickers that the page statements of a search select. -/
def chosen (search : Search) (stickers : List Sticker) : List Sticker :=
  stickers.filter (search.pageStatement 0 0).selects

/-- The chosen stickers in the order in which a library lists rows. -/
def ranked (search : Search) (stickers : List Sticker) : List Sticker :=
  (search.chosen stickers).mergeSort fun a b => (search.compareRows a b).isLE

/-- No row has one behind it that belongs ahead of it by the sort column. -/
def Arranged (search : Search) (rows : List Sticker) : Prop := rows.Pairwise fun a b => ¬search.Ahead b a

/-- Different rows do not agree in the sort column. -/
def Untied (search : Search) (rows : List Sticker) : Prop :=
  ∀ a ∈ rows, ∀ b ∈ rows, a ≠ b → search.Ahead a b ∨ search.Ahead b a

theorem isLE_compareDirected_iff : (search.compareDirected a b).isLE ↔ ¬search.Ahead b a := by
  have turned : search.compareDirected a b = .gt ↔ search.compareDirected b a = .lt := OrientedCmp.gt_iff_lt
  rw [Ordering.isLE_iff_ne_gt, turned, compareDirected_eq_lt_iff]

/-- Rows agree in the sort column if neither comes ahead of the other. -/
theorem compareDirected_eq_iff : search.compareDirected a b = .eq ↔ ¬search.Ahead a b ∧ ¬search.Ahead b a := by
  have turned : search.compareDirected a b = .gt ↔ search.compareDirected b a = .lt := OrientedCmp.gt_iff_lt
  rw [← compareDirected_eq_lt_iff, ← compareDirected_eq_lt_iff, ← turned]
  cases search.compareDirected a b <;> simp

theorem ranked_perm (search : Search) (stickers : List Sticker) :
    (search.ranked stickers).Perm (search.chosen stickers) := List.mergeSort_perm _ _

theorem mem_ranked_iff : a ∈ search.ranked stickers ↔ a ∈ search.chosen stickers :=
  (search.ranked_perm stickers).mem_iff

theorem length_ranked_le (search : Search) (stickers : List Sticker) :
    (search.ranked stickers).length ≤ stickers.length := by
  rw [(search.ranked_perm stickers).length_eq]
  exact List.length_filter_le _ _

theorem nodup_ranked (ids : (stickers.map Sticker.id).Nodup) : (search.ranked stickers).Nodup :=
  (search.ranked_perm stickers).nodup_iff.2 ((List.Nodup.of_map _ ids).filter _)

/-- The order of a library is one of those by the sort column. -/
theorem arranged_ranked (search : Search) (stickers : List Sticker) : search.Arranged (search.ranked stickers) := by
  have sorted := search.pairwise_mergeSort_compareRows (search.chosen stickers)
  exact sorted.imp fun le => (isLE_compareRows_iff.1 le).1

/-- Rows that are not tied can be arranged in one way only. -/
theorem Arranged.unique {rows' : List Sticker} (arranged : search.Arranged rows) (arranged' : search.Arranged rows')
    (perm : rows.Perm rows') (untied : search.Untied rows) : rows = rows' := by
  refine List.Perm.eq_of_pairwise ?_ arranged arranged' perm
  intro a b left right notAbove notBelow
  by_contra other
  rcases untied a left b (perm.mem_iff.2 right) other with ahead | behind
  · exact notBelow ahead
  · exact notAbove behind

section
variable (tie : search.compareDirected a b = .eq)
include tie

/-- To exchange two rows that agree in the sort column makes no difference to it. -/
theorem compareDirected_swap (s : Sticker) : search.compareDirected (Equiv.swap a b s) s = .eq := by
  rw [Equiv.swap_apply_def]
  split
  · next same =>
    rw [same]
    exact OrientedCmp.eq_symm tie
  · split
    · next same =>
      rw [same]
      exact tie
    · exact ReflCmp.compare_self

theorem Arranged.map_swap (arranged : search.Arranged rows) : search.Arranged (rows.map (Equiv.swap a b)) := by
  refine List.pairwise_map.2 (arranged.imp fun {s t} behind => ?_)
  rw [← compareDirected_eq_lt_iff, TransCmp.congr_left (compareDirected_swap tie t),
    TransCmp.congr_right (compareDirected_swap tie s), compareDirected_eq_lt_iff]
  exact behind

end

/-- To exchange two rows of a list is to rearrange it. -/
theorem map_swap_perm (distinct : rows.Nodup) (left : a ∈ rows) (right : b ∈ rows) :
    (rows.map (Equiv.swap a b)).Perm rows := by
  refine (List.perm_ext_iff_of_nodup (distinct.map (Equiv.swap a b).injective) distinct).2 fun s => ?_
  have kept : ∀ s ∈ rows, Equiv.swap a b s ∈ rows := by
    intro s member
    rw [Equiv.swap_apply_def]
    split
    · exact right
    · split
      · exact left
      · exact member
  constructor
  · intro member
    obtain ⟨t, listed, rfl⟩ := List.mem_map.1 member
    exact kept t listed
  · intro member
    exact List.mem_map.2 ⟨_, kept s member, Equiv.swap_apply_self a b s⟩

/-- Without a sort column no row comes ahead of another. -/
theorem not_ahead_of_unsorted (unsorted : search.sortField? = none) (a b : Sticker) : ¬search.Ahead a b := by
  rintro (⟨-, below⟩ | ⟨-, below⟩)
  · exact not_fieldBelow_of_unsorted unsorted b a below
  · exact not_fieldBelow_of_unsorted unsorted a b below

/-- Then rows are tied unless there is only one. -/
theorem untied_iff_of_unsorted (unsorted : search.sortField? = none) (distinct : rows.Nodup) :
    search.Untied rows ↔ rows.length ≤ 1 := by
  constructor
  · intro untied
    by_contra many
    match rows, many with
    | [], many => exact many (Nat.zero_le 1)
    | [_], many => exact many (Nat.le_refl 1)
    | a :: b :: rest, _ =>
      have other : a ≠ b := fun same => (List.nodup_cons.1 distinct).1 (same ▸ List.mem_cons_self)
      rcases untied a (by simp) b (by simp) other with ahead | behind
      · exact not_ahead_of_unsorted unsorted a b ahead
      · exact not_ahead_of_unsorted unsorted b a behind
  · intro one a left b right other
    obtain ⟨i, hi, rfl⟩ := List.getElem_of_mem left
    obtain ⟨j, hj, rfl⟩ := List.getElem_of_mem right
    obtain rfl : i = j := by omega
    exact absurd rfl other

/-- What a row of the database has in the column of a sort field. -/
def sortValue (field : SortField) (s : Sticker) : Value :=
  match field with
  | .name => .text s.name
  | .create => .number s.createDate
  | .modify => .number s.modifyDate

theorem compare_sortValue {field : SortField} (sorted : search.sortField? = some field) (a b : Sticker) :
    compare (some (sortValue field a)) (some (sortValue field b)) = search.compareField a b := by
  unfold compareField
  rw [sorted]
  cases field <;> rfl

section
variable {db : Database} {rowOf : Sticker → Row} (mirrors : Mirrors db rowOf stickers)
include mirrors

theorem value?_orderColumn (field : SortField) {scope : Scope} (found : scope.lookup "inp" = some (rowOf a))
    (member : a ∈ stickers) : scope.value? (orderColumn field) = some (sortValue field a) := by
  cases field with
  | name => exact (value?_of found).trans (congrArg some (mirrors.names a member))
  | create => exact (value?_of found).trans (congrArg some (mirrors.created a member))
  | modify => exact (value?_of found).trans (congrArg some (mirrors.modified a member))

/-- The database lets one row stand before another unless the sort column says otherwise. -/
theorem lets_iff {field : SortField} (sorted : search.sortField? = some field) {first second : Scope}
    (left : first.lookup "inp" = some (rowOf a)) (right : second.lookup "inp" = some (rowOf b)) (member : a ∈ stickers)
    (member' : b ∈ stickers) :
    Query.lets (orderColumn field, search.descending) first second = true ↔ ¬search.Ahead b a := by
  rw [← isLE_compareDirected_iff]
  unfold Query.lets compareDirected
  rw [value?_orderColumn mirrors field left member, value?_orderColumn mirrors field right member',
    compare_sortValue sorted, compare_sortValue sorted]

/-- **The answers to a page statement** are the pages of the chosen stickers in an order that the sort column allows. -/
theorem answers_pageStatement_iff (ids : (stickers.map Sticker.id).Nodup) {page size : Nat} {answer : List Row} :
    (search.pageStatement page size).query.Answers db answer ↔ ∃ sorted, sorted.Perm (search.chosen stickers) ∧
      search.Arranged sorted ∧ answer = (pageOf size page sorted).map rowOf := by
  obtain ⟨selected, scopeOf, perm, scopes, found⟩ :=
    mirrors.exists_scopes_query ids (search.pageStatement page size) fun _ => wanted_nodup
  change selected.Perm (search.chosen stickers) at perm
  have stored {s : Sticker} (member : s ∈ selected) : s ∈ stickers := (List.mem_filter.1 (perm.subset member)).1
  let order := search.sortField?.map fun field => (orderColumn field, search.descending)
  have output : (search.pageStatement page size).query.output = .rows order size (saturatingMul page size) := by
    rw [Statement.output_query]
    simp [pageStatement, Answer.output, order, Function.comp_def]
  have arranged_iff {sorted : List Sticker} (listed : sorted ⊆ selected) :
      (∀ o ∈ order, (sorted.map scopeOf).Pairwise (Query.lets o · ·)) ↔ search.Arranged sorted := by
    cases sort : search.sortField? with
    | none =>
      have free : search.Arranged sorted :=
        List.pairwise_iff_forall_sublist.2 fun _ => not_ahead_of_unsorted sort _ _
      exact iff_of_true (by simp [order, sort]) free
    | some field =>
      have each : (∀ o ∈ order, (sorted.map scopeOf).Pairwise (Query.lets o · ·))
          ↔ sorted.Pairwise fun a b => Query.lets (orderColumn field, search.descending) (scopeOf a) (scopeOf b) := by
        simp [order, sort, List.pairwise_map]
      rw [each]
      refine List.Pairwise.iff_of_mem fun left right => ?_
      exact lets_iff mirrors sort (found _ (listed left)) (found _ (listed right)) (stored (listed left))
        (stored (listed right))
  have picked {sorted : List Sticker} (listed : sorted ⊆ selected) :
      (((sorted.map scopeOf).drop (saturatingMul page size)).take size).filterMap (·.lookup "inp")
        = (pageOf size page sorted).map rowOf := by
    rw [← List.map_drop, ← List.map_take, List.filterMap_map, ← List.filterMap_eq_map]
    refine List.filterMap_congr fun s place => ?_
    exact found s (listed (List.mem_of_mem_drop (List.mem_of_mem_take place)))
  constructor
  · rintro ⟨order', limit, offset, output', brought, brings, ordered, rfl⟩
    obtain ⟨rfl, rfl, rfl⟩ := Output.rows.inj (output.symm.trans output')
    rw [scopes] at brings
    obtain ⟨sorted, perm', rfl⟩ := exists_perm_of_perm_map brings
    refine ⟨sorted, perm'.trans perm, (arranged_iff perm'.subset).1 ordered, ?_⟩
    rw [Statement.called_query]
    exact picked perm'.subset
  · rintro ⟨sorted, perm', arranged, rfl⟩
    have listed : sorted.Perm selected := perm'.trans perm.symm
    refine ⟨order, size, _, output, sorted.map scopeOf, ?_, (arranged_iff listed.subset).2 arranged, ?_⟩
    · rw [scopes]
      exact listed.map scopeOf
    · rw [Statement.called_query]
      exact (picked listed.subset).symm

/-- Different stickers have different rows. -/
theorem eq_of_row {s t : Sticker} (ids : (stickers.map Sticker.id).Nodup) (left : s ∈ stickers) (right : t ∈ stickers)
    (same : rowOf s = rowOf t) : s = t := by
  have numbers : Value.number s.id = Value.number t.id := by rw [← mirrors.ids s left, ← mirrors.ids t right, same]
  exact List.inj_on_of_nodup_map ids left right (Int.ofNat.inj (Value.number.inj numbers))

/-- Each page of an untied result has one answer, that of the library. -/
theorem answer_unique (ids : (stickers.map Sticker.id).Nodup) (untied : search.Untied (search.chosen stickers))
    {page size : Nat} {answer : List Row} (answers : (search.pageStatement page size).query.Answers db answer) :
    answer = (pageOf size page (search.ranked stickers)).map rowOf := by
  obtain ⟨sorted, perm, arranged, rfl⟩ := (answers_pageStatement_iff mirrors ids).1 answers
  have same : sorted = search.ranked stickers := by
    apply arranged.unique (search.arranged_ranked stickers)
    · exact perm.trans (search.ranked_perm stickers).symm
    · intro a left b right
      exact untied a (perm.mem_iff.1 left) b (perm.mem_iff.1 right)
  rw [same]

/-- Of two tied stickers the database can leave one out, by bringing the other in its place on its page. -/
theorem exists_lost (ids : (stickers.map Sticker.id).Nodup) (bound : stickers.length ≤ maxWord)
    (left : a ∈ search.chosen stickers) (right : b ∈ search.chosen stickers) (other : a ≠ b)
    (tie : search.compareDirected a b = .eq) : ∃ pages : Nat → List Row,
      (∀ page, (search.pageStatement page 1).query.Answers db (pages page)) ∧ ∀ page, rowOf a ∉ pages page := by
  have distinct : (search.ranked stickers).Nodup := nodup_ranked ids
  have swapped := map_swap_perm distinct (mem_ranked_iff.2 left) (mem_ranked_iff.2 right)
  have fits : (search.ranked stickers).length ≤ maxWord := Nat.le_trans (search.length_ranked_le stickers) bound
  obtain ⟨place, inside, here⟩ := List.getElem_of_mem (mem_ranked_iff.2 left)
  let arrangement (page : Nat) : List Sticker :=
    if page = place then (search.ranked stickers).map (Equiv.swap a b) else search.ranked stickers
  have chosen (page : Nat) : (arrangement page).Perm (search.ranked stickers) := by
    by_cases on : page = place
    · simpa [arrangement, on] using swapped
    · simp [arrangement, on]
  refine ⟨fun page => (pageOf 1 page (arrangement page)).map rowOf, fun page => ?_, fun page member => ?_⟩
  · refine (answers_pageStatement_iff mirrors ids).2 ⟨arrangement page, ?_, ?_, rfl⟩
    · exact (chosen page).trans (search.ranked_perm stickers)
    · by_cases on : page = place
      · simpa [arrangement, on] using (search.arranged_ranked stickers).map_swap tie
      · simpa [arrangement, on] using search.arranged_ranked stickers
  · obtain ⟨s, listed, same⟩ := List.mem_map.1 member
    have shown := (mem_pageOf_one_iff (by rw [(chosen page).length_eq]; exact fits)).1 listed
    have stored {s : Sticker} (member : s ∈ search.chosen stickers) : s ∈ stickers := (List.mem_filter.1 member).1
    have known := mem_ranked_iff.1 ((chosen page).mem_iff.1 (List.mem_of_getElem? shown))
    obtain rfl := eq_of_row mirrors ids (stored known) (stored left) same
    by_cases on : page = place
    · -- on its own page it has been exchanged for the other
      have exchanged : ((search.ranked stickers).map (Equiv.swap s b))[place]? = some b := by
        rw [List.getElem?_map, List.getElem?_eq_getElem inside, here]
        exact congrArg some (Equiv.swap_apply_left s b)
      rw [on, show arrangement place = (search.ranked stickers).map (Equiv.swap s b) by simp [arrangement],
        exchanged] at shown
      exact other (Option.some.inj shown).symm
    · rw [show arrangement page = search.ranked stickers by simp [arrangement, on]] at shown
      obtain ⟨within, there⟩ := List.getElem?_eq_some_iff.1 shown
      exact on ((distinct.getElem_inj_iff).1 (there.trans here.symm))

end

/-- What the page statements of a search say about the order of rows, in a database in which stickers have the given
rows. -/
structure PageOrder (search : Search) (db : Database) (rowOf : Sticker → Row) (stickers : List Sticker) : Prop where
  text : ∀ page size, (search.pageStatement page size).query.text = (search.pageStatement page size).text
  /-- The page of the library is a possible answer. -/
  possible : ∀ page size, (search.pageStatement page size).query.Answers db
    ((pageOf size page (search.ranked stickers)).map rowOf)
  /-- It is the only one exactly if no two of the chosen stickers agree in the sort column. -/
  fixed : (∀ page size answer, (search.pageStatement page size).query.Answers db answer →
      answer = (pageOf size page (search.ranked stickers)).map rowOf) ↔ search.Untied (search.chosen stickers)
  /-- Whatever the answers are, the pages neither repeat nor drop a row exactly if that is so. -/
  whole : (∀ size, 0 < size → ∀ pages : Nat → List Row,
      (∀ page, (search.pageStatement page size).query.Answers db (pages page)) →
      ((List.range (pageCount (search.chosen stickers).length size)).flatMap pages).Perm
        ((search.chosen stickers).map rowOf)) ↔ search.Untied (search.chosen stickers)
  /-- Without a sort column it is so only if at most one sticker is chosen. -/
  unsorted : search.sortField? = none →
    (search.Untied (search.chosen stickers) ↔ (search.chosen stickers).length ≤ 1)
  library : (∀ s ∈ stickers, Ascii s.name) → (∀ k ∈ search.keywords, Ascii k.value) →
    search.ranked stickers = search.rows stickers

/-- **The order of pages.** A page statement fixes the order of the library where the sort column alone fixes it. -/
theorem pageOrder_of_parse {text : String} (parsed : parse text = .ok search) {db : Database} {rowOf : Sticker → Row}
    (mirrors : Mirrors db rowOf stickers) (ids : (stickers.map Sticker.id).Nodup)
    (size : stickers.length < UInt64.size) : search.PageOrder db rowOf stickers := by
  have bound : stickers.length ≤ maxWord := Nat.le_of_lt_succ size
  have fits : (search.ranked stickers).length ≤ maxWord := Nat.le_trans (search.length_ranked_le stickers) bound
  let Fixed := ∀ page size answer, (search.pageStatement page size).query.Answers db answer →
    answer = (pageOf size page (search.ranked stickers)).map rowOf
  let Whole := ∀ size, 0 < size → ∀ pages : Nat → List Row,
    (∀ page, (search.pageStatement page size).query.Answers db (pages page)) →
    ((List.range (pageCount (search.chosen stickers).length size)).flatMap pages).Perm
      ((search.chosen stickers).map rowOf)
  -- an untied result has fixed pages, fixed pages are whole, and whole pages leave no room for a tie
  have fixed_of_untied (untied : search.Untied (search.chosen stickers)) : Fixed :=
    fun _ _ _ answers => answer_unique mirrors ids untied answers
  have whole_of_fixed (fixed : Fixed) : Whole := by
    intro size positive pages answers
    have same : pages = fun page => (pageOf size page (search.ranked stickers)).map rowOf :=
      funext fun page => fixed page size (pages page) (answers page)
    rw [same, ← List.map_flatMap, ← (search.ranked_perm stickers).length_eq, (arePages_pageOf fits positive).whole]
    exact (search.ranked_perm stickers).map rowOf
  have untied_of_whole (whole : Whole) : search.Untied (search.chosen stickers) := by
    intro a left b right other
    by_contra level
    obtain ⟨pages, answers, lost⟩ := exists_lost mirrors ids bound left right other
      (compareDirected_eq_iff.2 (not_or.1 level))
    have shown := (whole 1 Nat.one_pos pages answers).mem_iff.2 (List.mem_map_of_mem left)
    obtain ⟨page, -, there⟩ := List.mem_flatMap.1 shown
    exact lost page there
  exact {
    text := fun page size => (search.pageStatement page size).text_query
    possible := fun _ _ => (answers_pageStatement_iff mirrors ids).2
      ⟨_, search.ranked_perm stickers, search.arranged_ranked stickers, rfl⟩
    fixed := ⟨fun fixed => untied_of_whole (whole_of_fixed fixed), fixed_of_untied⟩
    whole := ⟨untied_of_whole, fun untied => whole_of_fixed (fixed_of_untied untied)⟩
    unsorted := fun unsorted => untied_iff_of_unsorted unsorted ((List.Nodup.of_map _ ids).filter _)
    library := fun names keywords => by
      have selected : search.chosen stickers = stickers.filter (·.satisfies search) :=
        List.filter_congr fun s member => selects_eq_satisfies rfl rfl parsed keywords (names s member)
      unfold ranked rows
      rw [selected] }

/-- A search for everything, by name. -/
def byName : Search where
  metas := [{ key := .sort, value := "name" }]

theorem pageOrder_of_parse_cats :
    parse "sort:name" = .ok byName ∧ Mirrors (mirror cats.stickers) (stickerRow cats.stickers) cats.stickers ∧
      (cats.stickers.map Sticker.id).Nodup ∧ cats.stickers.length < UInt64.size ∧
      byName.PageOrder (mirror cats.stickers) (stickerRow cats.stickers) cats.stickers := by
  have parsed : parse "sort:name" = .ok byName := by rfl
  have ids : (cats.stickers.map Sticker.id).Nodup := by decide
  have size : cats.stickers.length < UInt64.size := by decide
  have mirrors := mirrors_mirror ids
  exact ⟨parsed, mirrors, ids, size, pageOrder_of_parse parsed mirrors ids size⟩

/-- Two stickers of one name. -/
def namesakes : List Sticker := [{ id := 1, name := "cat" }, { id := 2, name := "cat" }]

/-- The first of two namesakes can be on both pages, while the library lists the second on the second page. -/
theorem namesake_repeated :
    parse "sort:name" = .ok byName ∧ (namesakes.map Sticker.id).Nodup ∧
      (∀ page < 2, (byName.pageStatement page 1).query.Answers (mirror namesakes)
        [stickerRow namesakes { id := 1, name := "cat" }]) ∧
      ((Library.ofContents [] namesakes).withPageSize 1).search "sort:name" 1
        = .ok [{ id := 2, name := "cat", package := "Inbox", kind := .pic }] := by
  have parsed : parse "sort:name" = .ok byName := by rfl
  have ids : (namesakes.map Sticker.id).Nodup := by decide
  have mirrors := mirrors_mirror ids
  have chosen : byName.chosen namesakes = namesakes := by rfl
  have level {a b : Sticker} (tie : byName.compareDirected a b = .eq) : byName.Arranged [a, b] :=
    List.pairwise_pair.2 (compareDirected_eq_iff.1 tie).2
  have answers : ∀ page < 2, (byName.pageStatement page 1).query.Answers (mirror namesakes)
      [stickerRow namesakes { id := 1, name := "cat" }] := by
    intro page early
    rw [answers_pageStatement_iff mirrors ids, chosen]
    match page with
    | 0 => exact ⟨[{ id := 1, name := "cat" }, { id := 2, name := "cat" }], .refl _, level rfl, rfl⟩
    | 1 => exact ⟨[{ id := 2, name := "cat" }, { id := 1, name := "cat" }], .swap _ _ _, level rfl, rfl⟩
  have listed : byName.rows namesakes = namesakes := List.mergeSort_of_pairwise (by decide)
  have second : ((Library.ofContents [] namesakes).withPageSize 1).search "sort:name" 1
      = .ok [{ id := 2, name := "cat", package := "Inbox", kind := .pic }] := by
    unfold Library.search
    rw [parsed]
    show Except.ok ((pageOf 1 1 (byName.rows namesakes)).map Sticker.thumb) = _
    rw [listed]
    rfl
  exact ⟨parsed, ids, answers, second⟩

end Search

end StickerBook
