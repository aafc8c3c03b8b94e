import StickerBook.Paging

/-!
# Pages of a list

`pageCount` is the least number of pages that hold a list (`pageCount_le_iff`), and its pages make up the list
(`flatMap_pageOf`). A word cannot count past the end of a list that fits into memory, so it does no harm that
the number of skipped rows saturates (`pageOf_eq`). `ArePages` says what a reader gets who turns the pages.
-/

namespace StickerBook
set_option autoImplicit false
variable {α : Type} {rows : List α} {size : Nat}

/-- The pages of a list: one after the other they hold it, all but the last are full and the last is not empty
unless the list is. Fewer pages, but at least one, do not hold the list, and there is nothing beyond them. -/
structure ArePages (size : Nat) (rows : List α) (n : Nat) (pages : Nat → List α) : Prop where
  whole : (List.range n).flatMap pages = rows
  full : ∀ i, i + 1 < n → (pages i).length = size
  last : rows ≠ [] → pages (n - 1) ≠ []
  positive : 1 ≤ n
  least : ∀ m, 1 ≤ m → (List.range m).flatMap pages = rows → n ≤ m
  beyond : ∀ i, n ≤ i → pages i = []

/-- The number of pages is the least one, from one on, with room for all rows. -/
theorem pageCount_le_iff {total n : Nat} (positive : 0 < size) :
    pageCount total size ≤ n ↔ 1 ≤ n ∧ total ≤ n * size := by
  have nonzero : size ≠ 0 := by omega
  have quotient : (total + size - 1) / size ≤ n ↔ total ≤ n * size := by
    rw [← Nat.lt_succ_iff, Nat.div_lt_iff_lt_mul positive, Nat.succ_mul]
    omega
  rw [pageCount, if_neg nonzero, Nat.max_le, quotient]
  exact and_comm

theorem one_le_pageCount (total : Nat) (positive : 0 < size) : 1 ≤ pageCount total size :=
  ((pageCount_le_iff positive).1 (Nat.le_refl _)).1

theorem le_pageCount_mul (total : Nat) (positive : 0 < size) : total ≤ pageCount total size * size :=
  ((pageCount_le_iff positive).1 (Nat.le_refl _)).2

/-- All pages before the last one are full. -/
theorem mul_lt_of_lt_pageCount {total n : Nat} (positive : 0 < size) (some_row : 0 < total)
    (less : n < pageCount total size) : n * size < total := by
  cases n with
  | zero =>
    rw [Nat.zero_mul]
    exact some_row
  | succ n =>
    have short := mt (pageCount_le_iff positive).2 (Nat.not_le.2 less)
    omega

/-- The rows that a page skips are those of the pages before it, however large its number. -/
theorem pageOf_eq (bound : rows.length ≤ maxWord) (page : Nat) :
    pageOf size page rows = (rows.drop (page * size)).take size := by
  unfold pageOf saturatingMul
  rcases Nat.le_total (page * size) maxWord with fits | beyond
  · rw [Nat.min_eq_left fits]
  · rw [Nat.min_eq_right beyond, List.drop_eq_nil_of_le bound,
      List.drop_eq_nil_of_le (Nat.le_trans bound beyond)]

/-- The first pages hold the first rows. -/
theorem flatMap_pageOf (bound : rows.length ≤ maxWord) (n : Nat) :
    (List.range n).flatMap (pageOf size · rows) = rows.take (n * size) := by
  induction n with
  | zero => simp
  | succ n ih =>
    rw [List.range_succ, List.flatMap_append, ih, List.flatMap_singleton, pageOf_eq bound, Nat.succ_mul,
      List.take_add]

theorem length_pageOf (bound : rows.length ≤ maxWord) (page : Nat) :
    (pageOf size page rows).length = min size (rows.length - page * size) := by
  rw [pageOf_eq bound, List.length_take, List.length_drop]

/-- A page before the last one is full. -/
theorem length_pageOf_of_lt (bound : rows.length ≤ maxWord) (positive : 0 < size) {page : Nat}
    (early : page + 1 < pageCount rows.length size) : (pageOf size page rows).length = size := by
  rw [length_pageOf bound]
  have some_row : 0 < rows.length := by
    rcases Nat.eq_zero_or_pos rows.length with empty | some_row
    · have one : pageCount rows.length size ≤ 1 := (pageCount_le_iff positive).2 ⟨Nat.le_refl _, by omega⟩
      omega
    · exact some_row
  have full := mul_lt_of_lt_pageCount positive some_row early
  rw [Nat.succ_mul] at full
  omega

/-- The last page holds a row if there is one. -/
theorem pageOf_last_ne_nil (bound : rows.length ≤ maxWord) (positive : 0 < size) (some_row : rows ≠ []) :
    pageOf size (pageCount rows.length size - 1) rows ≠ [] := by
  have count := one_le_pageCount rows.length positive
  have row := List.length_pos_iff.2 some_row
  have before := mul_lt_of_lt_pageCount positive row
    (show pageCount rows.length size - 1 < pageCount rows.length size by omega)
  apply List.ne_nil_of_length_pos
  rw [length_pageOf bound]
  omega

/-- There is nothing beyond the last page. -/
theorem pageOf_eq_nil (bound : rows.length ≤ maxWord) (positive : 0 < size) {page : Nat}
    (late : pageCount rows.length size ≤ page) : pageOf size page rows = [] := by
  have held := ((pageCount_le_iff positive).1 late).2
  rw [pageOf_eq bound, List.drop_eq_nil_of_le held, List.take_nil]

/-- No fewer pages hold all rows. -/
theorem pageCount_le_of_flatMap (bound : rows.length ≤ maxWord) (positive : 0 < size) {n : Nat}
    (some_page : 1 ≤ n) (whole : ((List.range n).flatMap (pageOf size · rows)).length = rows.length) :
    pageCount rows.length size ≤ n := by
  rw [flatMap_pageOf bound, List.length_take] at whole
  exact (pageCount_le_iff positive).2 ⟨some_page, by omega⟩

/-- A list is shown in its pages. -/
theorem arePages_pageOf (bound : rows.length ≤ maxWord) (positive : 0 < size) :
    ArePages size rows (pageCount rows.length size) (pageOf size · rows) where
  whole := by
    rw [flatMap_pageOf bound]
    exact List.take_of_length_le (le_pageCount_mul rows.length positive)
  full := fun _ early => length_pageOf_of_lt bound positive early
  last := pageOf_last_ne_nil bound positive
  positive := one_le_pageCount rows.length positive
  least := fun _ some_page whole => pageCount_le_of_flatMap bound positive some_page (congrArg List.length whole)
  beyond := fun _ late => pageOf_eq_nil bound positive late

/-- A page can be taken before or after its rows are changed one by one. -/
theorem map_pageOf {β : Type} (f : α → β) (page : Nat) :
    (pageOf size page rows).map f = pageOf size page (rows.map f) := by
  unfold pageOf
  rw [List.map_take, List.map_drop]

end StickerBook
