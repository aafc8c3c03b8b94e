import Mathlib.Data.List.Sort
import StickerBook.Proofs.Search.Meaning
import StickerBook.Proofs.Sorting

/-!
# The order of results

`Search.Precedes` says which of two stickers a search lists first: by the column that its first `sort` filter names, in
the direction of its first `order` filter, then by id, then by the place in the library. The comparison that runs reads
column and direction as they are meant (`compareField_eq_lt_iff`, `descending_iff`). It is transitive and total, and the
sort keeps rows that it cannot tell apart in their order (`pairwise_mergeSort_of_pairwise`), so the rows stand in this
order (`pairwise_precedes_placedRows`). Where ids are told apart, places do not matter (`rows_eq_of_perm`).
-/

namespace StickerBook
set_option autoImplicit false
open Std (OrientedCmp TransCmp)

namespace Search
variable {search : Search}

/-- A sticker stands below another in a column, by the word for the column. -/
def Below (column : String) (a b : Sticker) : Prop :=
  column = "name" ∧ a.name < b.name ∨ column = "create" ∧ a.createDate < b.createDate
    ∨ column = "modify" ∧ a.modifyDate < b.modifyDate

/-- A sticker stands below another in the sort column, which is the one that the first `sort` filter names. -/
def FieldBelow (search : Search) (a b : Sticker) : Prop :=
  ∃ m, search.IsFirst m ∧ m.key = .sort ∧ Below m.value a b

/-- The first `order` filter asks for the column from high to low. -/
def Reversed (search : Search) : Prop := ∃ m, search.IsFirst m ∧ m.key = .order ∧ m.value = "desc"

/-- A sticker comes before another by the sort column, in the direction that is asked for. -/
def Ahead (search : Search) (a b : Sticker) : Prop :=
  search.Reversed ∧ search.FieldBelow b a ∨ ¬search.Reversed ∧ search.FieldBelow a b

/-- A sticker with its place in the library comes before another one in the results. Only the sort column
follows the direction that is asked for. -/
def Precedes (search : Search) (x y : Sticker × Nat) : Prop :=
  search.Ahead x.1 y.1
    ∨ ¬search.Ahead y.1 x.1 ∧ (x.1.id < y.1.id ∨ x.1.id = y.1.id ∧ x.2 < y.2)

instance : TransCmp search.compareField := by
  unfold compareField
  split
  · exact { eq_swap := rfl, isLE_trans := fun _ _ => rfl }
  · exact inferInstanceAs (TransCmp (compareOn Sticker.name))
  · exact inferInstanceAs (TransCmp (compareOn Sticker.createDate))
  · exact inferInstanceAs (TransCmp (compareOn Sticker.modifyDate))

theorem descending_iff : search.descending = true ↔ search.Reversed := by
  unfold descending Reversed
  simp only [Option.any_eq_true, decide_eq_true_eq, meta?_eq_some_iff, and_assoc]

/-- The sort column is the one that the first filter for it names. -/
theorem sortField?_eq_some_iff {field : SortField} :
    search.sortField? = some field ↔ ∃ m, search.IsFirst m ∧ m.key = .sort ∧ field.display = m.value := by
  unfold sortField?
  simp only [Option.bind_eq_some_iff, meta?_eq_some_iff, SortField.ofString?_eq_some_iff, and_assoc]

theorem exists_field_of_below {column : String} {a b : Sticker} (below : Below column a b) :
    ∃ field : SortField, field.display = column := by
  rcases below with ⟨rfl, -⟩ | ⟨rfl, -⟩ | ⟨rfl, -⟩
  · exact ⟨.name, rfl⟩
  · exact ⟨.create, rfl⟩
  · exact ⟨.modify, rfl⟩

/-- Without a sort column no sticker stands below another. -/
theorem not_fieldBelow_of_unsorted (unsorted : search.sortField? = none) (a b : Sticker) : ¬search.FieldBelow a b := by
  rintro ⟨m, first, key, below⟩
  obtain ⟨field, named⟩ := exists_field_of_below below
  have sorted := sortField?_eq_some_iff.2 ⟨m, first, key, named⟩
  rw [unsorted] at sorted
  cases sorted

theorem compareField_eq_lt_iff {a b : Sticker} : search.compareField a b = .lt ↔ search.FieldBelow a b := by
  unfold compareField
  cases sort : search.sortField? with
  | none => exact iff_of_false Ordering.noConfusion (not_fieldBelow_of_unsorted sort a b)
  | some field =>
    obtain ⟨m, first, key, named⟩ := sortField?_eq_some_iff.1 sort
    have asked : search.FieldBelow a b ↔ Below m.value a b := by
      constructor
      · rintro ⟨m', first', key', below⟩
        rw [first.unique first' (key.trans key'.symm)]
        exact below
      · exact fun below => ⟨m, first, key, below⟩
    rw [asked, ← named]
    cases field with
    | name | create | modify =>
      refine compareOfLessAndEq_eq_lt.trans ?_
      simp [Below, SortField.display]

/-- The comparison by the sort column, in the direction that is asked for. -/
def compareDirected (search : Search) (a b : Sticker) : Ordering :=
  if search.descending then search.compareField b a else search.compareField a b

theorem compareRows_eq (a b : Sticker) :
    search.compareRows a b = (search.compareDirected a b).then (compare a.id b.id) := by
  have swapped : (search.compareField a b).swap = search.compareField b a := OrientedCmp.eq_swap.symm
  unfold compareRows compareDirected
  rw [swapped]

instance : TransCmp search.compareDirected := by
  unfold compareDirected
  cases search.descending with
  | false => exact inferInstanceAs (TransCmp search.compareField)
  | true => exact inferInstanceAs (TransCmp fun a b => search.compareField b a)

instance : TransCmp search.compareRows := by
  have same : search.compareRows = compareLex search.compareDirected (compareOn Sticker.id) := by
    funext a b
    exact compareRows_eq a b
  rw [same]
  infer_instance

theorem compareDirected_eq_lt_iff {a b : Sticker} : search.compareDirected a b = .lt ↔ search.Ahead a b := by
  unfold compareDirected Ahead
  rw [← descending_iff]
  split
  · next reversed => simp [reversed, compareField_eq_lt_iff]
  · next straight => simp [straight, compareField_eq_lt_iff]

/-- Of two stickers at most one comes before the other by the sort column. -/
theorem Ahead.asymm {a b : Sticker} (ahead : search.Ahead a b) : ¬search.Ahead b a := by
  intro behind
  have swapped := OrientedCmp.gt_of_lt (compareDirected_eq_lt_iff.2 ahead)
  rw [compareDirected_eq_lt_iff.2 behind] at swapped
  cases swapped

/-- Of two rows at most one comes before the other. -/
theorem Precedes.asymm {x y : Sticker × Nat} (before : search.Precedes x y) : ¬search.Precedes y x := by
  rintro (behind | ⟨level, behind⟩)
  · rcases before with ahead | ⟨level, -⟩
    · exact ahead.asymm behind
    · exact level behind
  · rcases before with ahead | ⟨-, before⟩
    · exact level ahead
    · omega

instance : Std.Asymm search.Precedes := ⟨fun _ _ => Precedes.asymm⟩

/-- The comparison that runs puts a sticker in front unless the column or else the id says otherwise. -/
theorem isLE_compareRows_iff {a b : Sticker} :
    (search.compareRows a b).isLE ↔ ¬search.Ahead b a ∧ (search.Ahead a b ∨ a.id ≤ b.id) := by
  have turned : search.compareDirected a b = .gt ↔ search.compareDirected b a = .lt := OrientedCmp.gt_iff_lt
  rw [compareRows_eq, Ordering.isLE_then_iff_and, Nat.isLE_compare, Ordering.isLE_iff_ne_gt, turned,
    compareDirected_eq_lt_iff, compareDirected_eq_lt_iff]

/-- A sorted list stands in the order of the results. -/
theorem pairwise_mergeSort_compareRows (search : Search) (stickers : List Sticker) :
    (stickers.mergeSort fun a b => (search.compareRows a b).isLE).Pairwise fun a b =>
      (search.compareRows a b).isLE := by
  have trans (a b c : Sticker) (first : (search.compareRows a b).isLE) (second : (search.compareRows b c).isLE) :
      (search.compareRows a c).isLE := TransCmp.isLE_trans first second
  exact List.pairwise_mergeSort trans (fun a b => isLE_total a b) stickers

/-- The rows of a search, in whatever order, are the stickers that it selects. -/
theorem rows_perm (search : Search) (stickers : List Sticker) :
    (search.rows stickers).Perm (stickers.filter (·.satisfies search)) := List.mergeSort_perm _ _

/-- Stickers with different ids have one order: two lists of the same stickers give the same rows. -/
theorem rows_eq_of_perm {stickers stickers' : List Sticker} (shuffled : stickers.Perm stickers')
    (ids : (stickers.map Sticker.id).Nodup) : search.rows stickers = search.rows stickers' := by
  have sorted (stickers : List Sticker) : (search.rows stickers).Pairwise fun a b => (search.compareRows a b).isLE :=
    search.pairwise_mergeSort_compareRows _
  have same : (search.rows stickers).Perm (search.rows stickers') :=
    (search.rows_perm stickers).trans ((shuffled.filter _).trans (search.rows_perm stickers').symm)
  refine List.Perm.eq_of_pairwise ?_ (sorted stickers) (sorted stickers') same
  intro a b left right le ge
  have left : a ∈ stickers := (List.mem_filter.1 ((search.rows_perm stickers).mem_iff.1 left)).1
  have right : b ∈ stickers := (List.mem_filter.1 ((search.rows_perm stickers).mem_iff.1 (same.mem_iff.2 right))).1
  obtain ⟨notAbove, here⟩ := isLE_compareRows_iff.1 le
  obtain ⟨notBelow, there⟩ := isLE_compareRows_iff.1 ge
  have level : a.id = b.id := Nat.le_antisymm (here.resolve_left notBelow) (there.resolve_left notAbove)
  exact List.inj_on_of_nodup_map ids left right level

/-- The test that sorts stickers with their places: it does not look at the places. -/
def rowLE (search : Search) (x y : Sticker × Nat) : Bool := (search.compareRows x.1 y.1).isLE

theorem rowLE_trans (search : Search) (x y z : Sticker × Nat) (first : search.rowLE x y) (second : search.rowLE y z) :
    search.rowLE x z :=
  TransCmp.isLE_trans (α := Sticker) first second

theorem rowLE_total (search : Search) (x y : Sticker × Nat) : search.rowLE x y || search.rowLE y x := by
  unfold rowLE
  exact isLE_total x.1 y.1

/-- A row comes before another if the test lets it and, where it cannot tell them apart, their places do. -/
theorem precedes_of_rowLE {x y : Sticker × Nat} (level : search.rowLE x y)
    (placed : search.rowLE y x → x.2 < y.2) : search.Precedes x y := by
  obtain ⟨behind, here⟩ := isLE_compareRows_iff.1 level
  by_cases ahead : search.Ahead x.1 y.1
  · exact Or.inl ahead
  · have ids := here.resolve_left ahead
    refine Or.inr ⟨behind, ?_⟩
    rcases Nat.lt_or_eq_of_le ids with less | equal
    · exact Or.inl less
    · exact Or.inr ⟨equal, placed (isLE_compareRows_iff.2 ⟨ahead, Or.inr (Nat.le_of_eq equal.symm)⟩)⟩

/-- The rows of a search, each with its place in the library. -/
def placedRows (search : Search) (stickers : List Sticker) : List (Sticker × Nat) :=
  (stickers.zipIdx.filter (·.1.satisfies search)).mergeSort search.rowLE

variable {stickers : List Sticker}

theorem map_placedRows : (search.placedRows stickers).map Prod.fst = search.rows stickers := by
  have selected : (stickers.zipIdx.filter (·.1.satisfies search)).map Prod.fst
      = stickers.filter (·.satisfies search) := by
    rw [← Function.comp_def (Sticker.satisfies · search) Prod.fst, ← List.filter_map, List.zipIdx_map_fst]
  unfold placedRows rows
  rw [← selected]
  exact List.map_mergeSort fun _ _ _ _ => rfl

theorem mem_placedRows_iff {s : Sticker} {i : Nat} :
    (s, i) ∈ search.placedRows stickers ↔ stickers[i]? = some s ∧ s.satisfies search = true := by
  unfold placedRows
  rw [List.mem_mergeSort, List.mem_filter, List.mk_mem_zipIdx_iff_getElem?]

/-- The places of a list go up. -/
theorem pairwise_zipIdx_lt {α : Type} (as : List α) : as.zipIdx.Pairwise fun x y => x.2 < y.2 := by
  apply List.pairwise_map.1
  rw [List.zipIdx_map_snd]
  exact List.pairwise_lt_range'

/-- The rows stand in the order that the search asks for. -/
theorem pairwise_precedes_placedRows : (search.placedRows stickers).Pairwise search.Precedes := by
  have placed := (pairwise_zipIdx_lt stickers).filter (·.1.satisfies search)
  have stable := pairwise_mergeSort_of_pairwise search.rowLE_trans search.rowLE_total
    (fun x => Nat.lt_irrefl x.2) placed
  exact stable.imp fun holds => precedes_of_rowLE holds.1 holds.2

/-- The selected stickers have one order in which the sort can leave them. -/
theorem placedRows_eq {rows : List (Sticker × Nat)} (selected : rows.Perm (stickers.zipIdx.filter (·.1.satisfies search)))
    (sorted : rows.Pairwise fun x y => search.rowLE x y ∧ (search.rowLE y x → x.2 < y.2)) :
    search.placedRows stickers = rows := by
  have ordered : rows.Pairwise search.Precedes := sorted.imp fun holds => precedes_of_rowLE holds.1 holds.2
  have same := (List.mergeSort_perm _ search.rowLE).trans selected.symm
  exact pairwise_precedes_placedRows.eq_of_mem_iff ordered fun row => same.mem_iff

/-- No row is listed twice. -/
theorem nodup_placedRows : (search.placedRows stickers).Nodup := by
  have placed := (pairwise_zipIdx_lt stickers).filter (·.1.satisfies search)
  refine (List.mergeSort_perm _ _).nodup_iff.2 (placed.imp fun {x y} less same => ?_)
  exact Nat.lt_irrefl y.2 (same ▸ less)

end Search

end StickerBook
