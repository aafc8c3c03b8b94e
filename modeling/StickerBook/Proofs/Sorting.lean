import Mathlib.Data.List.Nodup

/-!
# Sorted lists

A sort puts a list in order if its comparison is transitive and total, which the comparisons of ordered types are
(`isLE_total`). What it cannot tell apart stays in order (`pairwise_mergeSort_of_pairwise`).
-/

namespace StickerBook
set_option autoImplicit false
open Std (OrientedCmp)

/-- Of two elements one is not behind the other. -/
theorem isLE_total {α : Type} {cmp : α → α → Ordering} [OrientedCmp cmp] (a b : α) :
    ((cmp a b).isLE || (cmp b a).isLE) = true := by
  have swapped : cmp b a = (cmp a b).swap := OrientedCmp.eq_swap
  rw [swapped]
  cases cmp a b <;> rfl

section
variable {α : Type} {le : α → α → Bool} {before : α → α → Prop} {as : List α}

/-- Two elements of a list stand in it in one order or the other. -/
theorem pair_sublist_or {a b : α} (left : a ∈ as) (right : b ∈ as) (different : a ≠ b) :
    [a, b].Sublist as ∨ [b, a].Sublist as := by
  obtain ⟨front, back, rfl⟩ := List.append_of_mem left
  rcases List.mem_append.1 right with early | late
  · right
    have first : [b].Sublist front := List.singleton_sublist.2 early
    have second : [a].Sublist (a :: back) := List.singleton_sublist.2 List.mem_cons_self
    exact first.append second
  · left
    have after : b ∈ back := (List.mem_cons.1 late).resolve_left (Ne.symm different)
    have both : [a, b].Sublist (a :: back) := (List.singleton_sublist.2 after).cons_cons a
    exact both.trans (List.sublist_append_right front (a :: back))

/-- In a list without repetitions two elements stand in one order only. -/
theorem not_pair_sublist_swap {a b : α} (distinct : as.Nodup) (pair : [a, b].Sublist as) :
    ¬[b, a].Sublist as := by
  induction as with
  | nil => cases pair
  | cons c rest ih =>
    obtain ⟨fresh, distinct⟩ := List.nodup_cons.1 distinct
    intro turned
    cases pair with
    | cons _ pair =>
      cases turned with
      | cons _ turned => exact ih distinct pair turned
      | cons_cons _ turned => exact fresh (pair.subset (List.mem_cons_of_mem _ List.mem_cons_self))
    | cons_cons _ pair =>
      cases turned with
      | cons _ turned => exact fresh (turned.subset (List.mem_cons_of_mem _ List.mem_cons_self))
      | cons_cons _ turned => exact fresh (List.singleton_sublist.1 pair)

/-- **Stability.** Of two elements that a comparison cannot tell apart, the sort keeps the one in front that
was in front before. -/
theorem pairwise_mergeSort_of_pairwise (trans : ∀ a b c, le a b → le b c → le a c)
    (total : ∀ a b, le a b || le b a) (irreflexive : ∀ a, ¬before a a) (ordered : as.Pairwise before) :
    (as.mergeSort le).Pairwise fun a b => le a b ∧ (le b a → before a b) := by
  have sorted := List.pairwise_mergeSort trans total as
  have distinct : as.Nodup := ordered.imp fun {a b} (holds : before a b) (same : a = b) =>
    irreflexive b (same ▸ holds)
  have distinct' : (as.mergeSort le).Nodup := (List.mergeSort_perm as le).nodup_iff.2 distinct
  rw [List.pairwise_iff_forall_sublist] at sorted ordered ⊢
  intro a b pair
  refine ⟨sorted pair, fun level => ?_⟩
  have different : a ≠ b := List.pairwise_iff_forall_sublist.1 distinct' pair
  have left : a ∈ as := List.mem_mergeSort.1 (pair.subset List.mem_cons_self)
  have right : b ∈ as := List.mem_mergeSort.1 (pair.subset (List.mem_cons_of_mem _ List.mem_cons_self))
  rcases pair_sublist_or left right different with kept | turned
  · exact ordered kept
  · -- The sort would leave `b` before `a` as well, so one of them would be listed twice.
    have back := List.pair_sublist_mergeSort trans total level turned
    exact absurd back (not_pair_sublist_swap distinct' pair)

end

end StickerBook
