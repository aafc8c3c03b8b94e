/-!
# First occurrences

`distinctBy key` keeps, of the elements that share a key, the first one, and leaves the order alone.
-/

namespace StickerBook
set_option autoImplicit false
variable {α κ : Type} [DecidableEq κ]

/-- The elements whose key has not occurred before them. -/
def distinctBy (key : α → κ) : List α → List α
  | [] => []
  | a :: rest => a :: (distinctBy key rest).filter fun b => key b ≠ key a

theorem distinctBy_sublist (key : α → κ) (as : List α) : (distinctBy key as).Sublist as := by
  induction as with
  | nil => exact .slnil
  | cons a rest ih => exact .cons_cons a (List.filter_sublist.trans ih)

theorem map_distinctBy_nodup (key : α → κ) (as : List α) : ((distinctBy key as).map key).Nodup := by
  induction as with
  | nil => simp [distinctBy]
  | cons a rest ih =>
    refine List.nodup_cons.2 ⟨?_, ih.sublist (List.filter_sublist.map key)⟩
    simp [List.mem_map, List.mem_filter]

theorem exists_mem_distinctBy {key : α → κ} {as : List α} {a : α} (h : a ∈ as) :
    ∃ b ∈ distinctBy key as, key b = key a := by
  induction as with
  | nil => simp at h
  | cons c rest ih =>
    by_cases hc : key c = key a
    · exact ⟨c, by simp [distinctBy], hc⟩
    · rcases List.mem_cons.1 h with rfl | h
      · exact absurd rfl hc
      · obtain ⟨b, hb, hk⟩ := ih h
        refine ⟨b, ?_, hk⟩
        simp [distinctBy, hb, hk, Ne.symm hc]

end StickerBook
