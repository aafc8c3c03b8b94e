import StickerBook.Proofs.Sorting
import StickerBook.Proofs.Text.Trim
import StickerBook.Tag

/-!
# Tags and their texts

A text is read as a tag by its trimmed halves (`Tag.parse_eq_ok_iff`). The written form of the tag is what is left of
the text when the blanks around the colon are taken away (`Tag.display_sublist_of_parse`). Tags are ordered by their
namespaces, then by their values (`Tag.compare_eq_lt_iff`).
-/

namespace StickerBook.Tag
set_option autoImplicit false
open Std (TransCmp)
open Text (trim trim_isInfix)
variable {s : String} {t : Tag}

theorem toList_display (t : Tag) : t.display.toList = t.ns.toList ++ ':' :: t.value.toList := by
  simp [display]

/-- A text is a tag if its first colon stands between two halves that are not blank. -/
theorem parse_eq_ok_iff : parse s = .ok t ↔ ∃ before after, trim s.toList = before ++ ':' :: after ∧ ':' ∉ before ∧
    t.ns.toList = trim before ∧ t.value.toList = trim after ∧ trim before ≠ [] ∧ trim after ≠ [] := by
  unfold parse
  dsimp only
  cases split : splitAtFirst ':' (trim s.toList) with
  | none =>
    have missing := splitAtFirst_eq_none_iff.1 split
    constructor
    · intro read
      cases read
    · rintro ⟨before, after, parts, -⟩
      exact absurd (by simp [parts]) missing
  | some halves =>
    obtain ⟨before, after⟩ := halves
    have parts := splitAtFirst_eq_some_iff.1 split
    constructor
    · intro read
      dsimp only at read
      split at read
      · cases read
      · next filled =>
        split at read
        · cases read
        · next filled' =>
          obtain rfl := Except.ok.inj read
          exact ⟨before, after, parts.1, parts.2, String.toList_ofList, String.toList_ofList, by simpa using filled,
            by simpa using filled'⟩
    · rintro ⟨before', after', cut, first, ns, value, filled, filled'⟩
      obtain ⟨rfl, rfl⟩ := Prod.mk.inj (Option.some.inj (split.symm.trans (splitAtFirst_eq_some_iff.2 ⟨cut, first⟩)))
      have same : t = ⟨.ofList (trim before), .ofList (trim after)⟩ := by
        rw [← ns, ← value, String.ofList_toList, String.ofList_toList]
      simp [same, filled, filled']

/-- Reading a tag takes blanks away and nothing else. -/
theorem display_sublist_of_parse (read : parse s = .ok t) : t.display.toList.Sublist (trim s.toList) := by
  obtain ⟨before, after, parts, -, ns, value, -⟩ := parse_eq_ok_iff.1 read
  rw [toList_display, parts, ns, value]
  exact (trim_isInfix before).sublist.append ((trim_isInfix after).sublist.cons_cons ':')

/-- One tag stands before another: by namespace, then by value. -/
def Below (a b : Tag) : Prop := a.ns < b.ns ∨ a.ns = b.ns ∧ a.value < b.value

instance : Std.Asymm Below where
  asymm a b := by
    rintro (less | ⟨same, less⟩) (greater | ⟨same', greater⟩)
    · exact String.lt_asymm less greater
    · exact String.lt_irrefl a.ns (same' ▸ less)
    · exact String.lt_irrefl a.ns (same ▸ greater)
    · exact String.lt_asymm less greater

instance : TransCmp (compare (α := Tag)) :=
  inferInstanceAs (TransCmp (compareLex (compareOn Tag.ns) (compareOn Tag.value)))

theorem compare_eq_lt_iff {a b : Tag} : compare a b = .lt ↔ a.Below b := by
  have ns : compare a.ns b.ns = .lt ↔ a.ns < b.ns := compareOfLessAndEq_eq_lt
  have value : compare a.value b.value = .lt ↔ a.value < b.value := compareOfLessAndEq_eq_lt
  show (compare a.ns b.ns).then (compare a.value b.value) = .lt ↔ _
  rw [Ordering.then_eq_lt, Std.LawfulEqCmp.compare_eq_iff_eq, ns, value]
  rfl

theorem eq_of_compare {a b : Tag} (level : compare a b = .eq) : a = b := by
  obtain ⟨ns, value⟩ := Ordering.then_eq_eq.1 level
  cases a
  cases b
  congr
  · exact Std.LawfulEqCmp.eq_of_compare ns
  · exact Std.LawfulEqCmp.eq_of_compare value

theorem le_trans (a b c : Tag) (first : a.le b) (second : b.le c) : a.le c :=
  TransCmp.isLE_trans (α := Tag) first second

theorem le_total (a b : Tag) : a.le b || b.le a := by
  unfold le
  exact isLE_total a b

/-- A tag that is not behind another one stands before it. -/
theorem below_of_le {a b : Tag} (level : a.le b) (different : a ≠ b) : a.Below b := by
  rw [← compare_eq_lt_iff]
  cases place : compare a b with
  | lt => rfl
  | eq => exact absurd (eq_of_compare place) different
  | gt =>
    unfold le at level
    rw [place] at level
    cases level

end StickerBook.Tag
