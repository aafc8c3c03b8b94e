import Mathlib.Data.List.DropRight
import Mathlib.Data.List.TakeWhile
import StickerBook.Text.Blank

/-!
# Trimmed texts

`Text.trim` takes a piece out of a text, and leaves exactly the texts alone that neither start nor end with a blank
(`trim_eq_self_iff`). What it returns is such a text, so trimming twice is trimming once (`trim_trim`).
-/

set_option autoImplicit false

namespace StickerBook.Text

/-- The text neither starts nor ends with a blank. -/
def Trimmed (cs : List Char) : Prop :=
  (∀ c ∈ cs.head?, isBlank c = false) ∧ ∀ c ∈ cs.getLast?, isBlank c = false

/-- The end of a text is trimmed as its start is, read from the right. -/
theorem trimEnd_eq_rdropWhile (cs : List Char) : trimEnd cs = cs.rdropWhile isBlank := rfl

theorem trimStart_isSuffix (cs : List Char) : trimStart cs <:+ cs := List.dropWhile_suffix isBlank

theorem trimEnd_isPrefix (cs : List Char) : trimEnd cs <+: cs := List.rdropWhile_prefix isBlank cs

theorem trim_isInfix (cs : List Char) : trim cs <:+: cs :=
  (trimEnd_isPrefix (trimStart cs)).isInfix.trans (trimStart_isSuffix cs).isInfix

theorem mem_dropWhile_iff {p : Char → Bool} {c : Char} (kept : p c = false) {cs : List Char} :
    c ∈ cs.dropWhile p ↔ c ∈ cs := by
  constructor
  · exact fun member => (List.dropWhile_suffix p).subset member
  · intro member
    rw [← List.takeWhile_append_dropWhile (p := p) (l := cs), List.mem_append] at member
    refine member.resolve_left fun dropped => ?_
    rw [List.mem_takeWhile_imp dropped] at kept
    cases kept

/-- A character that is not blank is not taken away. -/
theorem mem_trim_iff {c : Char} (filled : isBlank c = false) {cs : List Char} : c ∈ trim cs ↔ c ∈ cs := by
  unfold trim trimEnd trimStart
  rw [List.mem_reverse, mem_dropWhile_iff filled, List.mem_reverse, mem_dropWhile_iff filled]

theorem trimmed_trim (cs : List Char) : Trimmed (trim cs) := by
  constructor
  · intro c first
    -- the first character survived the trimming of the start
    obtain ⟨dropped, parts⟩ := trimEnd_isPrefix (trimStart cs)
    have kept : c ∈ (trimStart cs).head? := by
      rw [← parts]
      exact List.mem_head?_append_of_mem_head? first
    have stopped := List.head?_dropWhile_not isBlank cs
    unfold trimStart at kept
    rw [Option.mem_def.1 kept] at stopped
    simpa using stopped
  · intro c last
    obtain ⟨filled, rfl⟩ := List.mem_getLast?_eq_getLast last
    have stopped := List.rdropWhile_last_not isBlank (trimStart cs) filled
    exact Bool.eq_false_iff.2 stopped

/-- Trimming leaves exactly the trimmed texts alone. -/
theorem trim_eq_self_iff {cs : List Char} : trim cs = cs ↔ Trimmed cs := by
  constructor
  · intro same
    rw [← same]
    exact trimmed_trim cs
  · rintro ⟨first, last⟩
    have start : trimStart cs = cs := by
      cases cs with
      | nil => rfl
      | cons c rest => exact List.dropWhile_cons_of_neg (by simpa using first)
    unfold trim
    rw [start, trimEnd_eq_rdropWhile, List.rdropWhile_eq_self_iff]
    intro filled
    simpa using last _ (List.getLast_mem_getLast? filled)

instance (cs : List Char) : Decidable (Trimmed cs) := decidable_of_iff (trim cs = cs) trim_eq_self_iff

theorem trim_trim (cs : List Char) : trim (trim cs) = trim cs := trim_eq_self_iff.2 (trimmed_trim cs)

theorem trimString_trimString (s : String) : trimString (trimString s) = trimString s := by
  unfold trimString
  rw [String.toList_ofList, trim_trim]

end StickerBook.Text
