import Mathlib.Data.List.Basic

/-!
# Lines

A text of records that each end with a line break is read line by line. Its lines are the records exactly if no record has
a line break of its own (`linesOf_join_iff`).
-/

namespace StickerBook.Text
set_option autoImplicit false

/-- The text contains no line break. -/
def Unbroken (text : String) : Prop := '\n' ∉ text.toList

instance (text : String) : Decidable (Unbroken text) := inferInstanceAs (Decidable ('\n' ∉ text.toList))

/-- The lines of a text, and behind them what stands after the last line break. -/
def linesOf (text : String) : List String := (text.toList.splitOn '\n').map String.ofList

theorem unbroken_append_iff {first second : String} : Unbroken (first ++ second) ↔ Unbroken first ∧ Unbroken second := by
  unfold Unbroken
  rw [String.toList_append, List.mem_append]
  exact not_or

/-- The parts of a list that is split at an element do not have the element. -/
theorem notMem_of_mem_splitOn {α : Type} [DecidableEq α] {a : α} (as : List α) : ∀ part ∈ as.splitOn a, a ∉ part := by
  induction as with
  | nil => simp
  | cons b rest ih =>
    rw [List.splitOn_cons_eq_if_modifyHead]
    split
    · exact List.forall_mem_cons.2 ⟨List.not_mem_nil, ih⟩
    · next other =>
      cases split : rest.splitOn a with
      | nil => simp
      | cons first more =>
        rw [split] at ih
        obtain ⟨head, tail⟩ := List.forall_mem_cons.1 ih
        refine List.forall_mem_cons.2 ⟨List.not_mem_cons_of_ne_of_not_mem ?_ head, tail⟩
        exact fun same => other (beq_iff_eq.2 same.symm)

/-- No line has a line break in it. -/
theorem unbroken_of_mem_linesOf {text line : String} (member : line ∈ linesOf text) : Unbroken line := by
  obtain ⟨part, inside, rfl⟩ := List.mem_map.1 member
  unfold Unbroken
  rw [String.toList_ofList]
  exact notMem_of_mem_splitOn _ part inside

theorem linesOf_of_unbroken {text : String} (unbroken : Unbroken text) : linesOf text = [text] := by
  unfold linesOf
  rw [List.splitOn_eq_singleton unbroken, List.map_singleton, String.ofList_toList]

/-- A line break ends the lines before it. -/
theorem linesOf_break (before after : String) : linesOf (before ++ "\n" ++ after) = linesOf before ++ linesOf after := by
  have parts : (before ++ "\n" ++ after).toList = before.toList ++ '\n' :: after.toList := by simp
  unfold linesOf
  rw [parts, List.splitOn_append_cons_self, List.map_append]

theorem linesOf_join (records : List String) :
    linesOf (String.join (records.map (· ++ "\n"))) = records.flatMap linesOf ++ [""] := by
  induction records with
  | nil => rfl
  | cons record rest ih =>
    rw [List.map_cons, String.join_cons, linesOf_break, ih, List.flatMap_cons, List.append_assoc]

/-- Records that are printed one after the other are the lines of the output if there is no line break in them, and not
otherwise. -/
theorem linesOf_join_iff {records : List String} :
    linesOf (String.join (records.map (· ++ "\n"))) = records ++ [""] ↔ ∀ record ∈ records, Unbroken record := by
  rw [linesOf_join, List.append_cancel_right_eq]
  constructor
  · intro same record member
    rw [← same] at member
    obtain ⟨whole, -, line⟩ := List.mem_flatMap.1 member
    exact unbroken_of_mem_linesOf line
  · intro unbroken
    have single : records.flatMap linesOf = records.flatMap fun record => [record] :=
      List.flatMap_congr fun record member => linesOf_of_unbroken (unbroken record member)
    rw [single, List.flatMap_singleton']

end StickerBook.Text
