import StickerBook.Editor.Combobox

/-!
# What reconciling does to a selection

A supplied value counts only if it is present and not blank (`Selection.present`). Supplied for the first time, such a
value is displayed; supplied again, it changes nothing, whatever is displayed by then. Apart from reconciling, only what
selects a value touches the selection of a combobox.
-/

set_option autoImplicit false

namespace StickerBook.Editor.Selection
variable {α : Type} [Choosable α] {s : Selection α} {external : Option α} {v : α}

/-- What the owner supplies. A blank value counts as none. -/
def present (external : Option α) : Option α := external.filter (!Choosable.isBlank ·)

theorem present_eq_some_iff : present external = some v ↔ external = some v ∧ Choosable.isBlank v = false := by
  unfold present
  rw [Option.filter_eq_some_iff, Bool.not_eq_true']

variable [DecidableEq α]

theorem reconcile_eq (s : Selection α) (external : Option α) :
    s.reconcile external =
      if s.observed = some (present external) then (.unchanged, s)
      else match present external with
        | some v =>
          if v = s.current.value then (.unchanged, { s with observed := some (some v) })
          else (.adopted, { s with observed := some (some v), current := .plain v })
        | none => (.fellBack s.default, { s with observed := some none, current := .plain s.default }) := by
  unfold reconcile present
  cases external.filter (!Choosable.isBlank ·) <;> rfl

/-- A value that was supplied last time changes nothing. -/
theorem reconcile_seen (seen : s.observed = some (present external)) : s.reconcile external = (.unchanged, s) := by
  rw [reconcile_eq, if_pos seen]

/-- A new value that is displayed already is noted. -/
theorem reconcile_shown (supplied : present external = some v) (new : s.observed ≠ some (some v))
    (shown : v = s.current.value) :
    s.reconcile external = (.unchanged, { s with observed := some (some v) }) := by
  rw [reconcile_eq, supplied, if_neg new]
  exact if_pos shown

/-- A new value that is not displayed replaces the one that is. -/
theorem reconcile_adopted (supplied : present external = some v) (new : s.observed ≠ some (some v))
    (other : v ≠ s.current.value) :
    s.reconcile external = (.adopted, { s with observed := some (some v), current := .plain v }) := by
  rw [reconcile_eq, supplied, if_neg new]
  exact if_neg other

/-- A value that has become missing is replaced by the default. -/
theorem reconcile_missing (missing : present external = none) (new : s.observed ≠ some none) :
    s.reconcile external = (.fellBack s.default, { s with observed := some none, current := .plain s.default }) := by
  rw [reconcile_eq, missing, if_neg new]

/-- The four things that reconciling can do. -/
theorem reconcile_cases (s : Selection α) (external : Option α) :
    (s.observed = some (present external) ∧ s.reconcile external = (.unchanged, s)) ∨
    (∃ v, present external = some v ∧ s.observed ≠ some (some v) ∧ v = s.current.value ∧
      s.reconcile external = (.unchanged, { s with observed := some (some v) })) ∨
    (∃ v, present external = some v ∧ s.observed ≠ some (some v) ∧ v ≠ s.current.value ∧
      s.reconcile external = (.adopted, { s with observed := some (some v), current := .plain v })) ∨
    (present external = none ∧ s.observed ≠ some none ∧
      s.reconcile external = (.fellBack s.default, { s with observed := some none, current := .plain s.default })) := by
  by_cases seen : s.observed = some (present external)
  · exact .inl ⟨seen, reconcile_seen seen⟩
  · cases supplied : present external with
    | none =>
      rw [supplied] at seen
      exact .inr (.inr (.inr ⟨rfl, seen, reconcile_missing supplied seen⟩))
    | some v =>
      rw [supplied] at seen
      by_cases shown : v = s.current.value
      · exact .inr (.inl ⟨v, rfl, seen, shown, reconcile_shown supplied seen shown⟩)
      · exact .inr (.inr (.inl ⟨v, rfl, seen, shown, reconcile_adopted supplied seen shown⟩))

/-- What was supplied is kept. -/
theorem observed_reconcile (s : Selection α) (external : Option α) :
    (s.reconcile external).2.observed = some (present external) := by
  rcases s.reconcile_cases external with
    ⟨seen, eq⟩ | ⟨v, supplied, -, -, eq⟩ | ⟨v, supplied, -, -, eq⟩ | ⟨supplied, -, eq⟩
  · rw [eq, seen]
  · rw [eq, supplied]
  · rw [eq, supplied]
  · rw [eq, supplied]

/-- A present value is displayed afterwards, unless it was supplied last time; then the display stays. -/
theorem value_reconcile (s : Selection α) (supplied : present external = some v) :
    (s.reconcile external).2.current.value = if s.observed = some (some v) then s.current.value else v := by
  by_cases seen : s.observed = some (some v)
  · rw [reconcile_seen (supplied ▸ seen), if_pos seen]
  · rw [if_neg seen]
    by_cases shown : v = s.current.value
    · rw [reconcile_shown supplied seen shown, shown]
    · rw [reconcile_adopted supplied seen shown]
      rfl

theorem default_reconcile (s : Selection α) (external : Option α) :
    (s.reconcile external).2.default = s.default := by
  rcases s.reconcile_cases external with ⟨-, eq⟩ | ⟨v, -, -, -, eq⟩ | ⟨v, -, -, -, eq⟩ | ⟨-, -, eq⟩ <;> rw [eq]

end Selection

end StickerBook.Editor

namespace StickerBook.Editor.Combobox
open Lookup (Service Widget)
variable {α : Type}

/-- The action may change the selection. -/
def Action.selects : Action α → Bool
  | .select _ | .selectHighlighted | .setCurrent _ | .resetToDefault | .reconcile _ => true
  | _ => false

theorem selection_update (b : Combobox α) (result : Bool × Service (Choice α)) :
    (Widget.update b result).2.selection = b.selection := by
  unfold Widget.update
  dsimp only
  split <;> rfl

theorem selection_openList (b : Combobox α) : b.openList.2.selection = b.selection := by
  unfold openList
  split <;> rfl

theorem selection_setInput (b : Combobox α) (text : String) : (b.setInput text).2.selection = b.selection := by
  unfold setInput
  dsimp only
  split <;> rfl

theorem selection_moveHighlight (b : Combobox α) (delta : Int) : (b.moveHighlight delta).selection = b.selection := by
  unfold moveHighlight
  dsimp only
  split <;> rfl

variable [Choosable α] [DecidableEq α] {b : Combobox α}

/-- Looking things up leaves the selection alone. -/
theorem selection_act {action : Action α} (keeps : action.selects = false) :
    (b.act action).2.selection = b.selection := by
  cases action with
  | select | selectHighlighted | setCurrent | resetToDefault | reconcile => cases keeps
  | openList => exact b.selection_openList
  | setInput text => exact b.selection_setInput text
  | moveHighlight delta => exact b.selection_moveHighlight delta
  | refresh => exact b.selection_update _
  | closeList | writeInput | isSelected => rfl

omit [DecidableEq α] in
theorem select_of_place {index : Nat} {c : Choice α} (place : b.candidates[index]? = some c) :
    b.select index = (some c.value, { b with selection := b.selection.setCurrent c.value }.closeList) := by
  unfold select
  rw [place]

omit [DecidableEq α] in
/-- A selected choice is displayed under its plain label. -/
theorem selection_select (b : Combobox α) (index : Nat) :
    (b.select index).2.selection = ((b.select index).1.elim b.selection b.selection.setCurrent) := by
  unfold select
  split <;> rfl

omit [DecidableEq α] in
/-- A choice by its place is displayed if there is one. -/
theorem selection_select_cases (b : Combobox α) (index : Nat) :
    (b.select index).2.selection = b.selection ∨ ∃ v, (b.select index).2.selection = b.selection.setCurrent v := by
  rw [selection_select]
  cases (b.select index).1 with
  | none => exact .inl rfl
  | some v => exact .inr ⟨v, rfl⟩

/-- Unless it is reconciled, a selection stays or another value is displayed. -/
theorem selection_act_cases {action : Action α} (own : ∀ external, action ≠ .reconcile external) :
    (b.act action).2.selection = b.selection ∨ ∃ v, (b.act action).2.selection = b.selection.setCurrent v := by
  cases action with
  | openList | closeList | setInput | writeInput | refresh | moveHighlight | isSelected => exact .inl (selection_act rfl)
  | select index => exact b.selection_select_cases index
  | selectHighlighted =>
    show b.selectHighlighted.2.selection = _ ∨ ∃ v, b.selectHighlighted.2.selection = _
    unfold selectHighlighted
    split
    · exact .inl rfl
    · exact b.selection_select_cases _
  | setCurrent v => exact .inr ⟨v, rfl⟩
  | resetToDefault => exact .inr ⟨b.selection.default, rfl⟩
  | reconcile external => exact absurd rfl (own external)

/-- What was supplied last is forgotten only when something else is supplied. -/
theorem observed_act (b : Combobox α) (action : Action α) :
    (b.act action).2.selection.observed = match action with
      | .reconcile external => some (Selection.present external)
      | _ => b.selection.observed := by
  have kept (own : ∀ external, action ≠ .reconcile external) :
      (b.act action).2.selection.observed = b.selection.observed := by
    rcases selection_act_cases (b := b) own with same | ⟨v, shown⟩
    · rw [same]
    · rw [shown, Selection.setCurrent]
  cases action with
  | reconcile external => exact b.selection.observed_reconcile external
  | _ => exact kept fun _ => nofun

/-- The default is never changed. -/
theorem default_act (b : Combobox α) (action : Action α) :
    (b.act action).2.selection.default = b.selection.default := by
  have kept (own : ∀ external, action ≠ .reconcile external) :
      (b.act action).2.selection.default = b.selection.default := by
    rcases selection_act_cases (b := b) own with same | ⟨v, shown⟩
    · rw [same]
    · rw [shown, Selection.setCurrent]
  cases action with
  | reconcile external => exact b.selection.default_reconcile external
  | _ => exact kept fun _ => nofun

end StickerBook.Editor.Combobox
