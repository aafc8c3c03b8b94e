import StickerBook.Proofs.Editor.Highlight

/-!
# What a closed list highlights

Closing the list takes the highlight away, but taking answers in puts it back without asking whether the list is open. So
a closed list has a highlight if its candidates were replaced after it was closed, and then that candidate can be selected.
Otherwise it has none (`closed_run`).
-/

namespace StickerBook.Editor.Combobox
set_option autoImplicit false
open Lookup (Service Widget)
variable {α : Type}

/-- The event takes answers in that replace the candidates. -/
def Event.replaces (b : Combobox α) : Event α → Bool
  | .act .refresh => (Widget.refresh b).1
  | .settle => (Widget.settle b).1
  | _ => false

/-- The event moves the highlight. -/
def Event.moves : Event α → Bool
  | .act (.moveHighlight _) => true
  | _ => false

theorem still_update (b : Combobox α) {result : Bool × Service (Choice α)} (kept : result.1 = false) :
    (Widget.update b result).2.isOpen = b.isOpen ∧ (Widget.update b result).2.highlighted = b.highlighted := by
  rw [b.update_kept kept]
  exact ⟨rfl, rfl⟩

section
variable [Choosable α]

/-- The event closes the list. A closed one can be closed again. -/
def Event.closes (b : Combobox α) : Event α → Bool
  | .act .closeList => true
  | .act (.select index) => (b.select index).1.isSome
  | .act .selectHighlighted => b.selectHighlighted.1.isSome
  | _ => false

/-- A selection closes the list, or it finds no candidate and does nothing. -/
theorem select_cases (b : Combobox α) (index : Nat) :
    b.select index = (none, b) ∨
      ∃ v, b.select index = (some v, { b with selection := b.selection.setCurrent v }.closeList) := by
  unfold select
  split
  · exact .inl rfl
  · next c _ => exact .inr ⟨c.value, rfl⟩

theorem selectHighlighted_cases (b : Combobox α) :
    b.selectHighlighted = (none, b) ∨
      ∃ v, b.selectHighlighted = (some v, { b with selection := b.selection.setCurrent v }.closeList) := by
  unfold selectHighlighted
  split
  · exact .inl rfl
  · exact b.select_cases _

end

variable [Choosable α] [DecidableEq α] {b : Combobox α} {ev : Event α}

/-- An action that neither closes the list nor replaces the candidates leaves the highlight of a closed list alone. -/
theorem kept_of_act {action : Action α} (stays : Event.closes b (.act action) = false)
    (keeps : Event.replaces b (.act action) = false) (moved : Event.moves (.act action) = true → b.isOpen = true)
    (closed : (b.act action).2.isOpen = false) :
    (b.act action).2.isOpen = b.isOpen ∧ (b.act action).2.highlighted = b.highlighted := by
  cases action with
  | closeList => cases stays
  | openList =>
    -- the list would be open
    exfalso
    change b.openList.2.isOpen = false at closed
    cases list : b.isOpen with
    | true =>
      rw [openList_open list, list] at closed
      cases closed
    | false =>
      rw [openList_closed list] at closed
      cases closed
  | setInput text =>
    show (b.setInput text).2.isOpen = _ ∧ (b.setInput text).2.highlighted = _
    cases list : b.isOpen with
    | true =>
      rw [setInput_open list]
      exact ⟨list, rfl⟩
    | false =>
      rw [setInput_closed list]
      exact ⟨list, rfl⟩
  | writeInput | setCurrent | resetToDefault | isSelected | reconcile => exact ⟨rfl, rfl⟩
  | refresh => exact b.still_update keeps
  | moveHighlight delta =>
    exfalso
    have list : (b.moveHighlight delta).isOpen = b.isOpen := by
      unfold moveHighlight
      dsimp only
      split <;> rfl
    rw [moved rfl] at list
    exact Bool.false_ne_true (closed.symm.trans list)
  | select index =>
    show (b.select index).2.isOpen = _ ∧ (b.select index).2.highlighted = _
    rcases b.select_cases index with same | ⟨v, selected⟩
    · rw [same]
      exact ⟨rfl, rfl⟩
    · rw [Event.closes, selected] at stays
      cases stays
  | selectHighlighted =>
    show b.selectHighlighted.2.isOpen = _ ∧ b.selectHighlighted.2.highlighted = _
    rcases b.selectHighlighted_cases with same | ⟨v, selected⟩
    · rw [same]
      exact ⟨rfl, rfl⟩
    · rw [Event.closes, selected] at stays
      cases stays

namespace Run
variable {r : Run α} {replaced : Bool}

/-- Whether the candidates were replaced since the list was closed last. -/
def replacedSince (r : Run α) (replaced : Bool) : List (Event α) → Bool
  | [] => replaced
  | ev :: rest => (r.after ev).replacedSince (!ev.closes r.box && (replaced || ev.replaces r.box)) rest

/-- The highlight is moved in an open list only. -/
def movesOpen (r : Run α) : List (Event α) → Bool
  | [] => true
  | ev :: rest => (!ev.moves || r.box.isOpen) && (r.after ev).movesOpen rest

/-- What a closed list highlights, if its candidates were replaced since it was closed and if they were not. -/
structure Closed (r : Run α) (replaced : Bool) : Prop where
  missing : r.box.isOpen = false → (r.box.highlighted = none ↔ replaced = false ∨ r.box.candidates = [])
  /-- Without a highlight nothing can be selected with it. -/
  inert : r.box.isOpen = false → replaced = false ∨ r.box.candidates = [] → r.box.selectHighlighted = (none, r.box)
  /-- With one, the highlighted candidate is selected unseen. -/
  selects : r.box.isOpen = false → replaced = true → r.box.candidates ≠ [] →
    ∃ i c, r.box.highlighted = some i ∧ r.box.candidates[i]? = some c ∧
      r.box.selectHighlighted = (some c.value, { r.box with
        selection := r.box.selection.setCurrent c.value
        highlighted := none })

/-- What every event preserves. -/
structure Tracked (r : Run α) (replaced : Bool) : Prop where
  range : r.box.InRange
  missing : r.box.isOpen = false → (r.box.highlighted = none ↔ replaced = false ∨ r.box.candidates = [])

theorem dark_of_closes (closes : ev.closes r.box = true) :
    (r.after ev).box.isOpen = false ∧ (r.after ev).box.highlighted = none := by
  cases ev with
  | answer | settle => cases closes
  | act action =>
    cases action with
    | closeList => exact ⟨rfl, rfl⟩
    | select index =>
      show (r.box.select index).2.isOpen = false ∧ (r.box.select index).2.highlighted = none
      rcases r.box.select_cases index with same | ⟨v, selected⟩
      · rw [Event.closes, same] at closes
        cases closes
      · rw [selected]
        exact ⟨rfl, rfl⟩
    | selectHighlighted =>
      show r.box.selectHighlighted.2.isOpen = false ∧ r.box.selectHighlighted.2.highlighted = none
      rcases r.box.selectHighlighted_cases with same | ⟨v, selected⟩
      · rw [Event.closes, same] at closes
        cases closes
      · rw [selected]
        exact ⟨rfl, rfl⟩
    | _ => cases closes

theorem atHome_of_replaces (replaces : ev.replaces r.box = true) : (r.after ev).box.AtHome := by
  cases ev with
  | answer => cases replaces
  | settle => exact r.box.atHome_update replaces
  | act action =>
    cases action with
    | refresh => exact r.box.atHome_update replaces
    | _ => cases replaces

/-- Nothing else closes an open list, or changes the highlight of a closed one. -/
theorem kept_of_silent (stays : ev.closes r.box = false) (keeps : ev.replaces r.box = false)
    (moved : ev.moves = true → r.box.isOpen = true) (closed : (r.after ev).box.isOpen = false) :
    (r.after ev).box.isOpen = r.box.isOpen ∧ (r.after ev).box.highlighted = r.box.highlighted := by
  cases ev with
  | act action => exact kept_of_act stays keeps moved closed
  | answer index answer =>
    unfold after
    dsimp only
    split <;> exact ⟨rfl, rfl⟩
  | settle => exact r.box.still_update keeps

/-- Candidates that no event replaces stay. -/
theorem candidates_kept (keeps : ev.replaces r.box = false) : (r.after ev).box.candidates = r.box.candidates := by
  by_contra changed
  rcases replaced_of_candidates changed with ⟨rfl, taken⟩ | ⟨rfl, taken⟩
  · cases keeps.symm.trans taken
  · cases keeps.symm.trans taken

theorem Tracked.after (tracked : r.Tracked replaced) (ev : Event α) (moved : ev.moves = true → r.box.isOpen = true) :
    (r.after ev).Tracked (!ev.closes r.box && (replaced || ev.replaces r.box)) := by
  refine ⟨inRange_after tracked.range ev, fun closed => ?_⟩
  cases closes : ev.closes r.box with
  | true => exact iff_of_true (dark_of_closes closes).2 (.inl rfl)
  | false =>
    cases replaces : ev.replaces r.box with
    | true => simpa using (atHome_of_replaces replaces).missing_iff
    | false =>
      -- the list was closed before, with the same highlight and the same candidates
      obtain ⟨list, same⟩ := kept_of_silent closes replaces moved closed
      rw [same, candidates_kept replaces]
      simpa using tracked.missing (list.symm.trans closed)

theorem Tracked.foldl (tracked : r.Tracked replaced) (events : List (Event α)) (moved : r.movesOpen events = true) :
    (events.foldl Run.after r).Tracked (r.replacedSince replaced events) := by
  -- the flag goes along with the run, so it is general in the induction
  induction events generalizing r replaced with
  | nil => exact tracked
  | cons ev rest ih =>
    obtain ⟨first, later⟩ := Bool.and_eq_true_iff.1 moved
    refine ih (tracked.after ev fun moves => ?_) later
    rw [moves] at first
    exact first

omit [DecidableEq α] in
theorem Tracked.closed (tracked : r.Tracked replaced) : r.Closed replaced where
  missing := tracked.missing
  inert closed dark := by
    unfold selectHighlighted
    rw [(tracked.missing closed).2 dark]
  selects closed lit some_candidate := by
    cases highlighted : r.box.highlighted with
    | none =>
      rcases (tracked.missing closed).1 highlighted with dark | empty
      · cases lit.symm.trans dark
      · exact absurd empty some_candidate
    | some i =>
      obtain ⟨c, place, selected⟩ := tracked.range.selects highlighted
      refine ⟨i, c, rfl, place, ?_⟩
      rw [selected, ← closed]

/-- **A closed list has a highlight exactly if candidates came after it was closed.** -/
theorem closed_run (default : α) (key : α → String) (events : List (Event α))
    (moved : (ofEvents default key []).movesOpen events = true) :
    (ofEvents default key events).Closed ((ofEvents default key []).replacedSince false events) := by
  have start : (ofEvents default key []).Tracked false := ⟨.of_closed rfl rfl, fun _ => iff_of_true rfl (.inl rfl)⟩
  exact (start.foldl events moved).closed

/-- The list is closed before the answer to its lookup is taken in. -/
theorem closed_run_late :
    let events : List (Event String) :=
      [.act .openList, .act (.moveHighlight 1), .act .closeList, .answer 0 (.ok [.plain "apple"]), .settle]
    (ofEvents "cherry" id []).movesOpen events = true ∧ (ofEvents "cherry" id events).Closed true := by
  intro events
  exact ⟨rfl, closed_run "cherry" id events rfl⟩

/-- The answer that comes after the list was closed is highlighted, and replaces the selection when it is asked for. -/
theorem selected_while_closed :
    let events : List (Event String) := [.act .openList, .act .closeList, .answer 0 (.ok [.plain "apple"]), .settle]
    let box := (ofEvents "cherry" id events).box
    (ofEvents "cherry" id []).movesOpen events = true ∧ box.isOpen = false ∧ box.highlighted = some 0 ∧
      box.value.value = "cherry" ∧ box.selectHighlighted.1 = some "apple" ∧
      box.selectHighlighted.2.value.value = "apple" := by
  decide

end Run

end StickerBook.Editor.Combobox
