import StickerBook.Proofs.Editor.Combobox

/-!
# Where the highlight stands

The highlight of a combobox belongs on the first candidate that matches the selection, or else on the first of all
(`IsHome`). Opening the list and replacing the candidates put it there, and moving it keeps it among the candidates. So it
is never out of range, and an open box lacks one only as long as it has no candidates (`lit_run`).
-/

namespace StickerBook.Editor.Combobox
set_option autoImplicit false
open Lookup (Exchange Service Widget)
variable {α : Type} {b b' : Combobox α}

/-- A candidate matches the selection. -/
def Matches (b : Combobox α) (c : Choice α) : Prop := b.key c.value = b.key b.value.value

/-- At this place is the first candidate that matches the selection, or else the first of all. -/
def IsHome (b : Combobox α) (i : Nat) : Prop :=
  (∃ c, b.candidates[i]? = some c ∧ b.Matches c ∧ ∀ j < i, ∀ c', b.candidates[j]? = some c' → ¬b.Matches c') ∨
    (i = 0 ∧ b.candidates ≠ [] ∧ ∀ c ∈ b.candidates, ¬b.Matches c)

/-- The highlight stands where it belongs. Without candidates there is none. -/
def AtHome (b : Combobox α) : Prop := ∀ i, b.highlighted = some i ↔ b.IsHome i

/-- The highlight is one of the candidates, and an open box has one as soon as it has candidates. -/
structure InRange (b : Combobox α) : Prop where
  within : ∀ i, b.highlighted = some i → i < b.candidates.length
  missing : b.isOpen = true → (b.highlighted = none ↔ b.candidates = [])

theorem IsHome.lt_length {i : Nat} (home : b.IsHome i) : i < b.candidates.length := by
  rcases home with ⟨c, place, -⟩ | ⟨rfl, some_candidate, -⟩
  · exact (List.getElem?_eq_some_iff.1 place).1
  · exact List.length_pos_iff.2 some_candidate

theorem isSelected_iff {c : Choice α} : b.isSelected c.value = true ↔ b.Matches c := decide_eq_true_iff

/-- To put the highlight where it belongs is what the box means by it. -/
theorem atHome_syncHighlight (b : Combobox α) : b.syncHighlight.AtHome := by
  intro i
  show (if b.candidates.isEmpty then none
    else some ((b.candidates.findIdx? fun c => b.isSelected c.value).getD 0)) = some i ↔ b.IsHome i
  cases empty : b.candidates with
  | nil =>
    constructor
    · exact nofun
    · intro home
      have within := home.lt_length
      rw [empty] at within
      exact absurd within (Nat.not_lt_zero i)
  | cons first rest =>
    rw [← empty]
    have some_candidate : b.candidates ≠ [] := by simp [empty]
    rw [if_neg (by simp [empty]), Option.some_inj]
    cases found : b.candidates.findIdx? fun c => b.isSelected c.value with
    | none =>
      have none_matches (c : Choice α) (member : c ∈ b.candidates) : ¬b.Matches c := by
        rw [← isSelected_iff, List.findIdx?_eq_none_iff.1 found c member]
        exact Bool.false_ne_true
      constructor
      · rintro rfl
        exact .inr ⟨rfl, some_candidate, none_matches⟩
      · rintro (⟨c, place, same, -⟩ | ⟨rfl, -⟩)
        · exact absurd same (none_matches c (List.mem_of_getElem? place))
        · rfl
    | some k =>
      obtain ⟨within, same, before⟩ := List.findIdx?_eq_some_iff_getElem.1 found
      have same : b.Matches b.candidates[k] := isSelected_iff.1 same
      have before (j : Nat) (early : j < k) (c : Choice α) (place : b.candidates[j]? = some c) : ¬b.Matches c := by
        obtain ⟨_, rfl⟩ := List.getElem?_eq_some_iff.1 place
        rw [← isSelected_iff]
        exact before j early
      have place : b.candidates[k]? = some b.candidates[k] := List.getElem?_eq_getElem within
      constructor
      · rintro rfl
        exact .inl ⟨_, place, same, before⟩
      · rintro (⟨c, place', same', before'⟩ | ⟨-, -, none_matches⟩)
        · -- neither of the two places is before the other
          rcases Nat.lt_trichotomy k i with early | equal | late
          · exact absurd same (before' k early _ place)
          · exact equal
          · exact absurd same' (before i late c place')
        · exact absurd same (none_matches _ (List.getElem_mem within))

/-- There is a place where the highlight belongs as soon as there are candidates. -/
theorem exists_isHome (some_candidate : b.candidates ≠ []) : ∃ i, b.IsHome i := by
  have highlighted : b.syncHighlight.highlighted
      = some ((b.candidates.findIdx? fun c => b.isSelected c.value).getD 0) := by
    simp [syncHighlight, some_candidate]
  exact ⟨_, (b.atHome_syncHighlight _).1 highlighted⟩

/-- A highlight that stands where it belongs is missing only for want of candidates. -/
theorem AtHome.missing_iff (home : b.AtHome) : b.highlighted = none ↔ b.candidates = [] := by
  constructor
  · intro missing
    by_contra some_candidate
    obtain ⟨i, here⟩ := exists_isHome some_candidate
    rw [(home i).2 here] at missing
    cases missing
  · intro empty
    refine Option.eq_none_iff_forall_ne_some.2 fun i highlighted => ?_
    have within := ((home i).1 highlighted).lt_length
    rw [empty] at within
    exact Nat.not_lt_zero i within

theorem AtHome.inRange (home : b.AtHome) : b.InRange where
  within i highlighted := ((home i).1 highlighted).lt_length
  missing _ := home.missing_iff

/-- A closed box without a highlight has none out of range. -/
theorem InRange.of_closed (closed : b.isOpen = false) (missing : b.highlighted = none) : b.InRange where
  within i highlighted := by
    rw [missing] at highlighted
    cases highlighted
  missing opened := by
    rw [closed] at opened
    cases opened

/-- What touches neither the candidates nor the highlight keeps it in range. -/
theorem InRange.of_same (range : b.InRange) (candidates : b'.candidates = b.candidates)
    (highlighted : b'.highlighted = b.highlighted) (list : b'.isOpen = b.isOpen) : b'.InRange where
  within := by
    rw [candidates, highlighted]
    exact range.within
  missing := by
    rw [candidates, highlighted, list]
    exact range.missing

/-- The highlight moves from candidate to candidate, however far it is moved. -/
theorem InRange.moveHighlight (range : b.InRange) (delta : Int) : (b.moveHighlight delta).InRange := by
  unfold Combobox.moveHighlight
  dsimp only
  split
  · exact range
  · next some_candidate =>
    constructor
    · intro i highlighted
      obtain rfl := Option.some.inj highlighted
      show _ < b.candidates.length
      split
      · omega
      · split <;> omega
    · intro _
      refine iff_of_false nofun fun empty => some_candidate ?_
      exact List.length_eq_zero_iff.2 empty

/-- What is highlighted can be selected, in a closed list too. -/
theorem InRange.selects [Choosable α] (range : b.InRange) {i : Nat} (highlighted : b.highlighted = some i) :
    ∃ c, b.candidates[i]? = some c ∧ b.selectHighlighted = (some c.value, { b with
        selection := b.selection.setCurrent c.value
        isOpen := false
        highlighted := none }) := by
  have place : b.candidates[i]? = some _ := List.getElem?_eq_getElem (range.within i highlighted)
  refine ⟨_, place, ?_⟩
  unfold selectHighlighted
  rw [highlighted]
  exact select_of_place place

/-- The highlighted choice of an open box with candidates can be selected. -/
theorem InRange.exists_selected [Choosable α] (range : b.InRange) (opened : b.isOpen = true)
    (some_candidate : b.candidates ≠ []) : ∃ i c, b.highlighted = some i ∧ b.candidates[i]? = some c ∧
      b.selectHighlighted = (some c.value, { b with
        selection := b.selection.setCurrent c.value
        isOpen := false
        highlighted := none }) := by
  cases highlighted : b.highlighted with
  | none => exact absurd ((range.missing opened).1 highlighted) some_candidate
  | some i =>
    obtain ⟨c, place, selected⟩ := range.selects highlighted
    exact ⟨i, c, rfl, place, selected⟩

/-- Taking answers in puts the highlight where it belongs if they replaced the candidates. -/
theorem atHome_update (b : Combobox α) {result : Bool × Service (Choice α)} (replaced : result.1 = true) :
    (Widget.update b result).2.AtHome := by
  unfold Widget.update
  rw [replaced]
  exact atHome_syncHighlight _

/-- Otherwise it leaves the candidates and the highlight alone. -/
theorem update_kept (b : Combobox α) {result : Bool × Service (Choice α)} (kept : result.1 = false) :
    (Widget.update b result).2 = { b with service := result.2 } := by
  unfold Widget.update
  rw [kept]
  rfl

theorem candidates_update {result : Bool × Service (Choice α)}
    (same : result.1 = false → result.2.results = b.service.results)
    (changed : (Widget.update b result).2.candidates ≠ b.candidates) : result.1 = true := by
  cases replaced : result.1 with
  | true => rfl
  | false =>
    rw [b.update_kept replaced] at changed
    exact absurd (same replaced) changed

theorem InRange.update (range : b.InRange) {result : Bool × Service (Choice α)}
    (same : result.1 = false → result.2.results = b.service.results) : (Widget.update b result).2.InRange := by
  cases replaced : result.1 with
  | true => exact (b.atHome_update replaced).inRange
  | false =>
    rw [b.update_kept replaced]
    exact range.of_same (same replaced) rfl rfl

theorem atHome_openList (closed : b.isOpen = false) : b.openList.2.AtHome := by
  rw [openList_closed closed]
  exact b.atHome_syncHighlight

section
variable [Choosable α]

theorem InRange.select (range : b.InRange) (index : Nat) : (b.select index).2.InRange := by
  unfold Combobox.select
  split
  · exact range
  · exact .of_closed rfl rfl

theorem candidates_select (b : Combobox α) (index : Nat) : (b.select index).2.candidates = b.candidates := by
  unfold Combobox.select
  split <;> rfl

variable [DecidableEq α]

/-- Candidates come from answers alone. -/
theorem candidates_act {action : Action α} (other : action ≠ .refresh) : (b.act action).2.candidates = b.candidates := by
  cases looks : action.looksUp b with
  | true =>
    obtain ⟨-, service, -⟩ := act_looksUp looks
    show (b.act action).2.service.results = b.service.results
    rw [service]
    rfl
  | false =>
    cases action with
    | refresh => exact absurd rfl other
    | closeList | writeInput | setCurrent | resetToDefault | isSelected | reconcile => rfl
    | openList =>
      show b.openList.2.candidates = b.candidates
      rw [openList_open (by simpa [Action.looksUp] using looks)]
    | setInput text =>
      show (b.setInput text).2.candidates = b.candidates
      rw [setInput_closed looks]
      rfl
    | moveHighlight delta =>
      show (b.moveHighlight delta).candidates = b.candidates
      unfold moveHighlight
      dsimp only
      split <;> rfl
    | select index => exact b.candidates_select index
    | selectHighlighted =>
      show b.selectHighlighted.2.candidates = b.candidates
      unfold selectHighlighted
      split
      · rfl
      · exact b.candidates_select _

/-- Every action keeps the highlight in range. -/
theorem InRange.act (range : b.InRange) (action : Action α) : (b.act action).2.InRange := by
  cases action with
  | openList =>
    cases list : b.isOpen with
    | true =>
      show b.openList.2.InRange
      rw [openList_open list]
      exact range
    | false => exact (atHome_openList list).inRange
  | closeList => exact .of_closed rfl rfl
  | setInput text =>
    show (b.setInput text).2.InRange
    cases list : b.isOpen with
    | true =>
      rw [setInput_open list]
      exact range.of_same rfl rfl rfl
    | false =>
      rw [setInput_closed list]
      exact range.of_same rfl rfl rfl
  | writeInput | setCurrent | resetToDefault | isSelected | reconcile => exact range.of_same rfl rfl rfl
  | refresh => exact range.update Service.results_applyAll
  | moveHighlight delta => exact range.moveHighlight delta
  | select index => exact range.select index
  | selectHighlighted =>
    show b.selectHighlighted.2.InRange
    unfold selectHighlighted
    split
    · exact range
    · exact range.select _

end

namespace Run
variable [Choosable α] [DecidableEq α] {r : Run α}

/-- So does every event. -/
theorem inRange_after (range : r.box.InRange) (ev : Event α) : (r.after ev).box.InRange := by
  cases ev with
  | act action => exact range.act action
  | answer index answer =>
    unfold after
    dsimp only
    split
    · exact range
    · exact range.of_same rfl rfl rfl
  | settle => exact range.update Service.results_applyUntilSettled

theorem inRange_foldl (range : r.box.InRange) (events : List (Event α)) : (events.foldl after r).box.InRange := by
  induction events generalizing r with
  | nil => exact range
  | cons ev rest ih => exact ih (inRange_after range ev)

/-- Where the highlight stands, and where the next event puts it. -/
structure Lit (r : Run α) : Prop where
  within : ∀ i, r.box.highlighted = some i → i < r.box.candidates.length
  missing : r.box.isOpen = true → (r.box.highlighted = none ↔ r.box.candidates = [])
  /-- An open box with candidates has a highlighted one, which can be selected. -/
  selects : r.box.isOpen = true → r.box.candidates ≠ [] →
    ∃ i c, r.box.highlighted = some i ∧ r.box.candidates[i]? = some c ∧ r.box.selectHighlighted.1 = some c.value ∧
      r.box.selectHighlighted.2.value = .plain c.value ∧ r.box.selectHighlighted.2.isOpen = false
  opened : r.box.isOpen = false → (r.after (.act .openList)).box.AtHome
  /-- An open box cannot be opened. -/
  reopened : r.box.isOpen = true → r.after (.act .openList) = r
  refreshed : (Widget.refresh r.box).1 = true → (r.after (.act .refresh)).box.AtHome
  settled : (Widget.settle r.box).1 = true → (r.after .settle).box.AtHome
  /-- Nothing else changes the candidates. -/
  changed : ∀ ev, (r.after ev).box.candidates ≠ r.box.candidates →
    (ev = .act .refresh ∧ (Widget.refresh r.box).1 = true) ∨ (ev = .settle ∧ (Widget.settle r.box).1 = true)

/-- Candidates are replaced by taking answers in and by nothing else. -/
theorem replaced_of_candidates {ev : Event α} (changed : (r.after ev).box.candidates ≠ r.box.candidates) :
    (ev = .act .refresh ∧ (Widget.refresh r.box).1 = true) ∨ (ev = .settle ∧ (Widget.settle r.box).1 = true) := by
  cases ev with
  | act action =>
    by_cases refreshes : action = .refresh
    · subst refreshes
      exact .inl ⟨rfl, candidates_update Service.results_applyAll changed⟩
    · exact absurd (candidates_act refreshes) changed
  | answer index answer =>
    refine absurd ?_ changed
    unfold after
    dsimp only
    split <;> rfl
  | settle => exact .inr ⟨rfl, candidates_update Service.results_applyUntilSettled changed⟩

/-- **The highlight is never out of range**, after every run of a combobox. -/
theorem lit_run (default : α) (key : α → String) (events : List (Event α)) : (ofEvents default key events).Lit := by
  have range : (ofEvents default key events).box.InRange := inRange_foldl (.of_closed rfl rfl) events
  generalize ofEvents default key events = r at range
  exact {
    within := range.within
    missing := range.missing
    selects := fun opened some_candidate => by
      obtain ⟨i, c, highlighted, place, selected⟩ := range.exists_selected opened some_candidate
      refine ⟨i, c, highlighted, place, ?_⟩
      rw [selected]
      exact ⟨rfl, rfl, rfl⟩
    opened := atHome_openList
    reopened := fun opened => by
      have again := openList_open opened
      simp [after, act, again, Reply.request?, Exchange.issue, Action.written?]
    refreshed := r.box.atHome_update
    settled := r.box.atHome_update
    changed := fun _ => replaced_of_candidates }

end Run

end StickerBook.Editor.Combobox
