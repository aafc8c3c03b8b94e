import StickerBook.Proofs.Editor.Selection

/-!
# What an owner supplies over time

A selection goes through calls: its owner supplies a value, present or missing, and other values are displayed in between.
What a supplied value does depends on the one supplied before it and on the value on display, on nothing else. So of a row of
missing values the first is reported to the owner, once, whatever is displayed in between (`responds_follow`).
-/

namespace StickerBook.Editor.Selection
set_option autoImplicit false
variable {α : Type}

/-- What can be done to a selection. -/
inductive Call (α : Type) where
  | reconcile (external : Option α)
  | setCurrent (value : α)

variable [Choosable α]

/-- The value that a call supplies, if it is one of the owner's. A blank one is missing. -/
def Call.supplied? : Call α → Option (Option α)
  | .reconcile external => some (present external)
  | .setCurrent _ => none

/-- The values that the owner supplied, in order. -/
def supplied (calls : List (Call α)) : List (Option α) := calls.filterMap Call.supplied?

variable [DecidableEq α]

/-- The selection after a call. -/
def after (s : Selection α) : Call α → Selection α
  | .reconcile external => (s.reconcile external).2
  | .setCurrent v => s.setCurrent v

/-- The selection after some calls. -/
def follow (s : Selection α) (calls : List (Call α)) : Selection α := calls.foldl after s

/-- What the supplied values do, in order. -/
def outcomes (s : Selection α) : List (Call α) → List (SyncOutcome α)
  | [] => []
  | .reconcile external :: rest => (s.reconcile external).1 :: (s.reconcile external).2.outcomes rest
  | .setCurrent v :: rest => (s.setCurrent v).outcomes rest

/-- How a selection responds to what its owner supplies, given the calls so far. -/
structure Responds (default : α) (calls : List (Call α)) (s : Selection α) : Prop where
  /-- The owner is told of the default exactly if its value has become missing, or was from the start. -/
  fellBack_iff : ∀ external v, (s.reconcile external).1 = .fellBack v ↔
    v = default ∧ present external = none ∧ (supplied calls).getLast? ≠ some none
  /-- A value is adopted exactly if it is neither the one supplied before nor the one on display. -/
  adopted_iff : ∀ external, (s.reconcile external).1 = .adopted ↔
    ∃ v, present external = some v ∧ (supplied calls).getLast? ≠ some (some v) ∧ v ≠ s.current.value
  unchanged : ∀ external, (s.reconcile external).1 = .unchanged → (s.reconcile external).2.current = s.current
  adopted : ∀ external, (s.reconcile external).1 = .adopted →
    ∃ v, external = some v ∧ (s.reconcile external).2.current = .plain v
  fellBack : ∀ external v, (s.reconcile external).1 = .fellBack v → (s.reconcile external).2.current = .plain default
  /-- In a row of missing values that begins after a present one, or is the first of all, only the first is reported. -/
  once : ∀ front row back, supplied calls = front ++ row ++ back → front.getLast? ≠ some none → row ≠ [] →
    (∀ x ∈ row, x = none) → ∃ before later, before.length = front.length ∧
      (start default).outcomes calls = before ++ .fellBack default :: .replicate (row.length - 1) .unchanged ++ later

variable {s : Selection α} {calls : List (Call α)}

theorem follow_cons (s : Selection α) (call : Call α) (rest : List (Call α)) :
    s.follow (call :: rest) = (s.after call).follow rest := rfl

/-- A selection keeps the value that was supplied last. -/
theorem observed_follow (s : Selection α) (calls : List (Call α)) :
    (s.follow calls).observed = (supplied calls).getLast?.or s.observed := by
  induction calls generalizing s with
  | nil => rfl
  | cons call rest ih =>
    rw [follow_cons, ih]
    cases call with
    | setCurrent v => rfl
    | reconcile external =>
      show _ = (present external :: supplied rest).getLast?.or s.observed
      rw [after, observed_reconcile, List.getLast?_cons]
      cases (supplied rest).getLast? <;> rfl

theorem default_follow (s : Selection α) (calls : List (Call α)) : (s.follow calls).default = s.default := by
  induction calls generalizing s with
  | nil => rfl
  | cons call rest ih =>
    rw [follow_cons, ih]
    cases call with
    | setCurrent v => rfl
    | reconcile external => exact s.default_reconcile external

theorem outcomes_append (s : Selection α) (calls more : List (Call α)) :
    s.outcomes (calls ++ more) = s.outcomes calls ++ (s.follow calls).outcomes more := by
  induction calls generalizing s with
  | nil => rfl
  | cons call rest ih =>
    cases call with
    | setCurrent v => exact ih (s.setCurrent v)
    | reconcile external => exact congrArg ((s.reconcile external).1 :: ·) (ih (s.reconcile external).2)

/-- Every supplied value has its outcome. -/
theorem length_outcomes (s : Selection α) (calls : List (Call α)) : (s.outcomes calls).length = (supplied calls).length := by
  induction calls generalizing s with
  | nil => rfl
  | cons call rest ih =>
    cases call with
    | setCurrent v => exact ih (s.setCurrent v)
    | reconcile external => exact congrArg (· + 1) (ih (s.reconcile external).2)

/-- A value that stays missing is not reported again. -/
theorem outcomes_missing (seen : s.observed = some none) (missing : ∀ x ∈ supplied calls, x = none) :
    s.outcomes calls = .replicate (supplied calls).length .unchanged := by
  induction calls generalizing s with
  | nil => rfl
  | cons call rest ih =>
    cases call with
    | setCurrent v => exact ih (s := s.setCurrent v) seen missing
    | reconcile external =>
      obtain ⟨first, later⟩ := List.forall_mem_cons.1 missing
      have nothing : s.reconcile external = (.unchanged, s) := reconcile_seen (first ▸ seen)
      show (s.reconcile external).1 :: (s.reconcile external).2.outcomes rest = _
      rw [nothing, ih seen later]
      rfl

/-- A value that becomes missing is reported at once. -/
theorem outcomes_row (new : s.observed ≠ some none) (some_value : supplied calls ≠ [])
    (missing : ∀ x ∈ supplied calls, x = none) :
    s.outcomes calls = .fellBack s.default :: .replicate ((supplied calls).length - 1) .unchanged := by
  induction calls generalizing s with
  | nil => exact absurd rfl some_value
  | cons call rest ih =>
    cases call with
    | setCurrent v => exact ih (s := s.setCurrent v) new some_value missing
    | reconcile external =>
      obtain ⟨first, later⟩ := List.forall_mem_cons.1 missing
      show (s.reconcile external).1 :: (s.reconcile external).2.outcomes rest = _
      rw [reconcile_missing first new, outcomes_missing rfl later]
      rfl

/-- In a row of missing values the first one is reported, and it alone. -/
theorem outcomes_once {front row back : List (Option α)} (parts : supplied calls = front ++ row ++ back)
    (new : front.getLast?.or s.observed ≠ some none) (some_value : row ≠ []) (missing : ∀ x ∈ row, x = none) :
    ∃ before later, before.length = front.length ∧
      s.outcomes calls = before ++ .fellBack s.default :: .replicate (row.length - 1) .unchanged ++ later := by
  obtain ⟨earlier, last, rfl, early, rfl⟩ := List.filterMap_eq_append_iff.1 parts
  obtain ⟨first, middle, rfl, rfl, rfl⟩ := List.filterMap_eq_append_iff.1 early
  refine ⟨s.outcomes first, ((s.follow (first ++ middle)).outcomes last), s.length_outcomes first, ?_⟩
  have before := s.observed_follow first
  have row := outcomes_row (s := s.follow first) (before ▸ new) some_value missing
  rw [outcomes_append, outcomes_append, row, default_follow]
  rfl

theorem fellBack_iff {external : Option α} {v : α} : (s.reconcile external).1 = .fellBack v ↔
    v = s.default ∧ present external = none ∧ s.observed ≠ some none := by
  constructor
  · intro told
    rcases s.reconcile_cases external with ⟨-, eq⟩ | ⟨w, -, -, -, eq⟩ | ⟨w, -, -, -, eq⟩ | ⟨missing, new, eq⟩
    · cases (congrArg Prod.fst eq).symm.trans told
    · cases (congrArg Prod.fst eq).symm.trans told
    · cases (congrArg Prod.fst eq).symm.trans told
    · have same : SyncOutcome.fellBack s.default = .fellBack v := (congrArg Prod.fst eq).symm.trans told
      exact ⟨(SyncOutcome.fellBack.inj same).symm, missing, new⟩
  · rintro ⟨rfl, missing, new⟩
    rw [reconcile_missing missing new]

theorem adopted_iff {external : Option α} : (s.reconcile external).1 = .adopted ↔
    ∃ v, present external = some v ∧ s.observed ≠ some (some v) ∧ v ≠ s.current.value := by
  constructor
  · intro adopted
    rcases s.reconcile_cases external with ⟨-, eq⟩ | ⟨w, -, -, -, eq⟩ | ⟨w, supplied, new, other, eq⟩ | ⟨-, -, eq⟩
    · cases (congrArg Prod.fst eq).symm.trans adopted
    · cases (congrArg Prod.fst eq).symm.trans adopted
    · exact ⟨w, supplied, new, other⟩
    · cases (congrArg Prod.fst eq).symm.trans adopted
  · rintro ⟨v, supplied, new, other⟩
    rw [reconcile_adopted supplied new other]

/-- What is on display afterwards goes by the outcome. -/
theorem current_reconcile (s : Selection α) (external : Option α) :
    (s.reconcile external).2.current = match (s.reconcile external).1 with
      | .unchanged => s.current
      | .adopted => (present external).elim s.current .plain
      | .fellBack v => .plain v := by
  rcases s.reconcile_cases external with ⟨-, eq⟩ | ⟨v, -, -, -, eq⟩ | ⟨v, supplied, -, -, eq⟩ | ⟨-, -, eq⟩
  · rw [eq]
  · rw [eq]
  · rw [eq, supplied]
    rfl
  · rw [eq]

/-- **A selection responds to a change of what its owner supplies**, after all calls. -/
theorem responds_follow (default : α) (calls : List (Call α)) :
    ((start default).follow calls).Responds default calls := by
  have observed := (start default).observed_follow calls
  have kept : _ = default := (start default).default_follow calls
  rw [show (start default).observed = none from rfl, Option.or_none] at observed
  constructor
  case once =>
    intro front row back parts new some_value missing
    refine outcomes_once parts ?_ some_value missing
    rw [show (start default).observed = none from rfl, Option.or_none]
    exact new
  all_goals generalize (start default).follow calls = s at observed kept
  case fellBack_iff =>
    intro external v
    rw [fellBack_iff, kept, observed]
  case adopted_iff =>
    intro external
    rw [adopted_iff, observed]
  case unchanged =>
    intro external unchanged
    rw [current_reconcile, unchanged]
  case adopted =>
    intro external adopted
    obtain ⟨v, supplied, -⟩ := adopted_iff.1 adopted
    refine ⟨v, (present_eq_some_iff.1 supplied).1, ?_⟩
    rw [current_reconcile, adopted, supplied]
    rfl
  case fellBack =>
    intro external v told
    rw [current_reconcile, told, (fellBack_iff.1 told).1, kept]

/-- The owner's value goes missing twice. The second row begins after the owner supplied what is on display by then. -/
example : (start "Inbox").outcomes [.reconcile none, .setCurrent "Cats", .reconcile (some ""), .reconcile (some "Cats"),
    .reconcile none, .setCurrent "Dogs", .reconcile none] =
      [.fellBack "Inbox", .unchanged, .unchanged, .fellBack "Inbox", .unchanged] := by
  decide

end StickerBook.Editor.Selection
