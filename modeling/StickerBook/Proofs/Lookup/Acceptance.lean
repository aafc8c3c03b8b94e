import StickerBook.Lookup.Service

/-!
# What a response does to a service

A response is either current, and then its number becomes the accepted one and its outcome decides what
is on show, or it is stale, and then nothing changes. Every later fact about a service comes from these
two rules (`Service.apply_current`, `Service.apply_stale`) and from `act_eq_applyAll`: apart from issuing a
request, all that a service does is to apply responses.
-/

namespace StickerBook.Lookup
set_option autoImplicit false
variable {α : Type}

namespace Outcome

/-- The items that an outcome shows. A failure shows none. -/
def items : Outcome α → List α
  | .ready items => items
  | .notReady => []
  | .failed _ => []

/-- The outcome replaces the items on show. -/
def replaces : Outcome α → Bool
  | .notReady => false
  | _ => true

/-- The items on show after an outcome, given those before it. -/
def onto (outcome : Outcome α) (shown : List α) : List α :=
  if outcome.replaces then outcome.items else shown

theorem onto_of_replaces {outcome : Outcome α} (replaces : outcome.replaces = true) (shown : List α) :
    outcome.onto shown = outcome.items := by
  simp only [onto, replaces, if_true]

theorem onto_of_keeps {outcome : Outcome α} (keeps : outcome.replaces = false) (shown : List α) :
    outcome.onto shown = shown := by
  simp [onto, keeps]

end Outcome

/-- The response is dropped. -/
def Verdict.isStale : Verdict α → Bool
  | .stale => true
  | _ => false

namespace Coordinator

theorem isCurrent_iff {c : Coordinator} {seq : UInt64} :
    c.isCurrent seq = true ↔ seq = c.issued ∧ c.accepted < seq := by
  simp [isCurrent]

theorem isPending_iff {c : Coordinator} : c.isPending = true ↔ c.accepted < c.issued := by
  simp [isPending]

/-- A response is dropped exactly if its number is not current. -/
theorem isStale_accept (c : Coordinator) (r : Response α) :
    (c.accept r).1.isStale = !c.isCurrent r.seq := by
  unfold accept
  split
  · next current =>
    rw [current]
    cases r.outcome <;> rfl
  · next stale =>
    rw [Bool.not_eq_true] at stale
    rw [stale]
    rfl

/-- A response that is not current is dropped without a trace. -/
theorem accept_stale {c : Coordinator} {r : Response α} (stale : c.isCurrent r.seq = false) :
    c.accept r = (.stale, c) := by
  simp [accept, stale]

/-- The number of an accepted response becomes the accepted number. -/
theorem accept_current {c : Coordinator} {r : Response α} (current : c.isCurrent r.seq = true) :
    (c.accept r).2 = { c with accepted := c.issued } := by
  unfold accept
  rw [if_pos current, (isCurrent_iff.1 current).1]

end Coordinator

namespace Service

/-- A stale response changes nothing. -/
theorem apply_stale {s : Service α} {r : Response α} (stale : s.coordinator.isCurrent r.seq = false) :
    s.apply r = (false, s) := by
  unfold apply
  rw [Coordinator.accept_stale stale]

/-- A current response is accepted. What is on show is replaced unless the outcome is not ready. -/
theorem apply_current {s : Service α} {r : Response α} (current : s.coordinator.isCurrent r.seq = true) :
    s.apply r = (r.outcome.replaces, { s with
      coordinator := { s.coordinator with accepted := r.seq }
      results := r.outcome.onto s.results
      resultQuery := if r.outcome.replaces then s.lastRequest else s.resultQuery }) := by
  unfold apply
  cases outcome : r.outcome <;>
    simp [Coordinator.accept, current, outcome, Outcome.replaces, Outcome.onto, Outcome.items]

/-- The two things that a response can do. -/
theorem apply_cases (s : Service α) (r : Response α) :
    s.apply r = (false, s) ∨
      (r.seq = s.coordinator.issued ∧ s.coordinator.accepted < s.coordinator.issued ∧
        s.apply r = (r.outcome.replaces, { s with
          coordinator := { s.coordinator with accepted := s.coordinator.issued }
          results := r.outcome.onto s.results
          resultQuery := if r.outcome.replaces then s.lastRequest else s.resultQuery })) := by
  cases current : s.coordinator.isCurrent r.seq with
  | false => exact Or.inl (apply_stale current)
  | true =>
    have applied := apply_current current
    obtain ⟨newest, fresh⟩ := Coordinator.isCurrent_iff.1 current
    rw [newest] at fresh applied
    exact Or.inr ⟨newest, fresh, applied⟩

/-- A response that replaces nothing leaves what is on show alone. -/
theorem results_apply {s : Service α} {r : Response α} (kept : (s.apply r).1 = false) :
    (s.apply r).2.results = s.results := by
  rcases s.apply_cases r with dropped | ⟨-, -, accepted⟩
  · rw [dropped]
  · rw [accepted] at kept ⊢
    exact Outcome.onto_of_keeps kept s.results

theorem issued_apply (s : Service α) (r : Response α) :
    (s.apply r).2.coordinator.issued = s.coordinator.issued := by
  rcases s.apply_cases r with dropped | ⟨-, -, accepted⟩
  · rw [dropped]
  · rw [accepted]

/-- A service waits until it is given a response to its newest request. -/
theorem isPending_apply_iff {s : Service α} {r : Response α} :
    (s.apply r).2.isPending = true ↔ s.isPending = true ∧ r.seq ≠ s.coordinator.issued := by
  cases current : s.coordinator.isCurrent r.seq with
  | true =>
    obtain ⟨newest, -⟩ := Coordinator.isCurrent_iff.1 current
    rw [apply_current current, newest]
    refine iff_of_false (fun waits => ?_) fun both => both.2 rfl
    exact UInt64.lt_irrefl _ (Coordinator.isPending_iff.1 waits)
  | false =>
    rw [apply_stale current]
    refine ⟨fun waits => ⟨waits, fun newest => ?_⟩, And.left⟩
    rw [newest, Coordinator.isCurrent_issued] at current
    exact absurd waits (by rw [show s.isPending = false from current]; exact Bool.false_ne_true)

end Service

end StickerBook.Lookup
