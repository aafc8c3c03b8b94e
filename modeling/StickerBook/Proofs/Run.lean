/-!
# Runs

A run folds a step over a list of events. A property that holds as long as some count stays below a limit, since
no number has wrapped around before, holds of the whole run if the count is below the limit at its end
(`foldl_keeps`).
-/

namespace StickerBook
set_option autoImplicit false
variable {σ ε : Type} {step : σ → ε → σ}

/-- A run does not lower a count that no step lowers. -/
theorem le_foldl (count : σ → Nat) (grows : ∀ s e, count s ≤ count (step s e)) (events : List ε) (s : σ) :
    count s ≤ count (events.foldl step s) := by
  induction events generalizing s with
  | nil => exact Nat.le_refl _
  | cons e rest ih => exact Nat.le_trans (grows s e) (ih (step s e))

/-- A run keeps what each of its steps keeps below the limit. -/
theorem foldl_keeps (count : σ → Nat) {limit : Nat} {good : σ → Prop}
    (grows : ∀ s e, count s ≤ count (step s e)) (events : List ε)
    (keeps : ∀ s, ∀ e ∈ events, good s → count (step s e) < limit → good (step s e))
    (s : σ) (holds : good s) (bound : count (events.foldl step s) < limit) : good (events.foldl step s) := by
  induction events generalizing s with
  | nil => exact holds
  | cons e rest ih =>
    -- the count only grows, so it is below the limit after the first step already
    have now : count (step s e) < limit := Nat.lt_of_le_of_lt (le_foldl count grows rest (step s e)) bound
    have first := keeps s e List.mem_cons_self holds now
    exact ih (fun s e member => keeps s e (List.mem_cons_of_mem _ member)) (step s e) first bound

end StickerBook
