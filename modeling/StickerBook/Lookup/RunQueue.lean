/-!
# Run queues

A run queue serves its entries from the front. An entry that gives way is put back at the end, one turn
nearer to being served, so an urgent entry overtakes it.
-/

namespace StickerBook.Lookup
set_option autoImplicit false
variable {τ ω : Type}

/-- A job and the number of turns that it gives away before it is served. -/
structure Queued (τ : Type) where
  job : τ
  yields : Nat := 0
deriving DecidableEq, Repr

/-- The turns that a queue needs until it is empty. -/
def turnsLeft : List (Queued τ) → Nat
  | [] => 0
  | entry :: rest => entry.yields + 1 + turnsLeft rest

theorem turnsLeft_append (entries more : List (Queued τ)) :
    turnsLeft (entries ++ more) = turnsLeft entries + turnsLeft more := by
  induction entries with
  | nil => simp [turnsLeft]
  | cons entry rest ih => simp [turnsLeft, ih]; omega

/-- Runs a queue until it is empty. -/
def runQueue (serve : ω → τ → ω) : List (Queued τ) → ω → ω
  | [], w => w
  | { job, yields := 0 } :: rest, w => runQueue serve rest (serve w job)
  | { job, yields := n + 1 } :: rest, w => runQueue serve (rest ++ [{ job, yields := n }]) w
termination_by entries => turnsLeft entries
decreasing_by all_goals grind [turnsLeft, turnsLeft_append]

end StickerBook.Lookup
