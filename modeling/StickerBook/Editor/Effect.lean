/-!
# Edits and their reports

An edit yields a result, the changes that its owner is told of, in order, and the new state.
-/

namespace StickerBook.Editor
set_option autoImplicit false

/-- What an edit brings about. -/
structure Effect (β ε σ : Type) where
  result : β
  changes : List ε := []
  state : σ
deriving DecidableEq, Repr

namespace Effect
variable {β γ ε ε' σ τ : Type}

/-- The effect with its result replaced. -/
def map (f : β → γ) (e : Effect β ε σ) : Effect γ ε σ :=
  { result := f e.result, changes := e.changes, state := e.state }

/-- The effect on a larger state, in which the changes are seen as changes of the whole. -/
def lift (e : Effect β ε σ) (change : ε → ε') (put : σ → τ) : Effect β ε' τ where
  result := e.result
  changes := e.changes.map change
  state := put e.state

end Effect

end StickerBook.Editor
