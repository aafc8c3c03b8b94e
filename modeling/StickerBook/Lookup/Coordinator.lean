import StickerBook.Lookup.Basic

/-!
# Which responses count

A coordinator numbers requests and accepts a response only if it is the first one to the newest
request. Nothing is cancelled: a superseded response is stale whenever it arrives.
-/

namespace StickerBook.Lookup
set_option autoImplicit false

/-- The numbers of the newest request and of the request whose response was accepted last. -/
structure Coordinator where
  issued : UInt64 := 0
  accepted : UInt64 := 0
deriving DecidableEq, Repr

/-- What a response does to the items on show. -/
inductive Verdict (α : Type) where
  | apply (items : List α)
  | keep
  | stale
deriving DecidableEq, Repr

namespace Coordinator

/-- The next request. Request numbers wrap around after the largest word. -/
def issue (c : Coordinator) (query : String) (page : Nat) : Request × Coordinator :=
  let seq := c.issued + 1
  ({ seq, query, page }, { c with issued := seq })

/-- The number is that of the newest request, whose response is still to be accepted. -/
def isCurrent (c : Coordinator) (seq : UInt64) : Bool := seq = c.issued && c.accepted < seq

/-- The newest request still waits for its response. -/
def isPending (c : Coordinator) : Bool := c.accepted < c.issued

/-- Judges a response. A failure shows no items. -/
def accept {α : Type} (c : Coordinator) (r : Response α) : Verdict α × Coordinator :=
  if c.isCurrent r.seq then
    let verdict := match r.outcome with
      | .ready items => .apply items
      | .failed _ => .apply []
      | .notReady => .keep
    (verdict, { c with accepted := r.seq })
  else (.stale, c)

@[simp] theorem isCurrent_issued (c : Coordinator) : c.isCurrent c.issued = c.isPending := by
  simp [isCurrent, isPending]

end Coordinator

end StickerBook.Lookup
