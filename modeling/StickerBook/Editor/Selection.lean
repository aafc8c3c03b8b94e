import StickerBook.Choice

/-!
# Selections shared with an owner

A selection is a choice on display whose value an owner holds as well. `reconcile` brings the display
in line with the value that the owner supplies. It acts only when that value differs from the one
supplied before, so a repeated value is reported at most once. A blank value counts as none.
-/

namespace StickerBook.Editor
set_option autoImplicit false
variable {α : Type}

/-- The choice on display, the value that the owner supplied last, if it ever did, and the default. -/
structure Selection (α : Type) where
  current : Choice α
  observed : Option (Option α) := none
  default : α
deriving DecidableEq, Repr

/-- What reconciling does. A fall-back to the default must be reported to the owner. -/
inductive SyncOutcome (α : Type) where
  | unchanged
  | adopted
  | fellBack (default : α)
deriving DecidableEq, Repr

namespace Selection
variable [Choosable α]

/-- The selection that starts at its default. -/
def start (default : α) : Selection α := { current := .plain default, default }

/-- Displays a value under its plain label. -/
def setCurrent (s : Selection α) (value : α) : Selection α := { s with current := .plain value }

/-- Displays the default. -/
def resetToDefault (s : Selection α) : Selection α := s.setCurrent s.default

/-- Brings the display in line with the value of the owner. -/
def reconcile [DecidableEq α] (s : Selection α) (external : Option α) : SyncOutcome α × Selection α :=
  let external := external.filter (!Choosable.isBlank ·)
  if s.observed = some external then (.unchanged, s)
  else
    let s := { s with observed := some external }
    match external with
    | some value =>
      if value = s.current.value then (.unchanged, s) else (.adopted, s.setCurrent value)
    | none => (.fellBack s.default, s.resetToDefault)

end Selection

end StickerBook.Editor
