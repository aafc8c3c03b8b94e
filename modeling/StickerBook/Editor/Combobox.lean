import StickerBook.Editor.Selection
import StickerBook.Sticker
import StickerBook.Lookup.Session

/-!
# Comboboxes

A combobox selects one of the choices that are suggested for a typed text. It looks the text up when
it is opened and whenever the text changes while it is open. The choices of the last lookup stay on
show until the next one is answered. One of them is highlighted: at first the selected one, matched
by `key`, or else the first.
-/

namespace StickerBook.Editor
set_option autoImplicit false
open Lookup (Request Service Widget)
variable {α : Type}

/-- The state of a combobox. -/
structure Combobox (α : Type) where
  service : Service (Choice α) := { priority := .interactive }
  selection : Selection α
  input : String := ""
  isOpen : Bool := false
  highlighted : Option Nat := none
  key : α → String

namespace Combobox

/-- The closed combobox that starts at a default. Values are matched by their label. -/
def start [Choosable α] (default : α) : Combobox α where
  selection := .start default
  key := Choosable.label

/-- The choices on show. -/
def candidates (b : Combobox α) : List (Choice α) := b.service.results

/-- The selected choice. -/
def value (b : Combobox α) : Choice α := b.selection.current

/-- A value matches the selected one. -/
def isSelected (b : Combobox α) (v : α) : Bool := b.key v = b.key b.value.value

/-- Puts the highlight on the selected choice or else on the first one. -/
def syncHighlight (b : Combobox α) : Combobox α :=
  { b with highlighted :=
      if b.candidates.isEmpty then none
      else some ((b.candidates.findIdx? fun c => b.isSelected c.value).getD 0) }

/-- Looks the typed text up. -/
def lookUp (b : Combobox α) : Request × Combobox α :=
  let (request, service) := b.service.issue b.input 0
  (request, { b with service })

/-- Opens the list and looks the typed text up, unless the list is open. -/
def openList (b : Combobox α) : Option Request × Combobox α :=
  if b.isOpen then (none, b)
  else
    let (request, b) := { b with isOpen := true }.syncHighlight.lookUp
    (some request, b)

/-- Closes the list. -/
def closeList (b : Combobox α) : Combobox α := { b with isOpen := false, highlighted := none }

/-- Replaces the typed text and says nothing of it. -/
def writeInput (b : Combobox α) (text : String) : Combobox α := { b with input := text }

/-- Replaces the typed text and looks it up if the list is open. -/
def setInput (b : Combobox α) (text : String) : Option Request × Combobox α :=
  let b := b.writeInput text
  if b.isOpen then
    let (request, b) := b.lookUp
    (some request, b)
  else (none, b)

/-- Moves the highlight. Beyond the last choice comes the first, and before the first the last. -/
def moveHighlight (b : Combobox α) (delta : Int) : Combobox α :=
  let total := b.candidates.length
  if total = 0 then b
  else
    let next : Int := (b.highlighted.getD 0 : Nat) + delta
    { b with highlighted := some (if next < 0 then total - 1 else if next ≥ total then 0 else next.toNat) }

/-- Selects a choice by its place and closes the list. -/
def select [Choosable α] (b : Combobox α) (index : Nat) : Option α × Combobox α :=
  match b.candidates[index]? with
  | none => (none, b)
  | some c => (some c.value, { b with selection := b.selection.setCurrent c.value }.closeList)

/-- Selects the highlighted choice. -/
def selectHighlighted [Choosable α] (b : Combobox α) : Option α × Combobox α :=
  match b.highlighted with
  | none => (none, b)
  | some index => b.select index

/-- Displays a value as selected. -/
def setCurrent [Choosable α] (b : Combobox α) (v : α) : Combobox α :=
  { b with selection := b.selection.setCurrent v }

/-- Displays the default as selected. -/
def resetToDefault [Choosable α] (b : Combobox α) : Combobox α :=
  { b with selection := b.selection.resetToDefault }

/-- Brings the selection in line with the value of the owner. -/
def reconcile [DecidableEq α] [Choosable α] (b : Combobox α) (external : Option α) :
    SyncOutcome α × Combobox α :=
  let (outcome, selection) := b.selection.reconcile external
  (outcome, { b with selection })

instance : Widget (Combobox α) (Choice α) where
  service := Combobox.service
  withService b service := { b with service }
  refreshed := syncHighlight

/-- What can be done to a combobox. -/
inductive Action (α : Type) where
  | openList
  | closeList
  | setInput (text : String)
  | writeInput (text : String)
  | refresh
  | moveHighlight (delta : Int)
  | select (index : Nat)
  | selectHighlighted
  | setCurrent (value : α)
  | resetToDefault
  | isSelected (value : α)
  | reconcile (external : Option α)
deriving Repr

/-- What a combobox answers to an action. -/
inductive Reply (α : Type) where
  | done
  | issued (request : Option Request)
  | flag (value : Bool)
  | chosen (value : Option α)
  | synced (outcome : SyncOutcome α)
deriving Repr

/-- The request that an action issued. -/
def Reply.request? : Reply α → Option Request
  | .issued request => request
  | _ => none

/-- Takes an action. -/
def act [DecidableEq α] [Choosable α] (b : Combobox α) : Action α → Reply α × Combobox α
  | .openList => b.openList.map .issued id
  | .closeList => (.done, b.closeList)
  | .setInput text => (b.setInput text).map .issued id
  | .writeInput text => (.done, b.writeInput text)
  | .refresh => (Widget.refresh b).map .flag id
  | .moveHighlight delta => (.done, b.moveHighlight delta)
  | .select index => (b.select index).map .chosen id
  | .selectHighlighted => b.selectHighlighted.map .chosen id
  | .setCurrent value => (.done, b.setCurrent value)
  | .resetToDefault => (.done, b.resetToDefault)
  | .isSelected value => (.flag (b.isSelected value), b)
  | .reconcile external => (b.reconcile external).map .synced id

end Combobox

/-- The combobox of packages. -/
def packageCombobox : Combobox String := .start defaultPackage

/-- The combobox of tags, which has no tag selected. -/
def tagCombobox : Combobox Tag := .start { ns := "", value := "" }

end StickerBook.Editor
