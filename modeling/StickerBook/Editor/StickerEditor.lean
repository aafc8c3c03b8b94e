import StickerBook.Editor.Combobox
import StickerBook.Editor.Form

/-!
# Sticker editors

An editor is a form together with a combobox for its package and one for tags to add. Its owner holds
the same values: the owner's values come in through `setProps`, and edits go out as changes. The text
typed into the package combobox is the text of the package field; only the owner of a free-form
sticker can reach it.
-/

namespace StickerBook.Editor
set_option autoImplicit false
open Lookup (Request Widget)

/-- What an editor edits: a picture with a name, or a free-form sticker. -/
inductive Variant where
  | picture
  | freeForm
deriving DecidableEq, Repr

/-- The values that the owner supplies. -/
structure Props where
  name : String
  package : Option String := none
  tags : List Tag := []
  fav : Bool := false
  path : Option String := none
deriving DecidableEq, Repr

/-- The state of an editor. `preview` is the path of the picture on display, and `favHeard` says
whether the owner listens to the favourite mark. -/
structure StickerEditor where
  variant : Variant
  form : Form
  packages : Combobox String := packageCombobox
  tagBox : Combobox Tag := tagCombobox
  fav : Bool := false
  favHeard : Bool := true
  preview : Option String := none

/-- The values and the locks of an editor. -/
structure Snapshot where
  name : String
  package : String
  tags : List Tag
  lockedTags : List Tag
  nameLocked : Bool
  packageLocked : Bool
  fav : Bool
deriving DecidableEq, Repr

namespace StickerEditor

/-- The empty editor. -/
def start (variant : Variant) (heard : Listeners) : StickerEditor where
  variant := variant
  form := .start heard
  favHeard := heard.fav

/-- The editor in which tags can be pinned, or not. -/
def withLockable (e : StickerEditor) (lockable : Bool) : StickerEditor :=
  { e with form := { e.form with tags := e.form.tags.setLockable lockable } }

/-- The text typed for the package, if the owner can reach it. -/
def packageInput? (e : StickerEditor) : Option String :=
  match e.variant with
  | .picture => none
  | .freeForm => some e.packages.input

/-- The values and the locks. -/
def snapshot (e : StickerEditor) : Snapshot where
  name := e.form.name.value
  package := e.form.package.value
  tags := e.form.tags.tags
  lockedTags := e.form.tags.pinned
  nameLocked := e.form.name.locked
  packageLocked := e.form.package.locked
  fav := e.fav

/-- The effect of an edit of the form. -/
def onForm {β : Type} (e : StickerEditor) (edit : Effect β Change Form) :
    Effect β Change StickerEditor :=
  edit.lift id fun form => { e with form }

/-- Takes over the values of the owner. A package that the owner leaves out becomes the default one,
which is reported. -/
def setProps (e : StickerEditor) (p : Props) : Effect Unit Change StickerEditor :=
  let nameInput := if e.form.name.value = p.name then e.form.nameInput else p.name
  let form := { e.form with nameInput, name := e.form.name.sync p.name, tags := e.form.tags.sync p.tags }
  let (outcome, packages) := e.packages.reconcile p.package
  let e := { e with packages, fav := p.fav, preview := p.path }
  match outcome with
  | .fellBack default => e.onForm (form.onPackage (form.package.setValue default))
  | .adopted | .unchanged =>
    { result := ()
      state := { e with form := { form with package := form.package.sync packages.value.value } } }

/-- Types a name. -/
def setName (e : StickerEditor) (name : String) : Effect Unit Change StickerEditor :=
  let form := { e.form with nameInput := name }
  e.onForm (form.onName (form.name.setValue name))

/-- Selects a package by its place in the list. -/
def selectPackage (e : StickerEditor) (index : Nat) : Effect (Option String) Change StickerEditor :=
  match e.packages.select index with
  | (none, packages) => { result := none, state := { e with packages } }
  | (some name, packages) =>
    ({ e with packages }.onForm (e.form.onPackage (e.form.package.setValue name))).map fun _ => some name

/-- Adds a tag by its place in the list, and clears the text typed for it. -/
def pickTag (e : StickerEditor) (index : Nat) : Effect (Option Tag) Change StickerEditor :=
  match e.tagBox.select index with
  | (none, tagBox) => { result := none, state := { e with tagBox } }
  | (some t, tagBox) =>
    ({ e with tagBox := tagBox.writeInput "" }.onForm (e.form.onTags (e.form.tags.add t))).map
      fun _ => some t

/-- Adds a tag unless it is there. -/
def addTag (e : StickerEditor) (t : Tag) : Effect Bool Change StickerEditor :=
  e.onForm (e.form.onTags (e.form.tags.add t))

/-- Removes a tag. -/
def removeTag (e : StickerEditor) (t : Tag) : Effect Bool Change StickerEditor :=
  e.onForm (e.form.onTags (e.form.tags.remove t))

/-- Pins or unpins a tag. -/
def toggleTagPin (e : StickerEditor) (t : Tag) : Bool × StickerEditor :=
  let (result, tags) := e.form.tags.togglePin t
  (result, { e with form := { e.form with tags } })

/-- Sets or removes the favourite mark. -/
def toggleFav (e : StickerEditor) : Effect Unit Change StickerEditor :=
  { result := (), changes := if e.favHeard then [.fav !e.fav] else [], state := { e with fav := !e.fav } }

/-- Applies everything that has been delivered to the two boxes. -/
def refresh (e : StickerEditor) : Bool × StickerEditor :=
  let (packagesChanged, packages) := Widget.refresh e.packages
  let (tagsChanged, tagBox) := Widget.refresh e.tagBox
  (packagesChanged || tagsChanged, { e with packages, tagBox })

/-- Locks or unlocks the name. -/
def lockName (e : StickerEditor) (locked : Bool) : StickerEditor :=
  { e with form := { e.form with name := e.form.name.setLocked locked } }

/-- Locks or unlocks the package. -/
def lockPackage (e : StickerEditor) (locked : Bool) : StickerEditor :=
  { e with form := { e.form with package := e.form.package.setLocked locked } }

/-- Replaces the pinned tags. -/
def setLockedTags (e : StickerEditor) (tags : List Tag) : StickerEditor :=
  { e with form := { e.form with tags := e.form.tags.setPinned tags } }

/-- Replaces the text typed for the name and says nothing of it. -/
def writeNameInput (e : StickerEditor) (text : String) : StickerEditor :=
  { e with form := { e.form with nameInput := text } }

/-- Replaces the text typed for the package, if the owner can reach it, and says whether it did. -/
def writePackageInput (e : StickerEditor) (text : String) : Bool × StickerEditor :=
  match e.packageInput? with
  | none => (false, e)
  | some _ => (true, { e with packages := e.packages.writeInput text })

/-- Resets the form. A cleared package is the default one in its combobox as well. -/
def reset (e : StickerEditor) : Effect ResetReport Change StickerEditor :=
  let r := OpenForm.reset { form := e.form, packageInput := e.packageInput? }
  r.lift id fun f =>
    let packages := e.packages.writeInput (f.packageInput.getD e.packages.input)
    { e with
      form := f.form
      packages := if r.result.packageCleared then packages.resetToDefault else packages }

/-- What can be done to an editor. -/
inductive Action where
  | setProps (props : Props)
  | setName (name : String)
  | packages (action : Combobox.Action String)
  | tagBox (action : Combobox.Action Tag)
  | selectPackage (index : Nat)
  | pickTag (index : Nat)
  | addTag (t : Tag)
  | removeTag (t : Tag)
  | toggleTagPin (t : Tag)
  | toggleFav
  | refresh
  | lockName (locked : Bool)
  | lockPackage (locked : Bool)
  | setLockedTags (tags : List Tag)
  | writeNameInput (text : String)
  | writePackageInput (text : String)
  | reset
deriving Repr

/-- What an editor answers to an action. -/
inductive Reply where
  | done
  | flag (value : Bool)
  | package (chosen : Option String)
  | tag (chosen : Option Tag)
  | packages (reply : Combobox.Reply String)
  | tagBox (reply : Combobox.Reply Tag)
  | report (report : ResetReport)

/-- A change of the state that the owner does not hear of. -/
def silently {β : Type} (reply : β → Reply) (result : β × StickerEditor) :
    Effect Reply Change StickerEditor :=
  { result := reply result.1, state := result.2 }

/-- Takes an action. -/
def act (e : StickerEditor) : Action → Effect Reply Change StickerEditor
  | .setProps props => (e.setProps props).map fun _ => .done
  | .setName name => (e.setName name).map fun _ => .done
  | .packages action =>
    silently .packages ((e.packages.act action).map id fun packages => { e with packages })
  | .tagBox action => silently .tagBox ((e.tagBox.act action).map id fun tagBox => { e with tagBox })
  | .selectPackage index => (e.selectPackage index).map .package
  | .pickTag index => (e.pickTag index).map .tag
  | .addTag t => (e.addTag t).map .flag
  | .removeTag t => (e.removeTag t).map .flag
  | .toggleTagPin t => silently .flag (e.toggleTagPin t)
  | .toggleFav => e.toggleFav.map fun _ => .done
  | .refresh => silently .flag e.refresh
  | .lockName locked => { result := .done, state := e.lockName locked }
  | .lockPackage locked => { result := .done, state := e.lockPackage locked }
  | .setLockedTags tags => { result := .done, state := e.setLockedTags tags }
  | .writeNameInput text => { result := .done, state := e.writeNameInput text }
  | .writePackageInput text => silently .flag (e.writePackageInput text)
  | .reset => e.reset.map .report

end StickerEditor

end StickerBook.Editor
