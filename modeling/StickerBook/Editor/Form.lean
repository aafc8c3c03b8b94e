import StickerBook.Editor.LockableField
import StickerBook.Editor.TagList
import StickerBook.Sticker

/-!
# Forms

A form edits the name, the package and the tags of a sticker. A reset clears every field that is not
locked, together with the text that was typed for it, and brings the tags back to the pinned ones.
-/

namespace StickerBook.Editor
set_option autoImplicit false

/-- A change that the owner of a form hears of. -/
inductive Change where
  | name (value : String)
  | package (value : String)
  | tags (value : List Tag)
  | fav (value : Bool)
deriving DecidableEq, Repr

/-- The changes that an owner listens to. -/
structure Listeners where
  name : Bool := true
  package : Bool := true
  tags : Bool := true
  fav : Bool := true
deriving DecidableEq, Repr

/-- The fields of a form, and the text that was typed for the name. -/
structure Form where
  name : LockableField String
  package : LockableField String
  tags : TagList
  nameInput : String := ""
deriving DecidableEq, Repr

/-- What a reset did: the fields that it cleared, and the tags that are left. -/
structure ResetReport where
  nameCleared : Bool
  packageCleared : Bool
  tags : List Tag
deriving DecidableEq, Repr

namespace Form
variable {β : Type}

/-- The empty form. -/
def start (heard : Listeners) : Form where
  name := .start "" heard.name
  package := .start defaultPackage heard.package
  tags := { heard := heard.tags }

/-- The effect of an edit of the name. -/
def onName (f : Form) (e : Effect β String (LockableField String)) : Effect β Change Form :=
  e.lift .name fun name => { f with name }

/-- The effect of an edit of the package. -/
def onPackage (f : Form) (e : Effect β String (LockableField String)) : Effect β Change Form :=
  e.lift .package fun package => { f with package }

/-- The effect of an edit of the tags. -/
def onTags (f : Form) (e : Effect β (List Tag) TagList) : Effect β Change Form :=
  e.lift .tags fun tags => { f with tags }

/-- Resets the fields that are not locked. -/
def reset (f : Form) : Effect ResetReport Change Form :=
  let name := f.name.reset
  let package := f.package.reset
  let tags := f.tags.reset
  { result := { nameCleared := name.result, packageCleared := package.result, tags := tags.result }
    changes := name.changes.map .name ++ package.changes.map .package ++ tags.changes.map .tags
    state :=
      { name := name.state, package := package.state, tags := tags.state
        nameInput := if name.result then "" else f.nameInput } }

end Form

/-- A form with the text that was typed for the package, if its owner has access to that text. -/
structure OpenForm where
  form : Form
  packageInput : Option String
deriving DecidableEq, Repr

namespace OpenForm

/-- Replaces the text typed for the name and says nothing of it. -/
def writeNameInput (f : OpenForm) (text : String) : OpenForm :=
  { f with form := { f.form with nameInput := text } }

/-- Replaces the text typed for the package, if the owner can reach it, and says whether it did. -/
def writePackageInput (f : OpenForm) (text : String) : Bool × OpenForm :=
  (f.packageInput.isSome, { f with packageInput := f.packageInput.map fun _ => text })

/-- Resets the form, and clears the text for the package with the package. -/
def reset (f : OpenForm) : Effect ResetReport Change OpenForm :=
  let e := f.form.reset
  e.lift id fun form =>
    { form, packageInput := if e.result.packageCleared then f.packageInput.map fun _ => "" else f.packageInput }

end OpenForm

end StickerBook.Editor
