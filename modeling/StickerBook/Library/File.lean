import StickerBook.Json.Record
import StickerBook.Json.Write
import StickerBook.Library.Basic

/-!
# Library files

A library file is a JSON record of packages and stickers. A sticker needs an id and a name; a thumb
needs its package and kind as well.
-/

namespace StickerBook
set_option autoImplicit false
open Json (Defect RecordField Reader)

namespace LibraryFile

/-- Reads an id. -/
def idReader : Reader Nat := fun cs =>
  (Json.integer 0 maxWord cs).map fun (n, rest) => (n.toNat, rest)

/-- Reads a date. -/
def dateReader : Reader Int := Json.integer minDate maxDate

/-- Reads the written form of a tag. -/
def tagReader : Reader Tag := Json.refine Json.string fun text => (Tag.parse text).toOption

/-- Reads a kind: its word, or an object with the word as its only key and no value. -/
def kindReader : Reader Kind := Json.onFirst fun c rest =>
  if c = '"' then Json.refine Json.string Kind.ofString? (c :: rest)
  else if c = '\x7b' then
    (Json.refine Json.name Kind.ofString? rest).bind fun (kind, rest) =>
      (Json.colon rest).bind fun rest =>
        (Json.null rest).bind fun (_, rest) =>
          (Json.endObject rest).map (kind, ·)
  else .error .malformed

/-- A sticker that is being read. -/
structure Draft where
  id : Option Nat := none
  name : Option String := none
  package : Option String := none
  kind : Option Kind := none
  tags : Option (List Tag) := none
  createDate : Option Int := none
  modifyDate : Option Int := none
  path : Option (Option String) := none
  fav : Option Bool := none

/-- The field `id`. -/
def idField : RecordField Draft := .of "id" (·.id.isSome) idReader fun d v => { d with id := some v }

/-- The field `name`. -/
def nameField : RecordField Draft :=
  .of "name" (·.name.isSome) Json.string fun d v => { d with name := some v }

/-- The field `package`. -/
def packageField : RecordField Draft :=
  .of "package" (·.package.isSome) Json.string fun d v => { d with package := some v }

/-- The field `kind`. -/
def kindField : RecordField Draft :=
  .of "kind" (·.kind.isSome) kindReader fun d v => { d with kind := some v }

/-- The field `tags`. -/
def tagsField : RecordField Draft :=
  .of "tags" (·.tags.isSome) (Json.list tagReader) fun d v => { d with tags := some v }

/-- The field `create_date`. -/
def createDateField : RecordField Draft :=
  .of "create_date" (·.createDate.isSome) dateReader fun d v => { d with createDate := some v }

/-- The field `modify_date`. -/
def modifyDateField : RecordField Draft :=
  .of "modify_date" (·.modifyDate.isSome) dateReader fun d v => { d with modifyDate := some v }

/-- The field `path`. -/
def pathField : RecordField Draft :=
  .of "path" (·.path.isSome) (Json.optional Json.string) fun d v => { d with path := some v }

/-- The field `fav`. -/
def favField : RecordField Draft :=
  .of "fav" (·.fav.isSome) Json.boolean fun d v => { d with fav := some v }

/-- The sticker of a draft with an id and a name. -/
def Draft.sticker? (d : Draft) : Option Sticker := do
  let id ← d.id
  let name ← d.name
  return {
    id := id
    name := name
    package := d.package.getD defaultPackage
    kind := d.kind.getD .pic
    tags := d.tags.getD []
    createDate := d.createDate.getD 0
    modifyDate := d.modifyDate.getD 0
    path := d.path.getD none
    fav := d.fav.getD false }

/-- The thumb of a draft with an id, a name, a package and a kind. -/
def Draft.thumb? (d : Draft) : Option Thumb := do
  let id ← d.id
  let name ← d.name
  let package ← d.package
  let kind ← d.kind
  return { id := id, name := name, package := package, kind := kind, path := d.path.getD none,
           fav := d.fav.getD false }

/-- Reads a sticker. -/
def stickerReader : Reader Sticker :=
  Json.record [idField, nameField, packageField, kindField, tagsField, createDateField,
    modifyDateField, pathField, favField] {} Draft.sticker?

/-- Reads a thumb. -/
def thumbReader : Reader Thumb :=
  Json.record [idField, nameField, packageField, kindField, pathField, favField] {} Draft.thumb?

/-- The contents of a library file that is being read. -/
structure Contents where
  packages : Option (List String) := none
  stickers : Option (List Sticker) := none

/-- Reads a library. -/
def libraryReader : Reader Library :=
  Json.record [
      .of "packages" (·.packages.isSome) (Json.list Json.string) fun d v =>
        { d with packages := some v },
      .of "stickers" (·.stickers.isSome) (Json.list stickerReader) fun d v =>
        { d with stickers := some v }]
    ({} : Contents) fun d => some (Library.ofContents (d.packages.getD []) (d.stickers.getD []))

end LibraryFile

/-- The text of a tag: its written form as a string. -/
def Tag.toJson (t : Tag) : String := Json.quoted t.display

/-- Reads the text of a tag. -/
def Tag.ofJson (text : String) : Except Defect Tag := Json.document LibraryFile.tagReader text

/-- Reads the text of a sticker. -/
def Sticker.ofJson (text : String) : Except Defect Sticker :=
  Json.document LibraryFile.stickerReader text

/-- Reads the text of a thumb. -/
def Thumb.ofJson (text : String) : Except Defect Thumb := Json.document LibraryFile.thumbReader text

/-- Reads the text of a library file. -/
def Library.ofJson (text : String) : Except Defect Library :=
  Json.document LibraryFile.libraryReader text

end StickerBook
