import StickerBook.Text.Blank

/-!
# Tags

A tag is a value within a namespace, written `namespace:value`. `Tag.parse` reads that text and
splits it at its first colon, so a value may hold further colons. Tags are ordered by namespace,
then by value.
-/

namespace StickerBook
set_option autoImplicit false
open Text (trim)

/-- A namespaced tag. The fields are arbitrary; only parsed tags are trimmed and filled. -/
structure Tag where
  ns : String
  value : String
deriving DecidableEq, Repr, Inhabited, Hashable

/-- Why a text is no tag. Each cause carries the trimmed text. -/
inductive TagError where
  | missingSeparator (text : String)
  | emptyNamespace (text : String)
  | emptyValue (text : String)
deriving DecidableEq, Repr

/-- The wording of a tag error. -/
def TagError.message : TagError → String
  | .missingSeparator text => "tag '" ++ text ++ "' is missing a ':' separator"
  | .emptyNamespace text => "tag '" ++ text ++ "' has an empty namespace"
  | .emptyValue text => "tag '" ++ text ++ "' has an empty value"

/-- The parts of a text before and after its first `sep`. -/
def splitAtFirst (sep : Char) : List Char → Option (List Char × List Char)
  | [] => none
  | c :: rest =>
    if c = sep then some ([], rest)
    else (splitAtFirst sep rest).map fun (before, after) => (c :: before, after)

namespace Tag

/-- The written form `namespace:value`. -/
def display (t : Tag) : String := t.ns ++ ":" ++ t.value

/-- Reads a written tag; blanks around the text and around either half do not count. -/
def parse (s : String) : Except TagError Tag :=
  let text := trim s.toList
  match splitAtFirst ':' text with
  | none => .error (.missingSeparator (.ofList text))
  | some (before, after) =>
    let ns := trim before
    let value := trim after
    if ns.isEmpty then .error (.emptyNamespace (.ofList text))
    else if value.isEmpty then .error (.emptyValue (.ofList text))
    else .ok { ns := .ofList ns, value := .ofList value }

instance : Ord Tag where
  compare a b := (compare a.ns b.ns).then (compare a.value b.value)

/-- The order by namespace, then by value. -/
def le (a b : Tag) : Bool := (compare a b).isLE

end Tag

theorem splitAtFirst_eq_none_iff {sep : Char} {cs : List Char} :
    splitAtFirst sep cs = none ↔ sep ∉ cs := by
  induction cs with
  | nil => simp [splitAtFirst]
  | cons c rest ih =>
    by_cases h : c = sep
    · simp [splitAtFirst, h]
    · simp [splitAtFirst, h, ih, Ne.symm h]

theorem splitAtFirst_eq_some_iff {sep : Char} {cs before after : List Char} :
    splitAtFirst sep cs = some (before, after) ↔ cs = before ++ sep :: after ∧ sep ∉ before := by
  induction cs generalizing before with
  | nil => simp [splitAtFirst]
  | cons c rest ih =>
    by_cases h : c = sep
    · subst h
      cases before with
      | nil => simp [splitAtFirst]
      | cons d ds => simp [splitAtFirst]; grind
    · cases before with
      | nil => simp [splitAtFirst, h]
      | cons d ds => simp [splitAtFirst, h, ih]; grind

end StickerBook
