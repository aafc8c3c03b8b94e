import StickerBook.Json.Value

/-!
# Reading records

A record is written as an object, with its fields in any order and further members ignored, or as a
list of its fields in order. `RecordField` says how a field is read into a partial record; `record` reads a
whole one. Fields that a text leaves out keep the value of the empty record, and `finish` refuses a
record without its required ones.
-/

namespace StickerBook.Json
set_option autoImplicit false
variable {δ α : Type}

/-- A field of the partial record `δ`. -/
structure RecordField (δ : Type) where
  name : String
  isSet : δ → Bool
  read : δ → Reader δ

/-- A field that is stored by `set`. -/
def RecordField.of {β : Type} (name : String) (isSet : δ → Bool) (read : Reader β) (set : δ → β → δ) :
    RecordField δ where
  name := name
  isSet := isSet
  read d := fun cs => (read cs).map fun (b, rest) => (set d b, rest)

/-- Reads fields in order from a list, after its bracket or after an element. Missing last ones are not
read. -/
def positional (first : Bool) : List (RecordField δ) → δ → Reader δ
  | [], d, cs => .ok (d, cs)
  | f :: fields, d, cs =>
    match nextElement first cs with
    | .error e => .error e
    | .ok none => .ok (d, cs)
    | .ok (some rest) =>
      match f.read d rest with
      | .error e => .error e
      | .ok (d, rest) => positional false fields d rest

/-- Reads the rest of a member after its key. A field that comes twice is a mismatch, found at its second
key. -/
def member (fields : List (RecordField δ)) (d : δ) (key : List Char) : Reader δ := fun cs =>
  match fields.find? fun f => f.name.toList = key with
  | some f => if f.isSet d then .error .mismatch else (colon cs).bind (f.read d)
  | none => (colon cs).bind fun rest => (skipValue rest).map (d, ·)

/-- Reads the members of an object, after its brace or after a member, up to the closing brace. -/
def members (fields : List (RecordField δ)) (first : Bool) (d : δ) (cs : List Char) :
    Except Defect (δ × List Char) :=
  match nextKey first cs with
  | .error e => .error e
  | .ok none => .ok (d, cs)
  | .ok (some rest) =>
    match stringBody [] rest with
    | .error e => .error e
    | .ok (key, rest) =>
      match member fields d key rest with
      | .error e => .error e
      | .ok (d, rest) =>
        if rest.length < cs.length then members fields false d rest else .error .malformed
termination_by cs.length

/-- Reads the closing brace of an object whose members have been read. -/
def endObject (cs : List Char) : Except Defect (List Char) :=
  match skipGaps cs with
  | [] => .error .truncated
  | c :: rest => if c = '\x7d' then .ok rest else .error .malformed

/-- Reads a record. -/
def record (fields : List (RecordField δ)) (empty : δ) (finish : δ → Option α) : Reader α :=
  onFirst fun c rest =>
    if c = '[' then
      (refine (positional true fields empty) finish rest).bind fun (a, rest) =>
        (endList rest).map (a, ·)
    else if c = '\x7b' then
      (refine (members fields true empty) finish rest).bind fun (a, rest) =>
        (endObject rest).map (a, ·)
    else .error (wrongType (c :: rest))

/-- Reads a text that holds one value and nothing else. -/
def document (read : Reader α) (text : String) : Except Defect α :=
  match read text.toList with
  | .error e => .error e
  | .ok (a, rest) => if (skipGaps rest).isEmpty then .ok a else .error .malformed

end StickerBook.Json
