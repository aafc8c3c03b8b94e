import StickerBook.Toml.Scalar

/-!
# TOML tables

A table maps names to values. It remembers how it was written, since that decides how later lines may
add to it: an inline table is complete, a table with a header can get a header only once, and a table
that so far only lies on the path to another one, or that was written by dotted keys, can still grow.
-/

namespace StickerBook.Toml
set_option autoImplicit false

/-- How a table was written. -/
inductive Written where
  | inline
  | header
  | onPath
  | dotted
deriving DecidableEq, Repr

/-- A value. A growing list is one that headers in double brackets add to. -/
inductive Value where
  | string (text : String)
  | scalar (value : Scalar)
  | list (growing : Bool) (items : List Value)
  | table (written : Written) (members : List (String × Value))

/-- The names and values of a table; names differ. -/
abbrev Members := List (String × Value)

namespace Members

/-- Replaces what a name stands for, or adds the name at the end. -/
def update (name : String) (f : Option Value → Option Value) : Members → Option Members
  | [] => (f none).map fun v => [(name, v)]
  | (other, v) :: rest =>
    if other = name then (f (some v)).map fun v => (other, v) :: rest
    else (update name f rest).map ((other, v) :: ·)

/-- Gives a value to a dotted key, which must be new. -/
def assign : List String → Value → Members → Option Members
  | [], _, _ => none
  | [name], v, m => update name (fun old => if old.isSome then none else some v) m
  | name :: path, v, m =>
    update name
      (fun
        | none => (assign path v []).map (.table .dotted)
        | some (.table written m) =>
          if written = .dotted ∨ written = .onPath then (assign path v m).map (.table written) else none
        | some _ => none)
      m

/-- Changes the members of the table at a path. In a growing list that is the last table. -/
def within : List String → (Members → Option Members) → Members → Option Members
  | [], f, m => f m
  | name :: path, f, m =>
    let inside (written : Written) (m : Members) : Option Value :=
      if written = .inline then none else (within path f m).map (.table written)
    update name
      (fun
        | none => (within path f []).map (.table .onPath)
        | some (.table written m) => inside written m
        | some (.list true items) =>
          match items.getLast? with
          | some (.table written m) =>
            (inside written m).map fun last => .list true (items.dropLast ++ [last])
          | _ => none
        | some _ => none)
      m

/-- Opens the table of a header in the table that contains it. -/
def openTable (name : String) : Members → Option Members :=
  update name fun
    | none => some (.table .header [])
    | some (.table .onPath m) => some (.table .header m)
    | some _ => none

/-- Adds the table of a header in double brackets to its growing list. -/
def openItem (name : String) : Members → Option Members :=
  update name fun
    | none => some (.list true [.table .header []])
    | some (.list true items) => some (.list true (items ++ [.table .header []]))
    | some _ => none

end Members

end StickerBook.Toml
