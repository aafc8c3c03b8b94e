import StickerBook.Toml.Table

/-!
# Reading TOML documents

A document is a list of lines, each of them empty, a comment, a header or a key with its value.
Lists and inline tables may be nested up to a fixed depth, which also bounds the parts of a dotted
key, and may go on over several lines.
-/

namespace StickerBook.Toml
set_option autoImplicit false

/-- Passes over a comment, if there is one, up to the end of its line. -/
def skipComment : List Char → Option (List Char)
  | '#' :: rest =>
    let tail := rest.dropWhile isPlain
    if tail.isEmpty || (lineBreak? tail).isSome then some tail else none
  | cs => some cs

/-- Passes over blanks, line breaks and comments. -/
def skipLayout (cs : List Char) : Option (List Char) :=
  match skipComment (skipSpaces cs) with
  | none => none
  | some rest =>
    match lineBreak? rest with
    | none => some rest
    | some tail => if tail.length < cs.length then skipLayout tail else none
termination_by cs.length

/-- Characters of bare keys. -/
def isBareKey (c : Char) : Bool := c.isAlphanum || c = '_' || c = '-'

/-- Reads a key without dots. -/
def simpleKey : Reader String := fun cs =>
  match cs with
  | '"' :: _ => lineString cs
  | '\'' :: _ => lineString cs
  | _ =>
    let (name, rest) := cs.span isBareKey
    if name.isEmpty then none else some (.ofList name, rest)

/-- Reads a dotted key and the blanks after it. -/
def dottedKey (cs : List Char) : Option (List String × List Char) :=
  match simpleKey cs with
  | none => none
  | some (name, rest) =>
    match skipSpaces rest with
    | '.' :: tail =>
      let tail := skipSpaces tail
      if tail.length < cs.length then (dottedKey tail).map fun (path, rest) => (name :: path, rest)
      else none
    | rest => some ([name], rest)
termination_by cs.length

/-- The greatest depth of nested lists and inline tables, and of a dotted key. -/
def maxDepth : Nat := 80

/-- Reads a dotted key of bounded depth and the blanks after it. -/
def keyPath : Reader (List String) := fun cs =>
  (dottedKey cs).filter fun (path, _) => path.length ≤ maxDepth

/-- Passes over blanks, and over all layout if several lines may be used. -/
def skipGap (severalLines : Bool) (cs : List Char) : Option (List Char) :=
  if severalLines then skipLayout cs else some (skipSpaces cs)

/-- Reads a dotted key, the equals sign and the value. -/
def member (severalLines : Bool) (value : Reader Value) : Reader (List String × Value) := fun cs => do
  let (path, rest) ← keyPath cs
  match ← skipGap severalLines rest with
  | '=' :: rest =>
    let (v, rest) ← value (← skipGap severalLines rest)
    return ((path, v), rest)
  | _ => none

/-- Reads items between brackets, after the opening one: layout may stand around them, a comma between
them and after the last. -/
def items {α : Type} (item : Reader α) (close : Char) (cs : List Char) : Option (List α × List Char) :=
  match skipLayout cs with
  | none => none
  | some [] => none
  | some (c :: rest) =>
    if c = close then some ([], rest)
    else
      match item (c :: rest) with
      | none => none
      | some (a, rest) =>
        match skipLayout rest with
        | some (',' :: rest) =>
          if rest.length < cs.length then (items item close rest).map fun (as, rest) => (a :: as, rest)
          else none
        | some (d :: rest) => if d = close then some ([a], rest) else none
        | _ => none
termination_by cs.length

/-- Reads a value in which lists and inline tables are nested at most `depth` deep. -/
def value : Nat → Reader Value
  | _, '"' :: rest => (string ('"' :: rest)).map fun (s, rest) => (.string s, rest)
  | _, '\'' :: rest => (string ('\'' :: rest)).map fun (s, rest) => (.string s, rest)
  | depth + 1, '[' :: rest => (items (value depth) ']' rest).map fun (vs, rest) => (.list false vs, rest)
  | depth + 1, '\x7b' :: rest => do
    let (members, rest) ← items (member true (value depth)) '\x7d' rest
    let table ← members.foldlM (fun table (path, v) => Members.assign path v table) []
    return (.table .inline table, rest)
  | _, cs => (scalar cs).map fun (s, rest) => (.scalar s, rest)

/-- A line that says something. -/
inductive Line where
  | header (path : List String)
  | itemHeader (path : List String)
  | member (path : List String) (value : Value)

/-- Reads a line that says something. -/
def line : Reader Line := fun cs =>
  match cs with
  | '[' :: '[' :: rest =>
    match keyPath (skipSpaces rest) with
    | some (path, ']' :: ']' :: rest) => some (.itemHeader path, rest)
    | _ => none
  | '[' :: rest =>
    match keyPath (skipSpaces rest) with
    | some (path, ']' :: rest) => some (.header path, rest)
    | _ => none
  | _ => (member false (value maxDepth) cs).map fun ((path, v), rest) => (.member path v, rest)

/-- Reads the end of a line. -/
def lineEnd (cs : List Char) : Option (List Char) :=
  match skipComment (skipSpaces cs) with
  | some [] => some []
  | some rest => lineBreak? rest
  | none => none

/-- Reads the lines of a document. -/
def lines (cs : List Char) : Option (List Line) :=
  match skipLayout cs with
  | none => none
  | some [] => some []
  | some (c :: rest) =>
    match line (c :: rest) with
    | none => none
    | some (l, rest) =>
      match lineEnd rest with
      | none => none
      | some rest => if rest.length < cs.length then (lines rest).map (l :: ·) else none
termination_by cs.length

/-- A document that is being read: the path of the last header, and what has been said. -/
structure Draft where
  path : List String := []
  members : Members := []

/-- Adds what a line says. -/
def Draft.add (d : Draft) : Line → Option Draft
  | .header path => do
    let name ← path.getLast?
    return { path, members := ← d.members.within path.dropLast (Members.openTable name) }
  | .itemHeader path => do
    let name ← path.getLast?
    return { path, members := ← d.members.within path.dropLast (Members.openItem name) }
  | .member path v => do
    return { d with members := ← d.members.within d.path (Members.assign path v) }

/-- The table that a document describes, if it is well formed. A byte order mark may come first. -/
def read? (text : String) : Option Members := do
  let cs := match text.toList with
    | '\ufeff' :: rest => rest
    | cs => cs
  let d ← (← lines cs).foldlM Draft.add {}
  return d.members

end StickerBook.Toml
