/-!
# String literals of SQL

A statement text is a sequence of pieces: fixed text and string literals. `quote` writes a literal
between single quotes and doubles the quotes inside it. `scanLiterals` is the reading rule: a
literal runs from a quote to the next unpaired one, and two quotes inside it denote one.
-/

namespace StickerBook.Sql
set_option autoImplicit false

/-- The body of a literal: each quote is doubled. -/
def doubled : List Char → List Char
  | [] => []
  | c :: rest => if c = '\'' then '\'' :: '\'' :: doubled rest else c :: doubled rest

/-- A string literal. -/
def quote (value : String) : String :=
  String.ofList ('\'' :: (doubled value.toList ++ ['\'']))

/-- A part of a statement text. -/
inductive Piece where
  | fixed (text : String)
  | literal (value : String)
deriving DecidableEq, Repr

/-- The text of a piece. -/
def Piece.render : Piece → String
  | .fixed text => text
  | .literal value => quote value

/-- The text of a list of pieces. -/
def render (pieces : List Piece) : String := String.join (pieces.map Piece.render)

/-- The values of the literals among the pieces. -/
def literals (pieces : List Piece) : List String :=
  pieces.filterMap fun | .literal value => some value | .fixed _ => none

/-- Joins lists of pieces with a fixed text between them. -/
def joinPieces (separator : String) : List (List Piece) → List Piece
  | [] => []
  | [p] => p
  | p :: rest => p ++ .fixed separator :: joinPieces separator rest

/-- What reading a statement text yields: the literals, and what stands outside them. -/
structure Scan where
  literals : List (List Char) := []
  outside : List Char := []
deriving DecidableEq, Repr

/-- Reads a text from a point outside (`none`) or inside a literal, of which the reversed beginning
is given. The result is `none` if the text ends inside a literal. -/
def scanFrom : Option (List Char) → List Char → Option Scan
  | none, [] => some {}
  | some _, [] => none
  | none, c :: rest =>
    if c = '\'' then scanFrom (some []) rest
    else (scanFrom none rest).map fun s => { s with outside := c :: s.outside }
  | some body, c :: rest =>
    if c = '\'' then
      match rest with
      | '\'' :: rest => scanFrom (some ('\'' :: body)) rest
      | rest => (scanFrom none rest).map fun s => { s with literals := body.reverse :: s.literals }
    else scanFrom (some (c :: body)) rest
termination_by _ cs => cs.length

/-- Reads a statement text by the rule for string literals. -/
def scanLiterals (text : String) : Option Scan := scanFrom none text.toList

end StickerBook.Sql
