import StickerBook.Search.Basic
import StickerBook.Text.Blank

/-!
# Tokens of a search text

Blanks outside quotes separate tokens. A leading `-` negates a token, and `"..."` takes everything
up to the next quote literally. `Token.scan` reads the text once from left to right; a token is
kept split at its first unquoted colon. A token without text is dropped.
-/

namespace StickerBook
set_option autoImplicit false
open Text (isBlank)

/-- A token. `tail` is what follows the first unquoted colon, if there is one. -/
structure Token where
  negated : Bool
  head : List Char
  tail : Option (List Char)
deriving DecidableEq, Repr

namespace Token

/-- The text of a token without its quotes. -/
def text (t : Token) : List Char :=
  match t.tail with
  | none => t.head
  | some tail => t.head ++ ':' :: tail

/-- A token that is being read; both parts are reversed. -/
structure Draft where
  negated : Bool := false
  head : List Char := []
  tail : Option (List Char) := none
deriving DecidableEq, Repr

namespace Draft

/-- Adds a character that stands for itself. -/
def push (d : Draft) (c : Char) : Draft :=
  match d.tail with
  | none => { d with head := c :: d.head }
  | some tail => { d with tail := some (c :: tail) }

/-- Adds an unquoted character: the first colon splits the token. -/
def pushUnquoted (d : Draft) (c : Char) : Draft :=
  if c = ':' ∧ d.tail = none then { d with tail := some [] } else d.push c

/-- The token read so far, if it has text. -/
def tokens (d : Draft) : List Token :=
  if d.head.isEmpty && d.tail.isNone then []
  else [{ negated := d.negated, head := d.head.reverse, tail := d.tail.map List.reverse }]

end Draft

/-- Where the reader of a search text stands. -/
inductive Place where
  | between
  | inToken (draft : Draft)
  | inQuotes (draft : Draft) (opened : Nat)
deriving DecidableEq, Repr

/-- Where an unquoted character of a token leads. -/
def Draft.read (d : Draft) (column : Nat) (c : Char) : Place :=
  if c = '"' then .inQuotes d column else .inToken (d.pushUnquoted c)

/-- The text ends or goes on with a blank. -/
def atGap : List Char → Bool
  | [] => true
  | c :: _ => isBlank c

/-- The tokens of the rest of a text, read from a place at a column. -/
def scan : Place → Nat → List Char → Except SearchError (List Token)
  | .between, _, [] => .ok []
  | .inToken draft, _, [] => .ok draft.tokens
  | .inQuotes _ opened, _, [] => .error (.unterminatedQuote opened)
  | .between, column, c :: rest =>
    if isBlank c then scan .between (column + 1) rest
    else if c = '-' then
      if atGap rest then .error (.danglingNegation column)
      else scan (.inToken { negated := true }) (column + 1) rest
    else scan (Draft.read {} column c) (column + 1) rest
  | .inToken draft, column, c :: rest =>
    if isBlank c then (scan .between (column + 1) rest).map (draft.tokens ++ ·)
    else scan (draft.read column c) (column + 1) rest
  | .inQuotes draft opened, column, c :: rest =>
    if c = '"' then scan (.inToken draft) (column + 1) rest
    else scan (.inQuotes (draft.push c) opened) (column + 1) rest

/-- The tokens of a search text. -/
def tokenize (cs : List Char) : Except SearchError (List Token) := scan .between 0 cs

end Token

end StickerBook
