/-!
# TOML strings

A string is basic, with escapes, or literal, without any; either kind may also span lines between
tripled quotes. A line break right after the opening quotes does not count, and up to two quotes may
stand before the closing ones.
-/

namespace StickerBook.Toml
set_option autoImplicit false

/-- A reader takes a value from the front of a text, or refuses it. -/
abbrev Reader (α : Type) := List Char → Option (α × List Char)

/-- The blanks within a line. -/
def isSpace (c : Char) : Bool := c = ' ' || c = '\t'

/-- The text without its leading blanks. -/
def skipSpaces (cs : List Char) : List Char := cs.dropWhile isSpace

/-- The text after its leading line break, if there is one. -/
def lineBreak? : List Char → Option (List Char)
  | '\n' :: rest => some rest
  | '\r' :: '\n' :: rest => some rest
  | _ => none

/-- Characters that may stand for themselves within a line of text. -/
def isPlain (c : Char) : Bool := c = '\t' || (c.toNat ≥ 0x20 && c.toNat ≠ 0x7f)

/-- The value of a hexadecimal digit. -/
def hexValue? (c : Char) : Option Nat :=
  if c.isDigit then some (c.toNat - '0'.toNat)
  else if 'a' ≤ c ∧ c ≤ 'f' then some (c.toNat - 'a'.toNat + 10)
  else if 'A' ≤ c ∧ c ≤ 'F' then some (c.toNat - 'A'.toNat + 10)
  else none

/-- Reads the character that is written as `count` hexadecimal digits. -/
def codePoint (count : Nat) : Reader Char := fun cs => do
  let digits ← (cs.take count).mapM hexValue?
  let code := digits.foldl (fun n d => 16 * n + d) 0
  if digits.length = count ∧ code.isValidChar then some (Char.ofNat code, cs.drop count) else none

/-- Reads what follows the backslash of an escape. -/
def escape : Reader Char
  | 'b' :: rest => some ('\x08', rest)
  | 't' :: rest => some ('\t', rest)
  | 'n' :: rest => some ('\n', rest)
  | 'f' :: rest => some ('\x0c', rest)
  | 'r' :: rest => some ('\r', rest)
  | 'e' :: rest => some ('\x1b', rest)
  | '"' :: rest => some ('"', rest)
  | '\\' :: rest => some ('\\', rest)
  | 'x' :: rest => codePoint 2 rest
  | 'u' :: rest => codePoint 4 rest
  | 'U' :: rest => codePoint 8 rest
  | _ => none

/-- The text after blanks and line breaks. -/
def skipBlankLines (cs : List Char) : List Char :=
  match cs with
  | '\r' :: '\n' :: rest => skipBlankLines rest
  | c :: rest => if isSpace c || c = '\n' then skipBlankLines rest else c :: rest
  | [] => []

/-- Reads what follows the backslash of an escape in a string of several lines: a line break and the
blanks around it stand for nothing. -/
def lineEscape : Reader (List Char) := fun cs =>
  match lineBreak? (skipSpaces cs) with
  | some rest => some ([], skipBlankLines rest)
  | none => (escape cs).map fun (c, rest) => ([c], rest)

/-- Reads a basic string up to its closing quote, after the reversed beginning `before`. -/
def basicBody (before : List Char) (cs : List Char) : Option (List Char × List Char) :=
  match cs with
  | [] => none
  | c :: rest =>
    if c = '"' then some (before.reverse, rest)
    else if c = '\\' then
      match escape rest with
      | none => none
      | some (d, rest') =>
        if rest'.length < (c :: rest).length then basicBody (d :: before) rest' else none
    else if isPlain c then basicBody (c :: before) rest
    else none
termination_by cs.length
decreasing_by all_goals grind

/-- Reads a literal string up to its closing quote. -/
def literalBody : Reader (List Char) := fun cs =>
  match cs.span (· ≠ '\'') with
  | (body, _ :: rest) => if body.all isPlain then some (body, rest) else none
  | (_, []) => none

/-- Looks at a run of quotes within a string of several lines. Three to five of them close the string, and
those before the last three belong to it. -/
def closing? (quote : Char) (cs : List Char) : Option (List Char × List Char) :=
  let run := (cs.takeWhile (· = quote)).length
  if 3 ≤ run then
    let kept := min (run - 3) 2
    some (List.replicate kept quote, cs.drop (kept + 3))
  else none

/-- Reads a string of several lines up to its closing quotes, after the reversed beginning `before`. -/
def linesBody (quote : Char) (escapes : Bool) (before : List Char) (cs : List Char) :
    Option (List Char × List Char) :=
  match closing? quote cs with
  | some (kept, rest) => some (before.reverse ++ kept, rest)
  | none =>
    match cs with
    | [] => none
    | '\r' :: '\n' :: rest => linesBody quote escapes ('\n' :: '\r' :: before) rest
    | c :: rest =>
      if escapes && c = '\\' then
        match lineEscape rest with
        | none => none
        | some (ds, rest') =>
          if rest'.length < (c :: rest).length then linesBody quote escapes (ds ++ before) rest'
          else none
      else if isPlain c || c = '\n' then linesBody quote escapes (c :: before) rest
      else none
termination_by cs.length
decreasing_by all_goals grind

/-- The text without a leading line break. -/
def dropLineBreak (cs : List Char) : List Char := (lineBreak? cs).getD cs

/-- Reads a string of one line. -/
def lineString : Reader String
  | '"' :: rest => (basicBody [] rest).map fun (cs, rest) => (.ofList cs, rest)
  | '\'' :: rest => (literalBody rest).map fun (cs, rest) => (.ofList cs, rest)
  | _ => none

/-- Reads a string of any kind. -/
def string : Reader String
  | '"' :: '"' :: '"' :: rest =>
    (linesBody '"' true [] (dropLineBreak rest)).map fun (cs, rest) => (.ofList cs, rest)
  | '\'' :: '\'' :: '\'' :: rest =>
    (linesBody '\'' false [] (dropLineBreak rest)).map fun (cs, rest) => (.ofList cs, rest)
  | cs => lineString cs

end StickerBook.Toml
