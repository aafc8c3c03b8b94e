import StickerBook.Text.Blank
import StickerBook.Word

/-!
# Scanning JSON text

The scanners read one lexical item from the front of a text and return the rest. A text is refused
at its first defect: it is `truncated` if it ends too early, `malformed` if it is not JSON, and a
`mismatch` if it is JSON that does not fit what is read. A number that is too large for a
double-precision number counts as malformed.
-/

namespace StickerBook.Json
set_option autoImplicit false

/-- Why a text is refused. -/
inductive Defect where
  | truncated
  | malformed
  | mismatch
deriving DecidableEq, Repr

/-- A reader takes a value from the front of a text. -/
abbrev Reader (α : Type) := List Char → Except Defect (α × List Char)

/-- The four characters that separate JSON tokens. -/
def isGap (c : Char) : Bool := c = ' ' || c = '\t' || c = '\n' || c = '\r'

/-- The text without its leading gaps. -/
def skipGaps (cs : List Char) : List Char := cs.dropWhile isGap

/-- Reads the rest of a word such as `null`. -/
def word : List Char → List Char → Except Defect (List Char)
  | [], cs => .ok cs
  | _ :: _, [] => .error .truncated
  | w :: ws, c :: cs => if c = w then word ws cs else .error .malformed

/-- The value of a hexadecimal digit. -/
def hexDigit? (c : Char) : Option Nat :=
  if '0' ≤ c ∧ c ≤ '9' then some (c.toNat - '0'.toNat)
  else if 'a' ≤ c ∧ c ≤ 'f' then some (c.toNat - 'a'.toNat + 10)
  else if 'A' ≤ c ∧ c ≤ 'F' then some (c.toNat - 'A'.toNat + 10)
  else none

/-- The number of octets of a text in UTF-8, counted up to four. -/
def octets : List Char → Nat
  | [] => 0
  | c :: cs => if c.utf8Size ≥ 4 then 4 else min 4 (c.utf8Size + octets cs)

/-- Reads four hexadecimal digits. The text is too short only if fewer than four octets are left. -/
def hexUnit : Reader Nat
  | a :: b :: c :: d :: rest =>
    match hexDigit? a, hexDigit? b, hexDigit? c, hexDigit? d with
    | some a, some b, some c, some d => .ok (((a * 16 + b) * 16 + c) * 16 + d, rest)
    | _, _, _, _ => .error .malformed
  | cs => .error (if octets cs < 4 then .truncated else .malformed)

/-- Reads the digits of a `\u` escape. A character beyond the basic plane is written as two escapes; half of
such a pair is no character. -/
def unicodeEscape (cs : List Char) : Except Defect (Char × List Char) :=
  match hexUnit cs with
  | .error e => .error e
  | .ok (unit, rest) =>
    if 0xDC00 ≤ unit ∧ unit ≤ 0xDFFF then .error .malformed
    else if unit < 0xD800 ∨ 0xDBFF < unit then .ok (Char.ofNat unit, rest)
    else match rest with
      | [] => .error .truncated
      | '\\' :: [] => .error .truncated
      | '\\' :: 'u' :: rest =>
        match hexUnit rest with
        | .error e => .error e
        | .ok (low, rest) =>
          if 0xDC00 ≤ low ∧ low ≤ 0xDFFF then
            .ok (Char.ofNat ((unit - 0xD800) * 0x400 + (low - 0xDC00) + 0x10000), rest)
          else .error .malformed
      | _ => .error .malformed

/-- The characters with a short escape. -/
def shortEscape? : Char → Option Char
  | '"' => some '"'
  | '\\' => some '\\'
  | '/' => some '/'
  | 'b' => some '\x08'
  | 'f' => some '\x0c'
  | 'n' => some '\n'
  | 'r' => some '\r'
  | 't' => some '\t'
  | _ => none

/-- Reads what follows the backslash of an escape. -/
def escape : Reader Char
  | [] => .error .truncated
  | 'u' :: rest => unicodeEscape rest
  | c :: rest =>
    match shortEscape? c with
    | some d => .ok (d, rest)
    | none => .error .malformed

/-- Passes over what follows the backslash of an escape; here half a pair passes. -/
def skipEscape : List Char → Except Defect (List Char)
  | [] => .error .truncated
  | 'u' :: rest => (hexUnit rest).map Prod.snd
  | c :: rest => if (shortEscape? c).isSome then .ok rest else .error .malformed

/-- Reads the characters of a string up to its closing quote, after the reversed beginning `before`. -/
def stringBody (before : List Char) (cs : List Char) : Except Defect (List Char × List Char) :=
  match cs with
  | [] => .error .truncated
  | c :: rest =>
    if c = '"' then .ok (before.reverse, rest)
    else if c = '\\' then
      match escape rest with
      | .error e => .error e
      | .ok (d, rest') =>
        if rest'.length < (c :: rest).length then stringBody (d :: before) rest'
        else .error .malformed
    else if c.toNat < 0x20 then .error .malformed
    else stringBody (c :: before) rest
termination_by cs.length
decreasing_by all_goals grind

/-- Passes over the characters of a string up to its closing quote. -/
def skipString (cs : List Char) : Except Defect (List Char) :=
  match cs with
  | [] => .error .truncated
  | c :: rest =>
    if c = '"' then .ok rest
    else if c = '\\' then
      match skipEscape rest with
      | .error e => .error e
      | .ok rest' =>
        if rest'.length < (c :: rest).length then skipString rest' else .error .malformed
    else if c.toNat < 0x20 then .error .malformed
    else skipString rest
termination_by cs.length
decreasing_by all_goals grind

end StickerBook.Json
