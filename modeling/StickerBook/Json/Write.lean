/-!
# Writing JSON strings

A string is written between double quotes. Quotes, backslashes and control characters are escaped, the common ones
by a letter; every other character stands for itself.
-/

namespace StickerBook.Json
set_option autoImplicit false

/-- The letter that stands for a character behind a backslash. -/
def shortForm? : Char → Option Char
  | '"' => some '"'
  | '\\' => some '\\'
  | '\x08' => some 'b'
  | '\x0c' => some 'f'
  | '\n' => some 'n'
  | '\r' => some 'r'
  | '\t' => some 't'
  | _ => none

/-- A character as it is written inside a string. -/
def spelled (c : Char) : List Char :=
  match shortForm? c with
  | some d => ['\\', d]
  | none =>
    if c.toNat < 0x20 then ['\\', 'u', '0', '0', Nat.digitChar (c.toNat / 16), Nat.digitChar (c.toNat % 16)] else [c]

/-- A string literal. -/
def quoted (s : String) : String := String.ofList ('"' :: (s.toList.flatMap spelled ++ ['"']))

end StickerBook.Json
