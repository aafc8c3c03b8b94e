/-!
# Decimal numerals

Numbers as users type them: an optional sign and ASCII digits, nothing else, within bounds. A
numeral may have leading zeros. An unsigned numeral takes no minus sign, not even before a zero.
-/

set_option autoImplicit false

namespace StickerBook.Text

/-- The value of a digit string that follows the digits of `acc`. -/
def digitsValue (acc : Nat) (ds : List Char) : Nat :=
  ds.foldl (fun n c => 10 * n + (c.toNat - '0'.toNat)) acc

/-- The value of a non-empty string of ASCII digits. -/
def digits? (ds : List Char) : Option Nat :=
  if !ds.isEmpty && ds.all Char.isDigit then some (digitsValue 0 ds) else none

/-- An unsigned numeral with an optional plus sign, of value at most `bound`. -/
def natNumeral? (bound : Nat) (cs : List Char) : Option Nat :=
  let ds := match cs with
    | '+' :: ds => ds
    | _ => cs
  (digits? ds).filter (· ≤ bound)

/-- A signed numeral of value between `lo` and `hi`. -/
def intNumeral? (lo hi : Int) (cs : List Char) : Option Int :=
  let value := match cs with
    | '-' :: ds => (digits? ds).map fun n => -(n : Int)
    | '+' :: ds => (digits? ds).map Int.ofNat
    | _ => (digits? cs).map Int.ofNat
  value.filter fun v => lo ≤ v && v ≤ hi

/-- A number is written with digits only. -/
theorem notMem_toString {c : Char} (other : c.isDigit = false) (n : Nat) : c ∉ (toString n).toList := by
  intro member
  rw [Nat.toString_eq_repr, Nat.toList_repr] at member
  have digit := Nat.isDigit_of_mem_toDigits (by decide) (by decide) member
  rw [other] at digit
  cases digit

end StickerBook.Text
