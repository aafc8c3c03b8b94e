/-!
# Machine-sized numbers

Sizes, ids and counters are unsigned 64-bit words, dates signed ones. The library computes in `Nat`
and `Int`; these are the bounds at which texts are refused and products saturate.
-/

set_option autoImplicit false

namespace StickerBook

/-- The largest unsigned 64-bit number. -/
def maxWord : Nat := 0xFFFFFFFFFFFFFFFF

/-- The least signed 64-bit number. -/
def minDate : Int := -0x8000000000000000

/-- The largest signed 64-bit number. -/
def maxDate : Int := 0x7FFFFFFFFFFFFFFF

/-- A product that stops at the largest word. -/
def saturatingMul (a b : Nat) : Nat := min (a * b) maxWord

end StickerBook
