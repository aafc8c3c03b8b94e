import StickerBook.Text.Blank
import StickerBook.Text.CaseTables

/-!
# Lower-case texts

`lower` is the full lower-case mapping of the Unicode standard without locale tailoring. Two
letters need more than the table of single characters: `İ` becomes two characters, and `Σ` becomes
the final form `ς` where it ends a word (rule `Final_Sigma`).
-/

set_option autoImplicit false

namespace StickerBook.Text

/-- A character with the property `Cased`. -/
def isCased (c : Char) : Bool :=
  inRanges casedRanges c.toNat

/-- A character with the property `Case_Ignorable`. -/
def isCaseIgnorable (c : Char) : Bool :=
  inRanges caseIgnorableRanges c.toNat

/-- The capital letter sigma, whose lower-case form depends on its neighbours. -/
def capitalSigma : Char := '\u03A3'

/-- The lower-case form of `Σ` inside a word. -/
def smallSigma : Char := '\u03C3'

/-- The lower-case form of `Σ` at the end of a word. -/
def finalSigma : Char := '\u03C2'

/-- The capital letter I with a dot above, the one letter whose lower-case form is two characters. -/
def capitalDottedI : Char := '\u0130'

/-- The character that a run maps `n` to, if `n` belongs to it. -/
def LowerRun.image? (r : LowerRun) (n : Nat) : Option Nat :=
  if r.first ≤ n ∧ n ≤ r.last ∧ (n - r.first) % r.step = 0 then some (n + r.shift).toNat else none

/-- The lower-case form of a character out of context. -/
def lowerChar (c : Char) : List Char :=
  if c = capitalDottedI then ['i', '\u0307']
  else match lowerRuns.findSome? (·.image? c.toNat) with
    | some n => [Char.ofNat n]
    | none => [c]

/-- A text whose first character that is not case-ignorable is cased. -/
def startsCased (cs : List Char) : Bool :=
  match cs.dropWhile isCaseIgnorable with
  | [] => false
  | c :: _ => isCased c

/-- The form of `Σ` between the reversed text `before` and the text `after`. -/
def lowerSigma (before after : List Char) : Char :=
  if startsCased before && !startsCased after then finalSigma else smallSigma

/-- The lower-case form of a text that follows the reversed text `before`. -/
def lowerAfter (before : List Char) : List Char → List Char
  | [] => []
  | c :: rest =>
    (if c = capitalSigma then [lowerSigma before rest] else lowerChar c)
      ++ lowerAfter (c :: before) rest

/-- The lower-case form of a text. -/
def lower (cs : List Char) : List Char :=
  lowerAfter [] cs

/-- `lower` on strings. -/
def lowerString (s : String) : String :=
  String.ofList (lower s.toList)

@[simp] theorem toList_lowerString (s : String) : (lowerString s).toList = lower s.toList := by
  simp [lowerString]

end StickerBook.Text
