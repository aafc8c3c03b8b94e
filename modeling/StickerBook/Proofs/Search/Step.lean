import StickerBook.Proofs.Except
import StickerBook.Search.Token

/-!
# A search text read character by character

`Token.Place.step` says what a reader does with one character: it refuses the text, or completes some tokens and goes
to its next place. The scan of a text is made up of these steps (`Token.scan_cons`), so what holds of a scan is proved
of one step and by induction on the text.
-/

namespace StickerBook.Token
set_option autoImplicit false
open Text (isBlank)

namespace Place

/-- What a reader does with a character: the tokens that it completes and where it goes. `gap` tells whether the text
ends behind the character or goes on with a blank. -/
def step (place : Place) (column : Nat) (c : Char) (gap : Bool) : Except SearchError (List Token × Place) :=
  match place with
  | .between =>
    if isBlank c then .ok ([], .between)
    else if c = '-' then
      if gap then .error (.danglingNegation column) else .ok ([], .inToken { negated := true })
    else .ok ([], Draft.read {} column c)
  | .inToken draft => if isBlank c then .ok (draft.tokens, .between) else .ok ([], draft.read column c)
  | .inQuotes draft opened => if c = '"' then .ok ([], .inToken draft) else .ok ([], .inQuotes (draft.push c) opened)

/-- The tokens that a reader completes when the text ends. -/
def finish : Place → Except SearchError (List Token)
  | .between => .ok []
  | .inToken draft => .ok draft.tokens
  | .inQuotes _ opened => .error (.unterminatedQuote opened)

/-- A blank completes what the end of the text would complete. -/
theorem step_of_finish {place : Place} {tokens : List Token} (finished : place.finish = .ok tokens) {w : Char}
    (blank : isBlank w = true) (column : Nat) (gap : Bool) : place.step column w gap = .ok (tokens, .between) := by
  cases place with
  | between =>
    obtain rfl : [] = tokens := Except.ok.inj finished
    exact if_pos blank
  | inToken draft =>
    obtain rfl : draft.tokens = tokens := Except.ok.inj finished
    exact if_pos blank
  | inQuotes draft opened => cases finished

end Place

theorem scan_nil (place : Place) (column : Nat) : scan place column [] = place.finish := by
  cases place <;> rfl

/-- A scan takes one step and goes on from where that leads. -/
theorem scan_cons (place : Place) (column : Nat) (c : Char) (rest : List Char) :
    scan place column (c :: rest)
      = (place.step column c (atGap rest)).bind fun (out, next) => (scan next (column + 1) rest).map (out ++ ·) := by
  have silent (next : Place) : scan next (column + 1) rest = (scan next (column + 1) rest).map ([] ++ ·) :=
    (map_nil_append _).symm
  cases place with
  | between =>
    rw [scan, Place.step]
    split
    · exact silent _
    · split
      · split
        · rfl
        · exact silent _
      · exact silent _
  | inToken draft =>
    rw [scan, Place.step]
    split
    · rfl
    · exact silent _
  | inQuotes draft opened =>
    rw [scan, Place.step]
    split
    · exact silent _
    · exact silent _

/-- A scan that succeeds has taken a step and gone on from there. -/
theorem exists_step_of_scan {place : Place} {column : Nat} {c : Char} {rest : List Char} {tokens : List Token}
    (read : scan place column (c :: rest) = .ok tokens) :
    ∃ out next more, place.step column c (atGap rest) = .ok (out, next) ∧ scan next (column + 1) rest = .ok more ∧
      out ++ more = tokens := by
  rw [scan_cons] at read
  obtain ⟨⟨out, next⟩, stepped, behind⟩ := exists_of_bind_eq_ok read
  obtain ⟨more, behind, same⟩ := exists_of_map_eq_ok behind
  exact ⟨out, next, more, stepped, behind, same⟩

end StickerBook.Token
