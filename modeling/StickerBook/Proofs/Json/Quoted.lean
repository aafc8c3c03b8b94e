import StickerBook.Json.Record
import StickerBook.Json.Write

/-!
# Reading back a written string

What `spelled` writes for a character is read as that character again (`stringBody_spelled`), so that a string is read
back whole from its literal, whatever follows it (`string_quoted`).
-/

namespace StickerBook.Json
set_option autoImplicit false
variable {α : Type} {c d : Char} {rest : List Char}

theorem skipGaps_cons (filled : isGap c = false) : skipGaps (c :: rest) = c :: rest :=
  List.dropWhile_cons_of_neg (by simp [filled])

theorem onFirst_cons (read : Char → List Char → Except Defect (α × List Char)) (filled : isGap c = false) :
    onFirst read (c :: rest) = read c rest := by
  unfold onFirst
  rw [skipGaps_cons filled]

/-- The letter of an escape is read as the character that it stands for. -/
theorem escape_shortForm (short : shortForm? c = some d) : escape (d :: rest) = .ok (c, rest) := by
  unfold shortForm? at short
  split at short
  all_goals cases short
  all_goals rfl

theorem hexDigit?_digitChar : ∀ n < 16, hexDigit? (Nat.digitChar n) = some n := by
  decide

/-- A control character is read from its number. -/
theorem escape_control (control : c.toNat < 0x20) : escape ('u' :: '0' :: '0' :: Nat.digitChar (c.toNat / 16)
    :: Nat.digitChar (c.toNat % 16) :: rest) = .ok (c, rest) := by
  have zero : hexDigit? '0' = some 0 := rfl
  have unit : hexUnit ('0' :: '0' :: Nat.digitChar (c.toNat / 16) :: Nat.digitChar (c.toNat % 16) :: rest)
      = .ok (c.toNat, rest) := by
    simp only [hexUnit, zero, hexDigit?_digitChar (c.toNat / 16) (by omega),
      hexDigit?_digitChar (c.toNat % 16) (by omega)]
    congr
    omega
  rw [escape, unicodeEscape, unit]
  dsimp only
  rw [if_neg (by omega), if_pos (by omega), Char.ofNat_toNat]

theorem stringBody_escape {before rest' : List Char} (read : escape rest = .ok (c, rest'))
    (shorter : rest'.length < rest.length) : stringBody before ('\\' :: rest) = stringBody (c :: before) rest' := by
  rw [stringBody, if_neg (by decide), if_pos rfl, read]
  dsimp only
  exact if_pos (Nat.lt_succ_of_lt shorter)

/-- A written character is read as itself. -/
theorem stringBody_spelled (before : List Char) (c : Char) (rest : List Char) :
    stringBody before (spelled c ++ rest) = stringBody (c :: before) rest := by
  unfold spelled
  split
  · next d short => exact stringBody_escape (escape_shortForm short) (by simp)
  · next long =>
    split
    · next control => exact stringBody_escape (escape_control control) (by simp; omega)
    · next plain =>
      have quote : c ≠ '"' := by
        rintro rfl
        cases long
      have backslash : c ≠ '\\' := by
        rintro rfl
        cases long
      rw [List.singleton_append, stringBody, if_neg quote, if_neg backslash, if_neg plain]

theorem stringBody_flatMap_spelled (before cs rest : List Char) :
    stringBody before (cs.flatMap spelled ++ '"' :: rest) = .ok (before.reverse ++ cs, rest) := by
  induction cs generalizing before with
  | nil => rw [List.flatMap_nil, List.nil_append, stringBody, if_pos rfl, List.append_nil]
  | cons c cs ih => rw [List.flatMap_cons, List.append_assoc, stringBody_spelled, ih]; simp

theorem toList_quoted_append (s : String) (cs : List Char) :
    (quoted s).toList ++ cs = '"' :: (s.toList.flatMap spelled ++ '"' :: cs) := by
  simp [quoted]

/-- A string is read back from its literal, and what follows is left. -/
theorem string_quoted (s : String) (rest : List Char) : string ((quoted s).toList ++ rest) = .ok (s, rest) := by
  rw [toList_quoted_append, string, onFirst_cons _ (by decide), if_pos rfl, stringBody_flatMap_spelled]
  simp [Except.map]

end StickerBook.Json
