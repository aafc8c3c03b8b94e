import StickerBook.Text.Lower

/-!
# Lower-case forms of pieces

The lower-case form of a text is put together from those of its pieces (`lowerAfter_append`), but a piece need not
have the form there that it has alone: the form of `Σ` depends on whether a word ends behind it. It is the only letter
that changes so, hence a piece keeps its form exactly if each `Σ` in it does (`lowerWithin_eq_iff`). The length of the
form does not depend on the place of a letter, so a text is not found in what is left of it (`eq_of_lower_isInfix`).
-/

set_option autoImplicit false

namespace StickerBook.Text

/-- The lower-case form of a text that stands between the reversed text `before` and the text `after`. -/
def lowerWithin (before after : List Char) : List Char → List Char
  | [] => []
  | c :: rest =>
    (if c = capitalSigma then [lowerSigma before (rest ++ after)] else lowerChar c)
      ++ lowerWithin (c :: before) after rest

/-- The lower-case form of a text followed by another, piece by piece. -/
theorem lowerAfter_append (before piece after : List Char) :
    lowerAfter before (piece ++ after) = lowerWithin before after piece ++ lowerAfter (piece.reverse ++ before) after := by
  induction piece generalizing before with
  | nil => rfl
  | cons c rest ih =>
    rw [List.cons_append, lowerAfter, ih, lowerWithin, List.append_assoc]
    simp

/-- The form of a piece occurs in the form of the text that it is taken from. -/
theorem lowerWithin_isInfix (before piece after : List Char) :
    lowerWithin before.reverse after piece <:+: lower (before ++ piece ++ after) := by
  have place : lower (before ++ piece ++ after) = lowerWithin [] (piece ++ after) before
      ++ lowerWithin before.reverse after piece ++ lowerAfter (piece.reverse ++ before.reverse) after := by
    rw [lower, List.append_assoc, lowerAfter_append, lowerAfter_append, List.append_nil, List.append_assoc]
  rw [place]
  exact List.infix_append _ _ _

/-- Each `Σ` of the piece has the same lower-case form between the texts `before` and `after` as in the piece alone. -/
def KeepsSigmas (before piece after : List Char) : Prop :=
  ∀ front back, piece = front ++ capitalSigma :: back →
    lowerSigma (front.reverse ++ before.reverse) (back ++ after) = lowerSigma front.reverse back

theorem keepsSigmas_of_notMem {before piece after : List Char} (without : capitalSigma ∉ piece) :
    KeepsSigmas before piece after := by
  intro front back parts
  exact absurd (by simp [parts]) without

/-- What holds at every place of a character in a list, told place by place. -/
theorem forall_place_cons_iff {c d : Char} {rest : List Char} {P : List Char → List Char → Prop} :
    (∀ front back, c :: rest = front ++ d :: back → P front back) ↔
      (c = d → P [] rest) ∧ ∀ front back, rest = front ++ d :: back → P (c :: front) back := by
  constructor
  · intro all
    refine ⟨fun here => all [] rest (by rw [here]; rfl), fun front back parts => ?_⟩
    exact all (c :: front) back (by rw [parts]; rfl)
  · rintro ⟨here, later⟩ front back parts
    cases front with
    | nil =>
      obtain ⟨same, rfl⟩ := List.cons_eq_cons.1 parts
      exact here same
    | cons e front =>
      obtain ⟨rfl, more⟩ := List.cons_eq_cons.1 parts
      exact later front back more

/-- The forms of the rest of a piece agree, of which `seen` has been read, exactly if its sigmas agree. -/
theorem lowerWithin_eq_lowerAfter_iff (seen before after rest : List Char) :
    lowerWithin (seen ++ before) after rest = lowerAfter seen rest ↔ ∀ front back, rest = front ++ capitalSigma :: back →
      lowerSigma (front.reverse ++ (seen ++ before)) (back ++ after) = lowerSigma (front.reverse ++ seen) back := by
  induction rest generalizing seen with
  | nil => simp [lowerWithin, lowerAfter]
  | cons c rest ih =>
    have later := ih (c :: seen)
    simp only [List.cons_append] at later
    rw [forall_place_cons_iff, lowerWithin, lowerAfter]
    by_cases sigma : c = capitalSigma
    · obtain rfl := sigma
      simp [later]
    · simp [sigma, later]

theorem lowerWithin_eq_iff {before piece after : List Char} :
    lowerWithin before.reverse after piece = lower piece ↔ KeepsSigmas before piece after := by
  unfold lower KeepsSigmas
  simpa using lowerWithin_eq_lowerAfter_iff [] before.reverse after piece

instance (before piece after : List Char) : Decidable (KeepsSigmas before piece after) :=
  decidable_of_iff _ lowerWithin_eq_iff

theorem lower_isInfix {before piece after : List Char} (kept : KeepsSigmas before piece after) :
    lower piece <:+: lower (before ++ piece ++ after) :=
  lowerWithin_eq_iff.2 kept ▸ lowerWithin_isInfix before piece after

theorem length_lowerChar (c : Char) : (lowerChar c).length = if c = capitalDottedI then 2 else 1 := by
  unfold lowerChar
  split
  · rfl
  · split <;> rfl

/-- Only `İ` has a longer lower-case form, wherever it stands. -/
theorem length_lowerAfter (before cs : List Char) :
    (lowerAfter before cs).length = cs.length + cs.count capitalDottedI := by
  induction cs generalizing before with
  | nil => rfl
  | cons c rest ih =>
    rw [lowerAfter, List.length_append, ih, List.length_cons, List.count_cons]
    by_cases sigma : c = capitalSigma
    · have other : (c == capitalDottedI) = false := by
        rw [sigma]
        decide
      rw [if_pos sigma, other]
      simp
      omega
    · rw [if_neg sigma, length_lowerChar]
      by_cases dotted : c = capitalDottedI
      · simp [dotted]
        omega
      · simp [dotted]
        omega

theorem length_lower (cs : List Char) : (lower cs).length = cs.length + cs.count capitalDottedI :=
  length_lowerAfter [] cs

/-- A text from which characters have been taken away does not contain the whole text any more. -/
theorem eq_of_lower_isInfix {part whole : List Char} (taken : part.Sublist whole)
    (found : lower whole <:+: lower part) : part = whole := by
  have shorter := taken.length_le
  have fewer := taken.count_le capitalDottedI
  have lengths := found.length_le
  rw [length_lower, length_lower] at lengths
  apply taken.eq_of_length
  omega

end StickerBook.Text
