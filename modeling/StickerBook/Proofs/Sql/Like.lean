import StickerBook.Sql.Like

/-!
# What the patterns match

The pattern of a text takes every character of it literally, so that it matches exactly the texts that contain the given
one up to the case of ASCII letters (`matchesLike_containsPattern`).
-/

namespace StickerBook.Sql
set_option autoImplicit false

theorem likeItems?_plain {c : Char} (plain : isWildcard c = false) (rest : List Char) :
    likeItems? (c :: rest) = (likeItems? rest).map (.exactly c :: ·) := by
  simp only [isWildcard, Bool.or_eq_false_iff, decide_eq_false_iff_not] at plain
  obtain ⟨⟨percent, underscore⟩, backslash⟩ := plain
  rw [likeItems?.eq_def]
  split
  · next same => cases same
  · next same => exact absurd (List.cons.inj same).1 backslash
  · next same =>
    obtain ⟨rfl, rfl⟩ := List.cons.inj same
    rw [if_neg backslash, if_neg percent, if_neg underscore]

/-- An escaped text is read as its characters. -/
theorem likeItems?_escaped (cs more : List Char) :
    likeItems? (escaped cs ++ more) = (likeItems? more).map (cs.map .exactly ++ ·) := by
  induction cs with
  | nil => exact Option.map_id'.symm
  | cons c rest ih =>
    have item : likeItems? (escaped (c :: rest) ++ more)
        = (likeItems? (escaped rest ++ more)).map (.exactly c :: ·) := by
      rw [escaped]
      split
      · rfl
      · next plain => exact likeItems?_plain (Bool.eq_false_iff.2 plain) _
    rw [item, ih, Option.map_map]
    rfl

theorem likeItems?_containsPattern (value : String) :
    likeItems? (containsPattern value).toList = some (.anyRun :: (value.toList.map .exactly ++ [.anyRun])) := by
  have ending : likeItems? ['%'] = some [.anyRun] := rfl
  have opened (rest : List Char) : likeItems? ('%' :: rest) = (likeItems? rest).map (.anyRun :: ·) := rfl
  unfold containsPattern
  rw [String.toList_ofList, opened, likeItems?_escaped, ending]
  rfl

theorem matchesItems_anyRun (items : List LikeItem) (text : List Char) :
    matchesItems (.anyRun :: items) text = true ↔ ∃ back, back <:+ text ∧ matchesItems items back = true := by
  induction text with
  | nil => simp [matchesItems]
  | cons c rest ih =>
    rw [matchesItems, Bool.or_eq_true, ih]
    simp [List.suffix_cons_iff]

/-- Characters followed by any run match the texts that begin with them. -/
theorem matchesItems_exactly (cs text : List Char) : matchesItems (cs.map .exactly ++ [.anyRun]) text = true ↔
    cs.map Char.toLower <+: text.map Char.toLower := by
  induction cs generalizing text with
  | nil =>
    have all : ∃ back, back <:+ text ∧ matchesItems [] back = true :=
      ⟨[], List.nil_suffix, by rw [matchesItems, List.isEmpty_nil]⟩
    exact iff_of_true ((matchesItems_anyRun [] text).2 all) List.nil_prefix
  | cons d cs ih =>
    cases text with
    | nil => simp [matchesItems]
    | cons c rest => simp [matchesItems, ih, sameLetter, List.cons_prefix_cons]

/-- **The pattern of a text matches the texts that contain it**, up to the case of ASCII letters. -/
theorem matchesLike_containsPattern (value text : String) : matchesLike (containsPattern value) text = true ↔
    value.toList.map Char.toLower <:+: text.toList.map Char.toLower := by
  unfold matchesLike
  rw [likeItems?_containsPattern]
  rw [matchesItems_anyRun]
  constructor
  · rintro ⟨back, suffix, starts⟩
    rw [matchesItems_exactly] at starts
    exact starts.isInfix.trans (suffix.map Char.toLower).isInfix
  · intro contained
    obtain ⟨back, starts, suffix⟩ := List.infix_iff_prefix_suffix.1 contained
    obtain ⟨back', suffix', rfl⟩ := List.suffix_map_iff.1 suffix
    exact ⟨back', suffix', (matchesItems_exactly _ _).2 starts⟩

end StickerBook.Sql
