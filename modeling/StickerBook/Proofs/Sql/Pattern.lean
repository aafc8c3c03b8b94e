import Mathlib.Data.List.Forall2
import StickerBook.Proofs.Sql.Like
import StickerBook.Proofs.Sql.Scanning

/-!
# Patterns by the rules of LIKE

`Likes` states the rules of `LIKE` with a backslash as escape character, one for each way a pattern can begin. The
matcher decides by these rules for every pattern (`matchesLike_iff_likes`). The pattern of a value, written as a literal
and read back, is the pattern itself, and by the rules it matches the texts that contain the value, whatever special
characters are in it (`likes_quoted_containsPattern`).
-/

namespace StickerBook.Sql
set_option autoImplicit false

/-- A text is as a pattern says. A pattern that ends in a lone backslash is like no text. -/
inductive Likes : List Char → List Char → Prop where
  | nil : Likes [] []
  | anyRun {pattern text : List Char} (run : List Char) (rest : Likes pattern text) :
    Likes ('%' :: pattern) (run ++ text)
  | anyOne {pattern text : List Char} (c : Char) (rest : Likes pattern text) : Likes ('_' :: pattern) (c :: text)
  | escaped {pattern text : List Char} {c d : Char} (same : sameLetter c d = true) (rest : Likes pattern text) :
    Likes ('\\' :: c :: pattern) (d :: text)
  | plain {pattern text : List Char} {c d : Char} (plain : isWildcard c = false) (same : sameLetter c d = true)
    (rest : Likes pattern text) : Likes (c :: pattern) (d :: text)

theorem likeItems?_percent (rest : List Char) : likeItems? ('%' :: rest) = (likeItems? rest).map (.anyRun :: ·) := rfl

theorem likeItems?_underscore (rest : List Char) :
    likeItems? ('_' :: rest) = (likeItems? rest).map (.anyOne :: ·) := rfl

theorem likeItems?_backslash (c : Char) (rest : List Char) :
    likeItems? ('\\' :: c :: rest) = (likeItems? rest).map (.exactly c :: ·) := rfl

section
variable {items : List LikeItem} {c : Char} {text : List Char}

theorem matchesItems_anyOne_iff :
    matchesItems (.anyOne :: items) text = true ↔ ∃ d rest, text = d :: rest ∧ matchesItems items rest = true := by
  cases text <;> simp [matchesItems]

theorem matchesItems_exactly_iff : matchesItems (.exactly c :: items) text = true ↔
    ∃ d rest, text = d :: rest ∧ sameLetter c d = true ∧ matchesItems items rest = true := by
  cases text <;> simp [matchesItems]

end

/-- The elements of a pattern match only what is as the pattern says. -/
theorem likes_of_matchesItems {pattern text : List Char} {items : List LikeItem}
    (read : likeItems? pattern = some items) (matched : matchesItems items text = true) : Likes pattern text := by
  induction pattern using likeItems?.induct generalizing items text with
  | case1 =>
    obtain rfl : [] = items := Option.some.inj read
    rw [matchesItems, List.isEmpty_iff] at matched
    subst matched
    exact .nil
  | case2 c rest ih =>
    rw [likeItems?_backslash, Option.map_eq_some_iff] at read
    obtain ⟨more, reads, rfl⟩ := read
    obtain ⟨d, text, rfl, same, later⟩ := matchesItems_exactly_iff.1 matched
    exact .escaped same (ih reads later)
  | case3 rest lone =>
    rw [likeItems?.eq_def] at read
    split at read
    · next same => cases same
    · next same =>
      obtain ⟨-, parts⟩ := List.cons.inj same
      exact (lone _ _ rfl parts).elim
    · next same =>
      obtain ⟨rfl, -⟩ := List.cons.inj same
      rw [if_pos rfl] at read
      cases read
  | case4 rest _ _ ih =>
    rw [likeItems?_percent, Option.map_eq_some_iff] at read
    obtain ⟨more, reads, rfl⟩ := read
    obtain ⟨back, ⟨run, rfl⟩, later⟩ := (matchesItems_anyRun more text).1 matched
    exact .anyRun run (ih reads later)
  | case5 rest _ _ _ ih =>
    rw [likeItems?_underscore, Option.map_eq_some_iff] at read
    obtain ⟨more, reads, rfl⟩ := read
    obtain ⟨d, text, rfl, later⟩ := matchesItems_anyOne_iff.1 matched
    exact .anyOne d (ih reads later)
  | case6 c rest _ backslash percent underscore ih =>
    have plain : isWildcard c = false := by simp [isWildcard, backslash, percent, underscore]
    rw [likeItems?_plain plain, Option.map_eq_some_iff] at read
    obtain ⟨more, reads, rfl⟩ := read
    obtain ⟨d, text, rfl, same, later⟩ := matchesItems_exactly_iff.1 matched
    exact .plain plain same (ih reads later)

/-- A pattern that a text is like has elements, and they match the text. -/
theorem Likes.exists_items {pattern text : List Char} (likes : Likes pattern text) :
    ∃ items, likeItems? pattern = some items ∧ matchesItems items text = true := by
  induction likes with
  | nil => exact ⟨[], rfl, by simp [matchesItems]⟩
  | anyRun run _ ih =>
    obtain ⟨items, read, matched⟩ := ih
    refine ⟨.anyRun :: items, ?_, (matchesItems_anyRun _ _).2 ⟨_, List.suffix_append run _, matched⟩⟩
    rw [likeItems?_percent, read, Option.map_some]
  | anyOne c _ ih =>
    obtain ⟨items, read, matched⟩ := ih
    refine ⟨.anyOne :: items, ?_, matchesItems_anyOne_iff.2 ⟨c, _, rfl, matched⟩⟩
    rw [likeItems?_underscore, read, Option.map_some]
  | @escaped _ _ c d same _ ih =>
    obtain ⟨items, read, matched⟩ := ih
    refine ⟨.exactly c :: items, ?_, matchesItems_exactly_iff.2 ⟨d, _, rfl, same, matched⟩⟩
    rw [likeItems?_backslash, read, Option.map_some]
  | @plain _ _ c d plain same _ ih =>
    obtain ⟨items, read, matched⟩ := ih
    refine ⟨.exactly c :: items, ?_, matchesItems_exactly_iff.2 ⟨d, _, rfl, same, matched⟩⟩
    rw [likeItems?_plain plain, read, Option.map_some]

/-- The matcher decides every pattern by the rules. -/
theorem matchesLike_iff_likes (pattern text : String) :
    matchesLike pattern text = true ↔ Likes pattern.toList text.toList := by
  unfold matchesLike
  constructor
  · intro matched
    split at matched
    · next items read => exact likes_of_matchesItems read matched
    · cases matched
  · intro likes
    obtain ⟨items, read, matched⟩ := likes.exists_items
    rw [read]
    exact matched

/-- A value occurs in a text up to the case of ASCII letters if a piece of the text is its letters one by one. -/
theorem map_toLower_isInfix_iff {value text : List Char} : value.map Char.toLower <:+: text.map Char.toLower ↔
    ∃ front piece back, text = front ++ piece ++ back ∧ List.Forall₂ (fun c d => sameLetter c d = true) value piece := by
  have letters (piece : List Char) : value.map Char.toLower = piece.map Char.toLower ↔
      List.Forall₂ (fun c d => sameLetter c d = true) value piece := by
    rw [← List.forall₂_eq_eq_eq, List.forall₂_map_left_iff, List.forall₂_map_right_iff]
    simp [sameLetter]
  rw [List.infix_map_iff]
  constructor
  · rintro ⟨piece, ⟨front, back, parts⟩, same⟩
    exact ⟨front, piece, back, parts.symm, (letters piece).1 same⟩
  · rintro ⟨front, piece, back, parts, same⟩
    exact ⟨piece, ⟨front, back, parts.symm⟩, (letters piece).2 same⟩

theorem scanLiterals_quote (value : String) : scanLiterals (quote value) = some { literals := [value.toList] } := by
  have piece : (render [.literal value]).toList = (quote value).toList := by
    rw [toList_render_cons, toList_render_nil, List.append_nil, Piece.render]
  have separated : Separated [.literal value] := .last
  rw [← String.toList_inj.1 piece, separated.scanLiterals_render]
  rfl

/-- **The pattern of a value finds the texts that contain it.** Written into a statement and read from there, it is like
a text by the rules of `LIKE` if the value stands in the text in one piece, up to the case of ASCII letters; and the
matcher finds the text then. Special characters of patterns and quotes in the value stand for themselves. -/
theorem likes_quoted_containsPattern (value text : String) :
    ∃ pattern, scanLiterals (quote (containsPattern value)) = some { literals := [pattern] } ∧
      (Likes pattern text.toList ↔ ∃ front piece back, text.toList = front ++ piece ++ back ∧
        List.Forall₂ (fun c d => sameLetter c d = true) value.toList piece) ∧
      (matchesLike (.ofList pattern) text = true ↔ Likes pattern text.toList) := by
  refine ⟨(containsPattern value).toList, scanLiterals_quote _, ?rules, ?matcher⟩
  case rules => rw [← matchesLike_iff_likes, matchesLike_containsPattern, map_toLower_isInfix_iff]
  case matcher => rw [String.ofList_toList, matchesLike_iff_likes]

end StickerBook.Sql
