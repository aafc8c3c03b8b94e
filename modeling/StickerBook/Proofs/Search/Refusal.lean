import Mathlib.Data.Nat.Find
import StickerBook.Proofs.Search.Word

/-!
# Which error a search text gets

The quotes and the minus signs of the whole text are looked at before any value is. So a text gets the error of its first
dangling minus; else, if the number of quotes is odd, that of its last quote; else that of the first word whose value makes
no sense for its key (`Search.locatesErrors_parse`).
-/

namespace StickerBook
set_option autoImplicit false
open Text (trim)

/-- The error is one of a value. -/
def SearchError.OfValue : SearchError → Prop
  | .unterminatedQuote _ | .danglingNegation _ => False
  | .unsortable _ | .invalidOrder _ | .invalidDate _ _ | .invalidKind _ => True

namespace Token

/-- The value behind the colon of the token makes no sense for the reserved key before it. -/
def Refuses (t : Token) (e : SearchError) : Prop :=
  ∃ tail key, t.tail = some tail ∧ MetaKey.ofString? (.ofList (trim t.head)) = some key ∧
    key.check (.ofList (trim tail)) = .error e

variable {t : Token} {cs front word back : List Char} {first : List Token} {i : Nat} {e : SearchError}

/-- A token stands for nothing only if its value makes no sense. -/
theorem criterion_eq_error_iff : t.criterion = .error e ↔ t.Refuses e := by
  constructor
  · intro refused
    unfold criterion at refused
    split at refused
    · cases refused
    · next tail colon =>
      dsimp only at refused
      split at refused
      · next key named => exact ⟨tail, key, colon, named, error_of_map refused⟩
      · split at refused <;> cases refused
  · rintro ⟨tail, key, colon, named, refused⟩
    unfold criterion
    rw [colon]
    dsimp only
    rw [named]
    dsimp only
    rw [refused]
    rfl

theorem mem_of_odd_count (odd : Odd (cs.count '"')) : '"' ∈ cs := by
  by_contra none
  rw [List.count_eq_zero_of_not_mem none] at odd
  exact absurd odd (by decide)

/-- A quote that a text has is its last one somewhere. -/
theorem exists_lastQuoteAt (quoted : '"' ∈ cs) : ∃ i, LastQuoteAt cs i := by
  induction cs with
  | nil => cases quoted
  | cons c rest ih =>
    by_cases later : '"' ∈ rest
    · obtain ⟨i, quote, last⟩ := ih later
      exact ⟨i + 1, by simpa using quote, by simpa using last⟩
    · obtain same | later' := List.mem_cons.1 quoted
      · exact ⟨0, by rw [← same]; rfl, later⟩
      · exact absurd later' later

/-- In a text with an odd number of quotes a minus dangles before the last one only. -/
theorem DanglesAt.lt_lastQuote (dangles : DanglesAt cs i) (odd : Odd (cs.count '"')) {j : Nat} (last : LastQuoteAt cs j) :
    i < j := by
  have behind : '"' ∈ cs.drop i := by
    have parts : (cs.take i).count '"' + (cs.drop i).count '"' = cs.count '"' := by
      rw [← List.count_append, List.take_append_drop]
    rw [← parts, Nat.odd_add'] at odd
    exact mem_of_odd_count (odd.2 dangles.sign.fresh.outside)
  rcases Nat.lt_trichotomy i j with early | rfl | late
  · exact early
  · have both := dangles.sign.minus.symm.trans last.quote
    exact absurd both (by decide)
  · have inner := List.drop_subset_drop_left cs (Nat.succ_le_of_lt late) behind
    exact absurd inner last.last

/-- What stands behind a word of a text is read behind its token. -/
theorem HasWord.exists_later (found : HasWord cs first t front word back) {tokens : List Token}
    (read : tokenize cs = .ok tokens) : ∃ later, tokens = first ++ t :: later := by
  -- behind the front the text starts anew
  obtain ⟨right, behind, rfl⟩ : ∃ right, tokenize (word ++ back) = .ok right ∧ first ++ right = tokens := by
    obtain ⟨whole, fresh, -, -, before, -⟩ := found
    rcases List.eq_nil_or_concat front with rfl | ⟨inner, w, rfl⟩
    · obtain rfl : [] = first := Except.ok.inj before
      rw [whole] at read
      exact ⟨tokens, read, rfl⟩
    · rw [List.concat_eq_append] at whole fresh before
      obtain ⟨blank, outside⟩ := fresh_concat_iff.1 fresh
      rw [whole, List.append_assoc, List.append_assoc, List.singleton_append] at read
      obtain ⟨first', right, before', behind, joined⟩ := exists_tokenize_of_seam blank outside read
      have seam : tokenize (inner ++ w :: []) = .ok (first' ++ []) := tokenize_seam blank before' rfl
      obtain rfl : first' ++ [] = first := Except.ok.inj (seam.symm.trans before)
      exact ⟨right, behind, by rw [List.append_nil]; exact joined⟩
  cases back with
  | nil =>
    rw [List.append_nil, found.alone] at behind
    obtain rfl := Except.ok.inj behind
    exact ⟨[], rfl⟩
  | cons w back =>
    obtain ⟨outside, -⟩ := exists_tokenize_iff.1 ⟨_, found.alone⟩
    obtain ⟨mine, later, alone, -, rfl⟩ := exists_tokenize_of_seam found.ends outside behind
    obtain rfl := Except.ok.inj (found.alone.symm.trans alone)
    exact ⟨later, rfl⟩

/-- Nothing in the text before this word is wrong, and the value of the word makes no sense. -/
structure InvalidWord (cs front word back : List Char) (e : SearchError) : Prop where
  whole : cs = front ++ word ++ back
  fresh : Fresh front
  isWord : IsWord word
  ends : atGap back = true
  readable : ∃ search, Search.parse (.ofList front) = .ok search
  refused : ∃ t, tokenize word = .ok [t] ∧ t.Refuses e

end Token

/-- A list of tokens gets the error of the first one that stands for nothing. -/
theorem criteria_eq_error_iff {tokens : List Token} {e : SearchError} : criteria tokens = .error e ↔
    ∃ first t later cs, tokens = first ++ t :: later ∧ criteria first = .ok cs ∧ t.Refuses e := by
  constructor
  · intro refused
    induction tokens with
    | nil => cases refused
    | cons t rest ih =>
      unfold criteria at refused
      split at refused
      · next found =>
        obtain rfl := Except.error.inj refused
        exact ⟨[], t, rest, [], rfl, rfl, Token.criterion_eq_error_iff.1 found⟩
      · next c found =>
        obtain ⟨first, t', later, cs, rfl, before, refuses⟩ := ih (error_of_map refused)
        exact ⟨t :: first, t', later, c :: cs, rfl, by rw [criteria_cons found, before]; rfl, refuses⟩
  · rintro ⟨first, t, later, cs, rfl, before, refuses⟩
    rw [criteria_append before, criteria, Token.criterion_eq_error_iff.2 refuses]
    rfl

/-- The error of a value has no column, and can be told from those that have one. -/
theorem ofValue_of_criteria {tokens : List Token} {e : SearchError} (refused : criteria tokens = .error e) :
    e.OfValue := by
  have stays := moved_of_criteria refused 1
  cases e with
  | unterminatedQuote column => exact absurd (SearchError.unterminatedQuote.inj stays) (Nat.succ_ne_self column)
  | danglingNegation column => exact absurd (SearchError.danglingNegation.inj stays) (Nat.succ_ne_self column)
  | unsortable | invalidOrder | invalidDate | invalidKind => trivial

namespace Search
open Token (DanglesAt LastQuoteAt InvalidWord)
variable {text : String} {e : SearchError}

/-- An error with a column is one of the scan. -/
theorem parse_eq_column_iff (column : ¬e.OfValue) : parse text = .error e ↔ Token.tokenize text.toList = .error e := by
  unfold parse
  cases Token.tokenize text.toList with
  | error e' =>
    constructor
    · intro refused
      exact congrArg Except.error (Except.error.inj refused)
    · intro refused
      exact congrArg Except.error (Except.error.inj refused)
  | ok tokens =>
    refine iff_of_false (fun refused => ?_) nofun
    exact column (ofValue_of_criteria (error_of_map refused))

theorem parse_eq_dangling_iff {i : Nat} : parse text = .error (.danglingNegation i) ↔
    DanglesAt text.toList i ∧ ∀ j < i, ¬DanglesAt text.toList j :=
  (parse_eq_column_iff id).trans Token.tokenize_eq_dangling_iff

theorem parse_eq_unterminated_iff {i : Nat} : parse text = .error (.unterminatedQuote i) ↔
    Odd (text.toList.count '"') ∧ LastQuoteAt text.toList i ∧ ∀ j, ¬DanglesAt text.toList j :=
  (parse_eq_column_iff id).trans Token.tokenize_eq_unterminated_iff

/-- A dangling minus is reported, or one before it. -/
theorem exists_parse_eq_dangling {i : Nat} (dangles : DanglesAt text.toList i) :
    ∃ j ≤ i, DanglesAt text.toList j ∧ parse text = .error (.danglingNegation j) := by
  classical
  have some : ∃ j, DanglesAt text.toList j := ⟨i, dangles⟩
  have first := Nat.find_spec some
  exact ⟨Nat.find some, Nat.find_min' some dangles, first,
    parse_eq_dangling_iff.2 ⟨first, fun j early => Nat.find_min some early⟩⟩

/-- A text gets the error of a value just if its quotes and signs are right and that value is the first wrong one. -/
theorem parse_eq_value_iff (ofValue : e.OfValue) : parse text = .error e ↔
    (Even (text.toList.count '"') ∧ ∀ i, ¬DanglesAt text.toList i) ∧
      ∃ front word back, InvalidWord text.toList front word back e := by
  constructor
  · intro refused
    unfold parse at refused
    split at refused
    · next e' scanned =>
      obtain rfl := Except.error.inj refused
      have explained := Token.tokenize_eq_error_iff.1 scanned
      cases e' with
      | unterminatedQuote | danglingNegation => exact ofValue.elim
      | unsortable | invalidOrder | invalidDate | invalidKind => exact explained.elim
    · next tokens scanned =>
      obtain ⟨first, t, later, cs, rfl, before, refuses⟩ := criteria_eq_error_iff.1 (error_of_map refused)
      obtain ⟨front, word, back, found⟩ := Token.exists_word_of_tokenize scanned
      refine ⟨Token.exists_tokenize_iff.1 ⟨_, scanned⟩, front, word, back, ?_⟩
      exact {
        whole := found.whole
        fresh := found.fresh
        isWord := found.isWord
        ends := found.ends
        readable := ⟨ofCriteria cs, by
          unfold parse
          rw [String.toList_ofList, found.before]
          dsimp only
          rw [before]
          rfl⟩
        refused := ⟨t, found.alone, refuses⟩ }
  · rintro ⟨right, front, word, back, found⟩
    obtain ⟨tokens, scanned⟩ := Token.exists_tokenize_iff.2 right
    obtain ⟨search, readable⟩ := found.readable
    obtain ⟨t, alone, refuses⟩ := found.refused
    obtain ⟨first, cs, before, read, -⟩ := exists_criteria_of_parse readable
    rw [String.toList_ofList] at before
    have place : Token.HasWord text.toList first t front word back :=
      ⟨found.whole, found.fresh, found.isWord, found.ends, before, alone⟩
    obtain ⟨later, rfl⟩ := place.exists_later scanned
    unfold parse
    rw [scanned]
    dsimp only
    rw [criteria_eq_error_iff.2 ⟨first, t, later, cs, rfl, read, refuses⟩]
    rfl

/-- Every error of a text says where the text is wrong. -/
structure LocatesErrors (text : String) : Prop where
  even : Even (text.toList.count '"') → ∀ column, parse text ≠ .error (.unterminatedQuote column)
  /-- A text with an odd number of quotes is refused at the last one, or at a minus before it. -/
  odd : Odd (text.toList.count '"') → ∃ i, LastQuoteAt text.toList i ∧
    (parse text = .error (.unterminatedQuote i) ∨ ∃ j < i, parse text = .error (.danglingNegation j))
  unterminated : ∀ i, parse text = .error (.unterminatedQuote i) ↔
    Odd (text.toList.count '"') ∧ LastQuoteAt text.toList i ∧ ∀ j, ¬DanglesAt text.toList j
  /-- The first dangling minus is reported, whatever else is wrong. -/
  dangling : ∀ i, parse text = .error (.danglingNegation i) ↔
    DanglesAt text.toList i ∧ ∀ j < i, ¬DanglesAt text.toList j
  /-- A value is reported only if nothing is wrong with quotes and signs, and then the first that makes no sense. -/
  value : ∀ e, e.OfValue → (parse text = .error e ↔
    (Even (text.toList.count '"') ∧ ∀ i, ¬DanglesAt text.toList i) ∧
      ∃ front word back, InvalidWord text.toList front word back e)

/-- **Malformed texts are located exactly.** -/
theorem locatesErrors_parse (text : String) : LocatesErrors text := by
  refine ⟨fun even column refused => ?even, fun odd => ?odd, fun i => parse_eq_unterminated_iff,
    fun i => parse_eq_dangling_iff, fun e => parse_eq_value_iff⟩
  case even => exact Nat.not_even_iff_odd.2 (parse_eq_unterminated_iff.1 refused).1 even
  case odd =>
    obtain ⟨i, last⟩ := Token.exists_lastQuoteAt (Token.mem_of_odd_count odd)
    refine ⟨i, last, ?_⟩
    by_cases clear : ∀ j, ¬DanglesAt text.toList j
    · exact .inl (parse_eq_unterminated_iff.2 ⟨odd, last, clear⟩)
    · push Not at clear
      obtain ⟨_, stray⟩ := clear
      obtain ⟨j, -, dangles, refused⟩ := exists_parse_eq_dangling stray
      exact .inr ⟨j, dangles.lt_lastQuote odd last, refused⟩

example : parse "\"big cat\" - sort:size \"ears" = .error (.danglingNegation 10) := by rfl

example : parse "order:up sort:size" = .error (.invalidOrder "up") := by rfl

end Search

end StickerBook
