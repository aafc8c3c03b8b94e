import StickerBook.Proofs.Search.Beside
import StickerBook.Proofs.Search.Quoting

/-!
# The words of a search text

A word has blanks in quotes only. Every text is made up of words with a blank between them, outside quotes
(`words_induction`), and can be taken apart there: what stands on one side of such a blank does not matter to the other
(`signAt_behind_iff`, `exists_tokenize_of_seam`). A word is read as one token at most (`exists_draft_of_word`), so every
token of a text has its own word (`exists_word_of_tokenize`).
-/

namespace StickerBook.Token
set_option autoImplicit false
open Text (isBlank)

/-- All blanks of the text are in quotes. -/
def IsWord (cs : List Char) : Prop :=
  ∀ front w back, cs = front ++ w :: back → isBlank w = true → Odd (front.count '"')

/-- What holds of words, and of two texts with a blank between them if it holds of both, holds of every text. The blank
stands outside quotes. -/
theorem words_induction {motive : List Char → Prop} (word : ∀ cs, IsWord cs → motive cs)
    (seam : ∀ front w back, isBlank w = true → Even (front.count '"') → motive front → motive back →
      motive (front ++ w :: back)) (cs : List Char) : motive cs := by
  induction length : cs.length using Nat.strong_induction_on generalizing cs with
  | h n ih =>
    by_cases whole : IsWord cs
    · exact word cs whole
    · unfold IsWord at whole
      push Not at whole
      obtain ⟨front, w, back, rfl, blank, outside⟩ := whole
      rw [List.length_append, List.length_cons] at length
      exact seam front w back blank (Nat.not_odd_iff_even.1 outside)
        (ih front.length (by omega) front rfl) (ih back.length (by omega) back rfl)

section
variable {front back : List Char} {w : Char} {i : Nat}

theorem ne_of_blank {c : Char} (blank : isBlank w = true) (filled : isBlank c = false) : w ≠ c := by
  rintro rfl
  rw [blank] at filled
  cases filled

/-- A token can start behind a text just if it can behind the part that follows a blank outside quotes. -/
theorem fresh_behind_iff (blank : isBlank w = true) (outside : Even (front.count '"')) :
    Fresh (front ++ w :: back) ↔ Fresh back := by
  have plain : w ≠ '"' := ne_of_blank blank (by decide)
  rcases List.eq_nil_or_concat back with rfl | ⟨inner, c, rfl⟩
  · exact iff_of_true (fresh_concat_iff.2 ⟨blank, outside⟩) fresh_nil
  · rw [List.concat_eq_append, ← List.cons_append, ← List.append_assoc, fresh_concat_iff, fresh_concat_iff,
      List.count_append, List.count_cons_of_ne plain, Nat.even_add, iff_true_left outside]

theorem signAt_before_iff (early : i < front.length) : SignAt (front ++ back) i ↔ SignAt front i := by
  have here : (front ++ back)[i]? = front[i]? := List.getElem?_append_left early
  have read : (front ++ back).take i = front.take i := List.take_append_of_le_length (Nat.le_of_lt early)
  constructor
  · rintro ⟨minus, fresh⟩
    exact ⟨here ▸ minus, read ▸ fresh⟩
  · rintro ⟨minus, fresh⟩
    exact ⟨here.symm ▸ minus, read.symm ▸ fresh⟩

theorem not_signAt_seam (blank : isBlank w = true) : ¬SignAt (front ++ w :: back) front.length := by
  rw [signAt_length_iff]
  rintro ⟨minus, -⟩
  exact ne_of_blank blank (by decide) minus

theorem signAt_behind_iff (blank : isBlank w = true) (outside : Even (front.count '"')) :
    SignAt (front ++ w :: back) (front.length + 1 + i) ↔ SignAt back i := by
  have here : (front ++ w :: back)[front.length + 1 + i]? = back[i]? := by
    rw [List.getElem?_append_right (by omega), show front.length + 1 + i - front.length = i + 1 by omega]
    rfl
  have read : (front ++ w :: back).take (front.length + 1 + i) = front ++ w :: back.take i := by
    rw [Nat.add_assoc, List.take_length_add_append, Nat.add_comm 1, List.take_succ_cons]
  constructor
  · rintro ⟨minus, fresh⟩
    rw [read] at fresh
    exact ⟨here ▸ minus, (fresh_behind_iff blank outside).1 fresh⟩
  · rintro ⟨minus, fresh⟩
    refine ⟨here.symm ▸ minus, ?_⟩
    rw [read]
    exact (fresh_behind_iff blank outside).2 fresh

/-- A blank behind a text is as good as its end. -/
theorem DanglesAt.beside (blank : isBlank w = true) (dangles : DanglesAt front i) :
    DanglesAt (front ++ w :: back) i := by
  have early := dangles.sign.lt_length
  refine ⟨(signAt_before_iff early).2 dangles.sign, fun c there => ?_⟩
  rcases Nat.lt_or_ge (i + 1) front.length with inside | last
  · rw [List.getElem?_append_left inside] at there
    exact dangles.alone c there
  · have end_of_front : i + 1 = front.length := Nat.le_antisymm early last
    rw [end_of_front] at there
    obtain rfl : w = c := by simpa using there
    exact blank

/-- A text that can be read can be read on both sides of a blank outside quotes. -/
theorem exists_tokenize_of_seam (blank : isBlank w = true) (outside : Even (front.count '"')) {tokens : List Token}
    (read : tokenize (front ++ w :: back) = .ok tokens) :
    ∃ first later, tokenize front = .ok first ∧ tokenize back = .ok later ∧ first ++ later = tokens := by
  obtain ⟨-, clear⟩ := exists_tokenize_iff.1 ⟨tokens, read⟩
  obtain ⟨first, before⟩ := exists_tokenize_iff.2 ⟨outside, fun i dangles => clear i (dangles.beside blank)⟩
  rw [tokenize_beside blank before] at read
  obtain ⟨later, behind, joined⟩ := exists_of_map_eq_ok read
  refine ⟨first, later, before, ?_, joined⟩
  cases alone : tokenize back with
  | error e =>
    rw [alone] at behind
    cases behind
  | ok later' =>
    rw [alone] at behind
    exact behind

theorem tokenize_seam (blank : isBlank w = true) {first later : List Token} (before : tokenize front = .ok first)
    (behind : tokenize back = .ok later) : tokenize (front ++ w :: back) = .ok (first ++ later) := by
  rw [tokenize_beside blank before, behind]
  rfl

end

namespace Place

/-- The token that is being read. -/
def draft? : Place → Option Draft
  | .between => none
  | .inToken draft => some draft
  | .inQuotes draft _ => some draft

end Place

theorem Draft.negated_push (d : Draft) (c : Char) : (d.push c).negated = d.negated := by
  unfold push
  split <;> rfl

theorem Draft.negated_pushUnquoted (d : Draft) (c : Char) : (d.pushUnquoted c).negated = d.negated := by
  unfold pushUnquoted
  split
  · rfl
  · exact d.negated_push c

/-- What holds of the draft of a token and the part of its word that has been read goes on to hold with every character
that follows. -/
structure Draft.Carried (holds : List Char → Draft → Prop) : Prop where
  quote : ∀ {before d}, holds before d → holds (before ++ ['"']) d
  quoted : ∀ {before d c}, c ≠ '"' → Odd (before.count '"') → holds before d → holds (before ++ [c]) (d.push c)
  unquoted : ∀ {before d c}, c ≠ '"' → Even (before.count '"') → holds before d →
    holds (before ++ [c]) (d.pushUnquoted c)

theorem Draft.carried_true : Draft.Carried fun _ _ => True :=
  ⟨fun _ => trivial, fun _ _ _ => trivial, fun _ _ _ => trivial⟩

section
variable {holds : List Char → Draft → Prop} {place next : Place} {before rest : List Char} {c : Char} {d : Draft}
  {out tokens : List Token}

theorem Draft.Carried.read (carried : Draft.Carried holds) (outside : Even (before.count '"')) (held : holds before d)
    (column : Nat) : ∃ d', (d.read column c).draft? = some d' ∧ holds (before ++ [c]) d' := by
  unfold Draft.read
  split
  · next quote =>
    subst quote
    exact ⟨d, rfl, carried.quote held⟩
  · next other => exact ⟨_, rfl, carried.unquoted other outside held⟩

/-- Within a word the reader stays with the token that it has begun. -/
theorem Place.Follows.stays (follows : place.Follows before) (carried : Draft.Carried holds)
    (word : IsWord (before ++ c :: rest)) (begun : place.draft? = some d) (held : holds before d) {gap : Bool}
    (stepped : place.step before.length c gap = .ok (out, next)) :
    out = [] ∧ ∃ d', next.draft? = some d' ∧ holds (before ++ [c]) d' := by
  unfold Place.step at stepped
  cases follows with
  | between fresh => cases begun
  | inToken draft outside =>
    obtain rfl := Option.some.inj begun
    dsimp only at stepped
    split at stepped
    · next blank => exact absurd outside (Nat.not_even_iff_odd.2 (word _ _ _ rfl blank))
    · obtain ⟨rfl, rfl⟩ := Prod.mk.inj (Except.ok.inj stepped)
      exact ⟨rfl, carried.read outside held _⟩
  | inQuotes draft outside opened =>
    obtain rfl := Option.some.inj begun
    dsimp only at stepped
    split at stepped
    · next quote =>
      subst quote
      obtain ⟨rfl, rfl⟩ := Prod.mk.inj (Except.ok.inj stepped)
      exact ⟨rfl, _, rfl, carried.quote held⟩
    · next other =>
      obtain ⟨rfl, rfl⟩ := Prod.mk.inj (Except.ok.inj stepped)
      refine ⟨rfl, _, rfl, carried.quoted other ?_ held⟩
      rw [count_inQuotes opened]
      exact outside.add_one

/-- The rest of a word belongs to the token that was begun in it. -/
theorem Place.Follows.exists_draft (follows : place.Follows before) (carried : Draft.Carried holds)
    (word : IsWord (before ++ rest)) (begun : place.draft? = some d) (held : holds before d)
    (read : scan place before.length rest = .ok tokens) : ∃ d' : Draft, d'.tokens = tokens ∧ holds (before ++ rest) d' := by
  induction rest generalizing before place d tokens with
  | nil =>
    rw [scan_nil] at read
    rw [List.append_nil]
    cases place with
    | between => cases begun
    | inToken draft =>
      obtain rfl := Option.some.inj begun
      exact ⟨draft, Except.ok.inj read, held⟩
    | inQuotes draft opened => cases read
  | cons c rest ih =>
    obtain ⟨out, next, more, stepped, behind, rfl⟩ := exists_step_of_scan read
    obtain ⟨rfl, d', begun', held'⟩ := follows.stays carried word begun held stepped
    have word' : IsWord ((before ++ [c]) ++ rest) := by simpa using word
    obtain ⟨d'', whole, held''⟩ := ih (follows.step stepped) word' begun' held' (by simpa using behind)
    exact ⟨d'', whole, by simpa using held''⟩

/-- A word is read as one token at most. What holds at its start, where the sign is, and is carried on holds of it. -/
theorem exists_draft_of_word {cs : List Char} (word : IsWord cs) (carried : Draft.Carried holds)
    (minus : cs.head? = some '-' → holds ['-'] { negated := true }) (plain : cs.head? ≠ some '-' → holds [] {})
    (read : tokenize cs = .ok tokens) : ∃ d : Draft, d.tokens = tokens ∧ holds cs d := by
  cases cs with
  | nil =>
    obtain rfl : [] = tokens := Except.ok.inj read
    exact ⟨{}, rfl, plain (by simp)⟩
  | cons c rest =>
    have filled : isBlank c = false := by
      rw [Bool.eq_false_iff]
      intro blank
      exact absurd (word [] c rest rfl blank) (by decide)
    have first : Place.between.Follows [] := .between fresh_nil
    obtain ⟨out, next, more, stepped, behind, rfl⟩ := exists_step_of_scan read
    have follows := first.step stepped
    unfold Place.step at stepped
    dsimp only at stepped
    rw [if_neg (Bool.eq_false_iff.1 filled)] at stepped
    split at stepped
    · next sign =>
      split at stepped
      · cases stepped
      · obtain ⟨rfl, rfl⟩ := Prod.mk.inj (Except.ok.inj stepped)
        subst sign
        exact follows.exists_draft carried word rfl (minus rfl) behind
    · next other =>
      obtain ⟨rfl, rfl⟩ := Prod.mk.inj (Except.ok.inj stepped)
      obtain ⟨d', begun, held⟩ := carried.read (c := c) (by decide) (plain (by simpa using other)) 0
      exact follows.exists_draft carried word begun held behind

/-- The token of a word is negated just if the word starts with a minus. -/
theorem negated_of_word {cs : List Char} (word : IsWord cs) (read : tokenize cs = .ok tokens) :
    ∃ d : Draft, d.tokens = tokens ∧ (d.negated = true ↔ cs.head? = some '-') := by
  have carried : Draft.Carried fun _ d => d.negated = true ↔ cs.head? = some '-' := by
    refine ⟨id, fun _ _ same => ?_, fun _ _ same => ?_⟩
    · rwa [Draft.negated_push]
    · rwa [Draft.negated_pushUnquoted]
  exact exists_draft_of_word word carried (fun sign => by simp [sign]) (fun other => by simp [other]) read

theorem Draft.length_tokens_le (d : Draft) : d.tokens.length ≤ 1 := by
  unfold tokens
  split
  · exact Nat.zero_le 1
  · exact Nat.le_refl 1

end

/-- The place of a token in a text that can be read: it has a word of its own, and what stands before the word is read as
the tokens before it. -/
structure HasWord (cs : List Char) (first : List Token) (t : Token) (front word back : List Char) : Prop where
  whole : cs = front ++ word ++ back
  fresh : Fresh front
  isWord : IsWord word
  ends : atGap back = true
  before : tokenize front = .ok first
  alone : tokenize word = .ok [t]

/-- A member of a list that is put together from two stands in one of them. -/
theorem side_of_append {α : Type} {left right first later : List α} {a : α}
    (joined : left ++ right = first ++ a :: later) :
    (∃ inner, first = left ++ inner ∧ right = inner ++ a :: later) ∨
      ∃ inner, left = first ++ a :: inner ∧ later = inner ++ right := by
  rcases List.append_eq_append_iff.1 joined with ⟨inner, first_eq, right_eq⟩ | ⟨inner, left_eq, same⟩
  · exact .inl ⟨inner, first_eq, right_eq⟩
  · rcases List.cons_eq_append_iff.1 same with ⟨rfl, right_eq⟩ | ⟨inner', rfl, later_eq⟩
    · exact .inl ⟨[], by rw [left_eq, List.append_nil, List.append_nil], right_eq⟩
    · exact .inr ⟨inner', left_eq, later_eq⟩

/-- Every token of a text that can be read has a word. -/
theorem exists_word_of_tokenize {cs : List Char} {first later : List Token} {t : Token}
    (read : tokenize cs = .ok (first ++ t :: later)) : ∃ front word back, HasWord cs first t front word back := by
  induction cs using words_induction generalizing first later with
  | word cs word =>
    obtain ⟨d, whole, -⟩ := negated_of_word word read
    have short := d.length_tokens_le
    rw [whole, List.length_append, List.length_cons] at short
    obtain rfl : first = [] := List.length_eq_zero_iff.1 (by omega)
    obtain rfl : later = [] := List.length_eq_zero_iff.1 (by omega)
    exact ⟨[], cs, [], by simp, fresh_nil, word, rfl, rfl, read⟩
  | seam front w back blank outside before behind =>
    obtain ⟨left, right, readLeft, readRight, joined⟩ := exists_tokenize_of_seam blank outside read
    rcases side_of_append joined with ⟨inner, rfl, same⟩ | ⟨inner, same, rfl⟩
    · rw [same] at readRight
      obtain ⟨front', word, back', found⟩ := behind readRight
      refine ⟨front ++ w :: front', word, back', by simp [found.whole], ?_, found.isWord, found.ends, ?_, found.alone⟩
      · exact (fresh_behind_iff blank outside).2 found.fresh
      · exact tokenize_seam blank readLeft found.before
    · rw [same] at readLeft
      obtain ⟨front', word, back', found⟩ := before readLeft
      refine ⟨front', word, back' ++ w :: back, by simp [found.whole], found.fresh, found.isWord, ?_, found.before,
        found.alone⟩
      rw [atGap_beside blank]
      exact found.ends

end StickerBook.Token
