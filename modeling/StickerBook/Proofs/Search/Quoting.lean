import Mathlib.Algebra.Ring.Parity
import StickerBook.Proofs.Search.Step

/-!
# Where a search text is refused

Whether a place of a text is in quotes depends on the number of quotes before it alone, so the place at which a scan is
refused can be told without a scan. A minus dangles if it starts a token outside quotes and nothing but a gap follows it
(`DanglesAt`). A scan is refused at the first dangling minus (`tokenize_eq_dangling_iff`). If there is none, it is refused
at the last quote if the number of quotes is odd (`tokenize_eq_unterminated_iff`), and succeeds if it is even
(`exists_tokenize_iff`).
-/

namespace StickerBook.Token
set_option autoImplicit false
open Text (isBlank)

/-- A token can start behind this part of a text: the part ends outside quotes, and it is empty or ends with a blank. -/
structure Fresh (before : List Char) : Prop where
  outside : Even (before.count '"')
  edge : ∀ c ∈ before.getLast?, isBlank c = true

/-- At this place of a text a minus starts a token. -/
structure SignAt (cs : List Char) (i : Nat) : Prop where
  minus : cs[i]? = some '-'
  fresh : Fresh (cs.take i)

/-- The minus at this place stands alone: the text ends behind it or goes on with a blank. -/
structure DanglesAt (cs : List Char) (i : Nat) : Prop where
  sign : SignAt cs i
  alone : ∀ c ∈ cs[i + 1]?, isBlank c = true

/-- The last quote of a text is at this place. -/
structure LastQuoteAt (cs : List Char) (i : Nat) : Prop where
  quote : cs[i]? = some '"'
  last : '"' ∉ cs.drop (i + 1)

instance (before : List Char) : Decidable (Fresh before) :=
  decidable_of_iff (Even (before.count '"') ∧ before.getLast?.all isBlank = true)
    ⟨fun h => ⟨h.1, (Option.all_eq_true _ _).1 h.2⟩, fun h => ⟨h.outside, (Option.all_eq_true _ _).2 h.edge⟩⟩

instance (cs : List Char) (i : Nat) : Decidable (SignAt cs i) :=
  decidable_of_iff (cs[i]? = some '-' ∧ Fresh (cs.take i)) ⟨fun h => ⟨h.1, h.2⟩, fun h => ⟨h.minus, h.fresh⟩⟩

section
variable {before rest : List Char} {c : Char}

theorem fresh_nil : Fresh [] := ⟨Even.zero, fun _ none => nomatch none⟩

theorem even_count_concat (other : c ≠ '"') : Even ((before ++ [c]).count '"') ↔ Even (before.count '"') := by
  simp [other]

/-- Behind a blank outside quotes a token can start. -/
theorem fresh_concat_iff : Fresh (before ++ [c]) ↔ isBlank c = true ∧ Even (before.count '"') := by
  have plain (blank : isBlank c = true) : c ≠ '"' := by
    rintro rfl
    exact absurd blank (by decide)
  constructor
  · intro fresh
    have blank := fresh.edge c (by simp)
    exact ⟨blank, (even_count_concat (plain blank)).1 fresh.outside⟩
  · rintro ⟨blank, outside⟩
    refine ⟨(even_count_concat (plain blank)).2 outside, fun c' last => ?_⟩
    obtain rfl : c = c' := by simpa using last
    exact blank

theorem atGap_iff {cs : List Char} : atGap cs = true ↔ ∀ c ∈ cs.head?, isBlank c = true := by
  cases cs with
  | nil => simp [atGap]
  | cons c rest => simp [atGap]

theorem signAt_length_iff : SignAt (before ++ c :: rest) before.length ↔ c = '-' ∧ Fresh before := by
  constructor
  · rintro ⟨minus, fresh⟩
    rw [List.take_left] at fresh
    exact ⟨by simpa using minus, fresh⟩
  · rintro ⟨rfl, fresh⟩
    refine ⟨by simp, ?_⟩
    rw [List.take_left]
    exact fresh

theorem danglesAt_length_iff :
    DanglesAt (before ++ c :: rest) before.length ↔ (c = '-' ∧ Fresh before) ∧ atGap rest = true := by
  have behind : (before ++ c :: rest)[before.length + 1]? = rest.head? := by
    rw [List.getElem?_append_right (Nat.le_add_right _ 1), Nat.add_sub_cancel_left]
    exact List.head?_eq_getElem?.symm
  rw [atGap_iff, ← behind, ← signAt_length_iff]
  exact ⟨fun h => ⟨h.sign, h.alone⟩, fun h => ⟨h.1, h.2⟩⟩

theorem SignAt.lt_length {cs : List Char} {i : Nat} (sign : SignAt cs i) : i < cs.length :=
  (List.getElem?_eq_some_iff.1 sign.minus).1

end

/-- Where a reader can stand that has read this part of a text. Outside quotes it is in a token just if the last
character is not a blank, and in quotes it remembers where they were opened. -/
inductive Place.Follows : List Char → Place → Prop
  | between {before : List Char} (fresh : Fresh before) : Follows before .between
  | inToken {before : List Char} {c : Char} (draft : Draft) (outside : Even ((before ++ [c]).count '"'))
      (filled : isBlank c = false) : Follows (before ++ [c]) (.inToken draft)
  | inQuotes {before inner : List Char} (draft : Draft) (outside : Even (before.count '"')) (opened : '"' ∉ inner) :
      Follows (before ++ '"' :: inner) (.inQuotes draft before.length)

namespace Place.Follows
variable {place next : Place} {before rest : List Char} {c : Char} {out : List Token}

theorem count_inQuotes {front inner : List Char} (opened : '"' ∉ inner) :
    (front ++ '"' :: inner).count '"' = front.count '"' + 1 := by
  simp [List.count_eq_zero_of_not_mem opened]

/-- A token can start exactly where the reader stands between tokens. -/
theorem fresh_iff (follows : Follows before place) : Fresh before ↔ place = .between := by
  cases follows with
  | between fresh => exact iff_of_true fresh rfl
  | inToken draft outside filled =>
    refine iff_of_false (fun fresh => ?_) nofun
    have blank := (fresh_concat_iff.1 fresh).1
    rw [filled] at blank
    cases blank
  | inQuotes draft outside opened =>
    refine iff_of_false (fun fresh => ?_) nofun
    have even := fresh.outside
    rw [count_inQuotes opened] at even
    exact Nat.not_even_iff_odd.2 outside.add_one even

/-- An unquoted character that is not blank leads into a token or into quotes. -/
theorem read (d : Draft) (outside : Even (before.count '"')) (filled : isBlank c = false) :
    Follows (before ++ [c]) (d.read before.length c) := by
  unfold Draft.read
  split
  · next quote =>
    rw [quote]
    exact .inQuotes d outside List.not_mem_nil
  · next other => exact .inToken _ ((even_count_concat other).2 outside) filled

/-- A step that is not refused leads to a place that fits what was read. -/
theorem step {gap : Bool} (follows : Follows before place)
    (stepped : place.step before.length c gap = .ok (out, next)) : Follows (before ++ [c]) next := by
  unfold Place.step at stepped
  cases follows with
  | between fresh =>
    dsimp only at stepped
    split at stepped
    · next blank =>
      obtain ⟨-, rfl⟩ := Prod.mk.inj (Except.ok.inj stepped)
      exact .between (fresh_concat_iff.2 ⟨blank, fresh.outside⟩)
    · next filled =>
      have filled : isBlank c = false := Bool.eq_false_iff.2 filled
      split at stepped
      · next minus =>
        split at stepped
        · cases stepped
        · obtain ⟨-, rfl⟩ := Prod.mk.inj (Except.ok.inj stepped)
          have other : c ≠ '"' := by
            rw [minus]
            decide
          exact .inToken _ ((even_count_concat other).2 fresh.outside) filled
      · obtain ⟨-, rfl⟩ := Prod.mk.inj (Except.ok.inj stepped)
        exact .read _ fresh.outside filled
  | inToken draft outside =>
    dsimp only at stepped
    split at stepped
    · next blank =>
      obtain ⟨-, rfl⟩ := Prod.mk.inj (Except.ok.inj stepped)
      exact .between (fresh_concat_iff.2 ⟨blank, outside⟩)
    · next filled =>
      obtain ⟨-, rfl⟩ := Prod.mk.inj (Except.ok.inj stepped)
      exact .read _ outside (Bool.eq_false_iff.2 filled)
  | @inQuotes front inner draft outside opened =>
    dsimp only at stepped
    split at stepped
    · next quote =>
      obtain ⟨-, rfl⟩ := Prod.mk.inj (Except.ok.inj stepped)
      refine .inToken _ ?_ (by rw [quote]; decide)
      rw [quote, List.count_append, count_inQuotes opened]
      exact outside.add (by decide : Even 2)
    · next other =>
      obtain ⟨-, rfl⟩ := Prod.mk.inj (Except.ok.inj stepped)
      rw [List.append_assoc, List.cons_append]
      exact .inQuotes _ outside (by simpa using ⟨opened, Ne.symm other⟩)

/-- A step is refused exactly at a dangling minus. -/
theorem step_eq_error_iff (follows : Follows before place) {e : SearchError} :
    place.step before.length c (atGap rest) = .error e ↔
      e = .danglingNegation before.length ∧ DanglesAt (before ++ c :: rest) before.length := by
  rw [danglesAt_length_iff, follows.fresh_iff]
  unfold Place.step
  cases place with
  | between =>
    dsimp only
    split
    · next blank =>
      have other : c ≠ '-' := by
        rintro rfl
        exact absurd blank (by decide)
      simp [other]
    · split
      · next minus =>
        cases atGap rest with
        | true => simp [minus, eq_comm]
        | false => simp
      · next other => simp [other]
  | inToken draft =>
    dsimp only
    split <;> simp
  | inQuotes draft opened =>
    dsimp only
    split <;> simp

end Place.Follows

/-- What a text is like whose scan has this outcome. -/
def Explains (cs : List Char) : Except SearchError (List Token) → Prop
  | .ok _ => Even (cs.count '"') ∧ ∀ i, ¬DanglesAt cs i
  | .error (.danglingNegation i) => DanglesAt cs i ∧ ∀ j < i, ¬DanglesAt cs j
  | .error (.unterminatedQuote i) => Odd (cs.count '"') ∧ LastQuoteAt cs i ∧ ∀ j, ¬DanglesAt cs j
  | .error _ => False

theorem explains_map {cs : List Char} {result : Except SearchError (List Token)} (f : List Token → List Token) :
    Explains cs (result.map f) ↔ Explains cs result := by
  cases result <;> rfl

/-- The end of the text is refused in quotes alone, at the place where they were opened. -/
theorem Place.Follows.explains_finish {cs : List Char} {place : Place} (follows : Follows cs place)
    (clear : ∀ i, ¬DanglesAt cs i) : Explains cs place.finish := by
  cases follows with
  | between fresh => exact ⟨fresh.outside, clear⟩
  | inToken draft outside => exact ⟨outside, clear⟩
  | @inQuotes front inner draft outside opened =>
    refine ⟨?_, ⟨by simp, ?_⟩, clear⟩
    · rw [count_inQuotes opened]
      exact outside.add_one
    · rw [List.drop_append, List.drop_eq_nil_of_le (Nat.le_succ _)]
      simpa using opened

/-- The rest of a text is scanned to the outcome that fits the whole text, if no minus dangles in what was read. -/
theorem explains_scan {place : Place} {before : List Char} (rest : List Char) (follows : place.Follows before)
    (clear : ∀ i < before.length, ¬DanglesAt (before ++ rest) i) :
    Explains (before ++ rest) (scan place before.length rest) := by
  induction rest generalizing place before with
  | nil =>
    rw [List.append_nil] at clear ⊢
    rw [scan_nil]
    exact follows.explains_finish fun i dangles => clear i dangles.sign.lt_length dangles
  | cons c rest ih =>
    rw [scan_cons]
    cases stepped : place.step before.length c (atGap rest) with
    | error e =>
      obtain ⟨rfl, dangles⟩ := follows.step_eq_error_iff.1 stepped
      exact ⟨dangles, clear⟩
    | ok result =>
      obtain ⟨out, next⟩ := result
      have here : ¬DanglesAt (before ++ c :: rest) before.length := by
        intro dangles
        cases stepped.symm.trans (follows.step_eq_error_iff.2 ⟨rfl, dangles⟩)
      have behind := ih (follows.step stepped) (by
        intro i early
        rw [List.append_assoc, List.singleton_append]
        rw [List.length_append, List.length_singleton] at early
        rcases Nat.lt_succ_iff_lt_or_eq.1 early with before | rfl
        · exact clear i before
        · exact here)
      rw [List.append_assoc, List.singleton_append, List.length_append, List.length_singleton] at behind
      exact (explains_map _).2 behind

/-- The outcome of reading a text fits the text. -/
theorem explains_tokenize (cs : List Char) : Explains cs (tokenize cs) :=
  explains_scan cs (.between fresh_nil) fun _ none => absurd none (Nat.not_lt_zero _)

section
variable {cs : List Char} {i : Nat}

theorem LastQuoteAt.unique {j : Nat} (here : LastQuoteAt cs i) (there : LastQuoteAt cs j) : i = j := by
  have not_before {i j : Nat} (here : LastQuoteAt cs i) (there : LastQuoteAt cs j) : ¬i < j := by
    intro early
    obtain ⟨within, quote⟩ := List.getElem?_eq_some_iff.1 there.quote
    apply here.last
    rw [List.mem_drop_iff_getElem]
    exact ⟨j - (i + 1), by omega, by simpa [show i + 1 + (j - (i + 1)) = j by omega] using quote⟩
  rcases Nat.lt_trichotomy i j with early | same | late
  · exact absurd early (not_before here there)
  · exact same
  · exact absurd late (not_before there here)

/-- A text that explains a refusal explains no other outcome. -/
theorem Explains.unique {e : SearchError} {result : Except SearchError (List Token)} (refusal : Explains cs (.error e))
    (other : Explains cs result) : result = .error e := by
  cases e with
  | unsortable | invalidOrder | invalidDate | invalidKind => exact refusal.elim
  | danglingNegation i =>
    obtain ⟨dangles, first⟩ := refusal
    cases result with
    | ok tokens => exact absurd dangles (other.2 i)
    | error e' =>
      cases e' with
      | unterminatedQuote => exact absurd dangles (other.2.2 i)
      | unsortable | invalidOrder | invalidDate | invalidKind => exact other.elim
      | danglingNegation j =>
        obtain ⟨dangles', first'⟩ := other
        rcases Nat.lt_trichotomy i j with early | rfl | late
        · exact absurd dangles (first' i early)
        · rfl
        · exact absurd dangles' (first j late)
  | unterminatedQuote i =>
    obtain ⟨odd, last, clear⟩ := refusal
    cases result with
    | ok tokens => exact absurd other.1 (Nat.not_even_iff_odd.2 odd)
    | error e' =>
      cases e' with
      | danglingNegation j => exact absurd other.1 (clear j)
      | unterminatedQuote j => rw [last.unique other.2.1]
      | unsortable | invalidOrder | invalidDate | invalidKind => exact other.elim

theorem tokenize_eq_error_iff {e : SearchError} : tokenize cs = .error e ↔ Explains cs (.error e) := by
  constructor
  · intro refused
    rw [← refused]
    exact explains_tokenize cs
  · intro refusal
    exact refusal.unique (explains_tokenize cs)

/-- A text is refused at its first dangling minus, whatever else is wrong with it. -/
theorem tokenize_eq_dangling_iff :
    tokenize cs = .error (.danglingNegation i) ↔ DanglesAt cs i ∧ ∀ j < i, ¬DanglesAt cs j :=
  tokenize_eq_error_iff

/-- A text in which no minus dangles is refused at its last quote if it has an odd number of them. -/
theorem tokenize_eq_unterminated_iff : tokenize cs = .error (.unterminatedQuote i) ↔
    Odd (cs.count '"') ∧ LastQuoteAt cs i ∧ ∀ j, ¬DanglesAt cs j :=
  tokenize_eq_error_iff

/-- Nothing else is refused before the values are looked at. -/
theorem exists_tokenize_iff : (∃ tokens, tokenize cs = .ok tokens) ↔ Even (cs.count '"') ∧ ∀ i, ¬DanglesAt cs i := by
  have explained := explains_tokenize cs
  constructor
  · rintro ⟨tokens, read⟩
    rw [read] at explained
    exact explained
  · rintro ⟨even, clear⟩
    cases outcome : tokenize cs with
    | ok tokens => exact ⟨tokens, rfl⟩
    | error e =>
      rw [outcome] at explained
      cases e with
      | danglingNegation j => exact absurd explained.1 (clear j)
      | unterminatedQuote column => exact absurd even (Nat.not_even_iff_odd.2 explained.1)
      | unsortable | invalidOrder | invalidDate | invalidKind => exact explained.elim

end

end StickerBook.Token
