import Mathlib.Data.Nat.Count
import StickerBook.Proofs.Search.Negation
import StickerBook.Proofs.Search.Refusal

/-!
# What becomes of a sign

A minus that starts a token negates the filter that the token stands for. A token without text stands for no filter, and
its minus is lost with it (`sign_lost_in_quotes`). That happens only if nothing but empty quotes follows the minus; with a
gap behind it the minus is an error (`Search.accountsForSigns_parse`).
-/

namespace StickerBook
set_option autoImplicit false
open Text (isBlank)

namespace Token

/-- The minus at this place starts a token without text: only empty quotes come before the next gap. -/
structure HollowAt (cs : List Char) (i : Nat) : Prop where
  sign : SignAt cs i
  empty : atGap (dropEmptyQuotes (cs.drop (i + 1))) = true

instance (cs : List Char) (i : Nat) : Decidable (HollowAt cs i) :=
  decidable_of_iff (SignAt cs i ∧ atGap (dropEmptyQuotes (cs.drop (i + 1))) = true)
    ⟨fun h => ⟨h.1, h.2⟩, fun h => ⟨h.sign, h.empty⟩⟩

/-- The number of minus signs that start a token. -/
def signs (cs : List Char) : Nat := Nat.count (SignAt cs) cs.length

/-- The number of minus signs that start a token without text. -/
def hollowSigns (cs : List Char) : Nat := Nat.count (HollowAt cs) cs.length

/-- Whether a place has the property depends only on what is between the same two blanks outside quotes. -/
structure IsLocal (p : List Char → Nat → Prop) : Prop where
  before : ∀ {front w back i}, isBlank w = true → i < front.length → (p (front ++ w :: back) i ↔ p front i)
  seam : ∀ {front w back}, isBlank w = true → ¬p (front ++ w :: back) front.length
  behind : ∀ {front w back i}, isBlank w = true → Even (front.count '"') →
    (p (front ++ w :: back) (front.length + 1 + i) ↔ p back i)

section
variable {front back : List Char} {w : Char}

theorem count_congr {p q : Nat → Prop} [DecidablePred p] [DecidablePred q] {n : Nat} (same : ∀ i < n, p i ↔ q i) :
    Nat.count p n = Nat.count q n :=
  Nat.le_antisymm (Nat.count_mono_left fun i early => (same i early).1)
    (Nat.count_mono_left fun i early => (same i early).2)

/-- Places with a local property are counted on both sides of a blank. -/
theorem IsLocal.count_seam {p : List Char → Nat → Prop} [∀ cs, DecidablePred (p cs)] (isLocal : IsLocal p)
    (blank : isBlank w = true) (outside : Even (front.count '"')) :
    Nat.count (p (front ++ w :: back)) (front ++ w :: back).length
      = Nat.count (p front) front.length + Nat.count (p back) back.length := by
  have length : (front ++ w :: back).length = front.length + 1 + back.length := by simp; omega
  rw [length, Nat.count_add, Nat.count_succ, if_neg (isLocal.seam blank), Nat.add_zero]
  congr 1
  · exact count_congr fun i early => isLocal.before blank early
  · exact count_congr fun i _ => isLocal.behind blank outside

theorem isLocal_signAt : IsLocal SignAt where
  before _ := signAt_before_iff
  seam := not_signAt_seam
  behind := signAt_behind_iff

/-- Empty quotes are dropped up to a blank. -/
theorem dropEmptyQuotes_beside (blank : isBlank w = true) (cs : List Char) :
    dropEmptyQuotes (cs ++ w :: back) = dropEmptyQuotes cs ++ w :: back := by
  have plain : w ≠ '"' := ne_of_blank blank (by decide)
  fun_induction dropEmptyQuotes cs with
  | case1 rest ih => exact ih
  | case2 cs other =>
    rw [dropEmptyQuotes]
    intro rest same
    -- the two quotes would have to stand before the blank
    cases cs with
    | nil => exact plain (List.head_eq_of_cons_eq same)
    | cons c cs =>
      obtain rfl := List.head_eq_of_cons_eq same
      cases cs with
      | nil => exact plain (List.head_eq_of_cons_eq (List.tail_eq_of_cons_eq same))
      | cons c' cs =>
        obtain rfl := List.head_eq_of_cons_eq (List.tail_eq_of_cons_eq same)
        exact other cs rfl

theorem isLocal_hollowAt : IsLocal HollowAt where
  before := by
    intro front w back i blank early
    have rest : (front ++ w :: back).drop (i + 1) = front.drop (i + 1) ++ w :: back :=
      List.drop_append_of_le_length early
    have empty : atGap (dropEmptyQuotes ((front ++ w :: back).drop (i + 1)))
        = atGap (dropEmptyQuotes (front.drop (i + 1))) := by
      rw [rest, dropEmptyQuotes_beside blank, atGap_beside blank]
    constructor
    · rintro ⟨sign, hollow⟩
      exact ⟨(signAt_before_iff early).1 sign, empty ▸ hollow⟩
    · rintro ⟨sign, hollow⟩
      exact ⟨(signAt_before_iff early).2 sign, empty ▸ hollow⟩
  seam blank := fun hollow => not_signAt_seam blank hollow.sign
  behind := by
    intro front w back i blank outside
    have rest : (front ++ w :: back).drop (front.length + 1 + i + 1) = back.drop (i + 1) := by
      rw [Nat.add_assoc, Nat.add_assoc, List.drop_length_add_append, Nat.add_comm 1, List.drop_succ_cons]
    constructor
    · rintro ⟨sign, hollow⟩
      exact ⟨(signAt_behind_iff blank outside).1 sign, rest ▸ hollow⟩
    · rintro ⟨sign, hollow⟩
      exact ⟨(signAt_behind_iff blank outside).2 sign, rest.symm ▸ hollow⟩

end

section
variable {cs rest : List Char} {tokens : List Token} {i : Nat}

theorem signAt_zero_iff : SignAt cs 0 ↔ cs.head? = some '-' := by
  constructor
  · intro sign
    rw [List.head?_eq_getElem?]
    exact sign.minus
  · intro minus
    exact ⟨List.head?_eq_getElem?.symm.trans minus, fresh_nil⟩

/-- A word has a sign at its start alone. -/
theorem SignAt.eq_zero (sign : SignAt cs i) (word : IsWord cs) : i = 0 := by
  rcases List.eq_nil_or_concat (cs.take i) with none | ⟨front, w, before⟩
  · rcases List.take_eq_nil_iff.1 none with start | rfl
    · exact start
    · cases sign.minus
  · have fresh := sign.fresh
    rw [before, List.concat_eq_append] at fresh
    obtain ⟨blank, outside⟩ := fresh_concat_iff.1 fresh
    have whole : cs = front ++ w :: cs.drop i := by
      rw [← List.singleton_append, ← List.append_assoc, ← List.concat_eq_append, ← before, List.take_append_drop]
    exact absurd outside (Nat.not_even_iff_odd.2 (word front w _ whole blank))

/-- So at most one place of a word has a property that only signs have. -/
theorem count_word {p : Nat → Prop} [DecidablePred p] (word : IsWord cs) (sign : ∀ i, p i → SignAt cs i) :
    Nat.count p cs.length = if p 0 then 1 else 0 := by
  cases cs with
  | nil =>
    have none : ¬p 0 := fun here => absurd (sign 0 here).lt_length (Nat.lt_irrefl 0)
    rw [if_neg none]
    exact Nat.count_zero p
  | cons c rest =>
    have none : Nat.count (fun k => p (k + 1)) rest.length = 0 :=
      Nat.count_iff_forall_not.2 fun k _ later => absurd ((sign _ later).eq_zero word) (Nat.succ_ne_zero k)
    rw [List.length_cons, Nat.count_succ', none, Nat.zero_add]

theorem Draft.negated_of_mem_tokens {d : Draft} {t : Token} (member : t ∈ d.tokens) : t.negated = d.negated := by
  unfold tokens at member
  split at member
  · cases member
  · rw [List.mem_singleton.1 member]

/-- A sign before a word is lost exactly if the word has no text. -/
theorem countP_negated_minus (word : IsWord ('-' :: rest)) (read : tokenize ('-' :: rest) = .ok tokens) :
    tokens.countP (·.negated) + (if atGap (dropEmptyQuotes rest) = true then 1 else 0) = 1 := by
  have inner : atGap rest = false := by
    rw [Bool.eq_false_iff]
    intro gap
    have dangles : DanglesAt ([] ++ '-' :: rest) 0 := danglesAt_length_iff.2 ⟨⟨rfl, fresh_nil⟩, gap⟩
    exact (exists_tokenize_iff.1 ⟨tokens, read⟩).2 0 dangles
  rw [tokenize_minus inner] at read
  obtain ⟨letters, more, reads, empty⟩ := (uniform rest).inToken _ _ _ read
  -- a token with text of its own takes all of the word, so nothing is read behind it
  obtain rfl : more = [] := by
    let filled : Draft := { head := ['-'] }
    have begun : Place.Follows ([] ++ ['-']) (.inToken filled) := .inToken filled (by decide) (by decide)
    obtain ⟨d, whole, -⟩ := begun.exists_draft Draft.carried_true word rfl trivial (reads filled _)
    have short := d.length_tokens_le
    rw [whole, Draft.tokens_of_filled (Draft.filled_extend (.inl (.inl (List.cons_ne_nil _ _)))), List.length_append,
      List.length_singleton] at short
    exact List.length_eq_zero_iff.1 (by omega)
  rw [reads, List.append_nil] at read
  obtain rfl := Except.ok.inj read
  by_cases none : letters = []
  · rw [if_pos (empty.1 none), none]
    rfl
  · rw [if_neg fun gap => none (empty.2 gap), Draft.tokens_of_filled (Draft.filled_extend (.inr none)), Draft.extend_sign]
    rfl

/-- The signs of a word that can be read. -/
theorem countP_negated_word (word : IsWord cs) (read : tokenize cs = .ok tokens) :
    tokens.countP (·.negated) + hollowSigns cs = signs cs := by
  unfold hollowSigns signs
  rw [count_word word fun i hollow => hollow.sign, count_word word fun i sign => sign]
  by_cases sign : SignAt cs 0
  · obtain ⟨rest, rfl⟩ : ∃ rest, cs = '-' :: rest := by
      cases cs with
      | nil => cases signAt_zero_iff.1 sign
      | cons c rest => exact ⟨rest, by rw [Option.some.inj (signAt_zero_iff.1 sign)]⟩
    have counted := countP_negated_minus word read
    have hollow : HollowAt ('-' :: rest) 0 ↔ atGap (dropEmptyQuotes rest) = true :=
      ⟨fun h => h.empty, fun empty => ⟨sign, empty⟩⟩
    rw [if_pos sign, if_congr hollow rfl rfl]
    exact counted
  · obtain ⟨d, whole, negated⟩ := negated_of_word word read
    have plain : ∀ t ∈ tokens, ¬t.negated = true := by
      intro t member
      rw [← whole] at member
      rw [Draft.negated_of_mem_tokens member, negated, ← signAt_zero_iff]
      exact sign
    rw [if_neg sign, if_neg fun hollow => sign hollow.sign, List.countP_eq_zero.2 plain]

/-- Every sign of a text that can be read negates a token or is hollow. -/
theorem countP_negated (read : tokenize cs = .ok tokens) :
    tokens.countP (·.negated) + hollowSigns cs = signs cs := by
  induction cs using words_induction generalizing tokens with
  | word cs word => exact countP_negated_word word read
  | seam front w back blank outside before behind =>
    obtain ⟨first, later, readFirst, readLater, rfl⟩ := exists_tokenize_of_seam blank outside read
    have left := before readFirst
    have right := behind readLater
    have signs_seam : signs (front ++ w :: back) = signs front + signs back :=
      isLocal_signAt.count_seam blank outside
    have hollow_seam : hollowSigns (front ++ w :: back) = hollowSigns front + hollowSigns back :=
      isLocal_hollowAt.count_seam blank outside
    rw [signs_seam, hollow_seam, List.countP_append]
    omega

/-- A gap that is not there at once comes behind a pair of quotes. -/
theorem exists_quotes_of_atGap (inner : atGap cs = false) (empty : atGap (dropEmptyQuotes cs) = true) :
    ∃ behind, cs = '"' :: '"' :: behind := by
  unfold dropEmptyQuotes at empty
  split at empty
  · exact ⟨_, rfl⟩
  · rw [inner] at empty
    cases empty

end

end Token

/-- A criterion is negated just if its token is. -/
theorem countP_criteria {tokens : List Token} {cs : List Criterion} (read : criteria tokens = .ok cs) :
    cs.countP (·.negated) = tokens.countP (·.negated) := by
  induction tokens generalizing cs with
  | nil =>
    obtain rfl : [] = cs := Except.ok.inj read
    rfl
  | cons t rest ih =>
    unfold criteria at read
    split at read
    · cases read
    · next c found =>
      obtain ⟨more, behind, rfl⟩ := exists_of_map_eq_ok read
      rw [List.countP_cons, List.countP_cons, ih behind, Token.negated_of_criterion found]

namespace Search
open Token (DanglesAt HollowAt hollowSigns signs)

/-- The number of negated filters of a search. -/
def negations (search : Search) : Nat :=
  search.keywords.countP (·.negated) + search.tags.countP (·.negated) + search.metas.countP (·.negated)

theorem negations_ofCriteria (cs : List Criterion) : (ofCriteria cs).negations = cs.countP (·.negated) := by
  induction cs with
  | nil => rfl
  | cons c rest ih =>
    unfold ofCriteria negations at ih ⊢
    cases c <;> simp only [List.filterMap_cons, List.countP_cons, Criterion.negated] at ih ⊢ <;> omega

/-- What becomes of the minus signs that start a token. -/
structure AccountsForSigns (text : String) : Prop where
  /-- With a gap behind it a sign is refused, unless the text was refused for an earlier one. -/
  dangling : ∀ i, DanglesAt text.toList i → ∃ j ≤ i, parse text = .error (.danglingNegation j)
  /-- In a text that can be read every other sign negates one filter, unless its token has no text. -/
  counted : ∀ search, parse text = .ok search → search.negations + hollowSigns text.toList = signs text.toList
  kept : ∀ search, parse text = .ok search →
    (search.negations = signs text.toList ↔ ∀ i, ¬HollowAt text.toList i)
  /-- A token without text is lost only if there are quotes in it. -/
  hollow : ∀ search, parse text = .ok search → ∀ i, HollowAt text.toList i →
    text.toList[i + 1]? = some '"' ∧ text.toList[i + 2]? = some '"'

theorem negations_add_hollowSigns {text : String} {search : Search} (parsed : parse text = .ok search) :
    search.negations + hollowSigns text.toList = signs text.toList := by
  obtain ⟨tokens, cs, scanned, read, rfl⟩ := exists_criteria_of_parse parsed
  rw [negations_ofCriteria, countP_criteria read]
  exact Token.countP_negated scanned

/-- **Every sign is accounted for**: it negates a filter, is refused, or has only empty quotes behind it. -/
theorem accountsForSigns_parse (text : String) : AccountsForSigns text := by
  refine ⟨fun i dangles => ?dangling, fun search parsed => negations_add_hollowSigns parsed,
    fun search parsed => ?kept, fun search parsed i found => ?hollow⟩
  case dangling =>
    obtain ⟨j, early, -, refused⟩ := exists_parse_eq_dangling dangles
    exact ⟨j, early, refused⟩
  case kept =>
    have counted := negations_add_hollowSigns parsed
    have none : hollowSigns text.toList = 0 ↔ ∀ i, ¬HollowAt text.toList i := by
      unfold hollowSigns
      rw [Nat.count_iff_forall_not]
      exact ⟨fun none i found => none i found.sign.lt_length found, fun none i _ => none i⟩
    rw [← none]
    omega
  case hollow =>
    obtain ⟨tokens, _, scanned, -, -⟩ := exists_criteria_of_parse parsed
    have inner : Token.atGap (text.toList.drop (i + 1)) = false := by
      rw [Bool.eq_false_iff, Ne, Token.atGap_iff, List.head?_drop]
      exact fun alone => (Token.exists_tokenize_iff.1 ⟨tokens, scanned⟩).2 i ⟨found.sign, alone⟩
    obtain ⟨behind, quotes⟩ := Token.exists_quotes_of_atGap inner found.empty
    have first : (text.toList.drop (i + 1))[0]? = some '"' := by rw [quotes]; rfl
    have second : (text.toList.drop (i + 1))[1]? = some '"' := by rw [quotes]; rfl
    rw [List.getElem?_drop] at first second
    exact ⟨first, second⟩

/-- A minus before empty quotes is neither refused nor read as a filter. -/
theorem sign_lost_in_quotes : parse "-\"\"" = .ok {} ∧ signs "-\"\"".toList = 1 ∧ negations {} = 0 := by
  exact ⟨by rfl, by decide, rfl⟩

end Search

end StickerBook
