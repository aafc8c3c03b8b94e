import StickerBook.Proofs.Except
import StickerBook.Search.Token

/-!
# How a token is read

What a scan adds to a token and what it reads behind it do not depend on what the token holds already, nor on columns
(`Token.uniform`). Columns matter for errors only, and the sign of a token is that with which its draft starts.
-/

namespace StickerBook.Token
set_option autoImplicit false
open Text (isBlank)

/-- A character of a token and whether it stands in quotes. -/
structure Letter where
  char : Char
  quoted : Bool

namespace Draft
variable {d : Draft}

/-- Adds characters one by one. -/
def extend (d : Draft) (letters : List Letter) : Draft :=
  letters.foldl (fun d l => if l.quoted then d.push l.char else d.pushUnquoted l.char) d

/-- The draft has text. -/
def Filled (d : Draft) : Prop := d.head ≠ [] ∨ d.tail ≠ none

/-- The draft with another sign. -/
def sign (negated : Bool) (d : Draft) : Draft := { d with negated }

@[simp] theorem extend_nil (d : Draft) : d.extend [] = d := rfl

theorem filled_push (d : Draft) (c : Char) : (d.push c).Filled := by
  unfold push Filled
  cases d.tail <;> simp

theorem filled_pushUnquoted (d : Draft) (c : Char) : (d.pushUnquoted c).Filled := by
  unfold pushUnquoted
  split
  · exact .inr (by simp)
  · exact d.filled_push c

/-- Every character gives a draft text, which it keeps. -/
theorem filled_extend {letters : List Letter} (some : d.Filled ∨ letters ≠ []) : (d.extend letters).Filled := by
  induction letters generalizing d with
  | nil => exact some.resolve_right (fun none => none rfl)
  | cons l rest ih =>
    refine ih (.inl ?_)
    dsimp only
    split
    · exact d.filled_push l.char
    · exact d.filled_pushUnquoted l.char

theorem push_sign (negated : Bool) (c : Char) : (d.sign negated).push c = (d.push c).sign negated := by
  unfold push sign
  dsimp only
  split <;> rfl

theorem pushUnquoted_sign (negated : Bool) (c : Char) :
    (d.sign negated).pushUnquoted c = (d.pushUnquoted c).sign negated := by
  unfold pushUnquoted
  show (if c = ':' ∧ d.tail = none then _ else _) = _
  split
  · rfl
  · exact push_sign negated c

theorem extend_sign (negated : Bool) (letters : List Letter) :
    (d.sign negated).extend letters = (d.extend letters).sign negated := by
  induction letters generalizing d with
  | nil => rfl
  | cons l rest ih =>
    unfold extend
    rw [List.foldl_cons, push_sign, pushUnquoted_sign, ← apply_ite (sign negated)]
    exact ih

theorem tokens_of_filled (filled : d.Filled) :
    d.tokens = [{ negated := d.negated, head := d.head.reverse, tail := d.tail.map List.reverse }] := by
  unfold tokens
  rw [if_neg]
  rcases filled with head | tail
  · simp [head]
  · simp [tail]

end Draft

/-- The text without the pairs of quotes at its start that hold nothing. -/
def dropEmptyQuotes : List Char → List Char
  | '"' :: '"' :: rest => dropEmptyQuotes rest
  | cs => cs

/-- From inside a token the scan adds the given letters to it and reads the given tokens behind it. -/
def Reads (cs : List Char) (letters : List Letter) (more : List Token) : Prop :=
  ∀ d column, scan (.inToken d) column cs = .ok ((d.extend letters).tokens ++ more)

/-- The same from inside quotes. -/
def ReadsQuoted (cs : List Char) (letters : List Letter) (more : List Token) : Prop :=
  ∀ d opened column, scan (.inQuotes d opened) column cs = .ok ((d.extend letters).tokens ++ more)

section
variable {c : Char} {rest : List Char} {letters : List Letter} {more : List Token}

theorem Reads.nil : Reads [] [] [] := fun d _ => congrArg Except.ok (List.append_nil d.tokens).symm

theorem Reads.gap (blank : isBlank c = true) (behind : ∀ column, scan .between column rest = .ok more) :
    Reads (c :: rest) [] more := by
  intro d column
  rw [scan, if_pos blank, behind]
  rfl

theorem Reads.unquoted (filled : isBlank c = false) (plain : c ≠ '"') (reads : Reads rest letters more) :
    Reads (c :: rest) (⟨c, false⟩ :: letters) more := by
  intro d column
  rw [scan, if_neg (Bool.eq_false_iff.1 filled), Draft.read, if_neg plain, reads]
  rfl

theorem Reads.opened (reads : ReadsQuoted rest letters more) : Reads ('"' :: rest) letters more := by
  intro d column
  have filled : isBlank '"' = false := by decide
  rw [scan, if_neg (Bool.eq_false_iff.1 filled), Draft.read, if_pos rfl, reads]

theorem ReadsQuoted.closed (reads : Reads rest letters more) : ReadsQuoted ('"' :: rest) letters more := by
  intro d opened column
  rw [scan, if_pos rfl, reads]

theorem ReadsQuoted.quoted (inner : c ≠ '"') (reads : ReadsQuoted rest letters more) :
    ReadsQuoted (c :: rest) (⟨c, true⟩ :: letters) more := by
  intro d opened column
  rw [scan, if_neg inner, reads]
  rfl

end

/-- From each place a text that can be read is read in one way, whatever the draft and the column. A token gets no
letters exactly if a gap follows the empty quotes at the start. -/
structure Uniform (cs : List Char) : Prop where
  between : ∀ column tokens, scan .between column cs = .ok tokens → ∀ column', scan .between column' cs = .ok tokens
  inToken : ∀ d column tokens, scan (.inToken d) column cs = .ok tokens →
    ∃ letters more, Reads cs letters more ∧ (letters = [] ↔ atGap (dropEmptyQuotes cs) = true)
  inQuotes : ∀ d opened column tokens, scan (.inQuotes d opened) column cs = .ok tokens →
    ∃ letters more, ReadsQuoted cs letters more ∧
      (letters = [] ↔ ∃ behind, cs = '"' :: behind ∧ atGap (dropEmptyQuotes behind) = true)

theorem dropEmptyQuotes_cons {c : Char} (plain : c ≠ '"') (rest : List Char) :
    dropEmptyQuotes (c :: rest) = c :: rest := by
  rw [dropEmptyQuotes]
  intro rest' same
  exact absurd (List.cons_eq_cons.1 same).1 plain

theorem atGap_dropEmptyQuotes_quote_iff {rest : List Char} : atGap (dropEmptyQuotes ('"' :: rest)) = true ↔
    ∃ behind, rest = '"' :: behind ∧ atGap (dropEmptyQuotes behind) = true := by
  have filled : isBlank '"' = false := by decide
  cases rest with
  | nil => simp [dropEmptyQuotes, atGap, filled]
  | cons c rest =>
    by_cases quote : c = '"'
    · simp [quote, dropEmptyQuotes]
    · have kept : dropEmptyQuotes ('"' :: c :: rest) = '"' :: c :: rest := by
        rw [dropEmptyQuotes]
        intro rest' same
        exact absurd (List.cons_eq_cons.1 (List.cons_eq_cons.1 same).2).1 quote
      simp [kept, atGap, filled, quote]

namespace Uniform
variable {c : Char} {rest : List Char}

theorem nil : Uniform [] where
  between := fun _ _ read _ => read
  inToken := fun d column tokens read => ⟨[], [], .nil, iff_of_true rfl rfl⟩
  inQuotes := by
    intro d opened column tokens read
    cases read

theorem inToken_cons (uniform : Uniform rest) {d : Draft} {column : Nat} {tokens : List Token}
    (read : scan (.inToken d) column (c :: rest) = .ok tokens) :
    ∃ letters more, Reads (c :: rest) letters more ∧ (letters = [] ↔ atGap (dropEmptyQuotes (c :: rest)) = true) := by
  rw [scan] at read
  split at read
  · next blank =>
    have plain : c ≠ '"' := by
      rintro rfl
      exact absurd blank (by decide)
    obtain ⟨more, behind, -⟩ := exists_of_map_eq_ok read
    refine ⟨[], more, .gap blank fun column' => uniform.between _ _ behind column', ?_⟩
    rw [dropEmptyQuotes_cons plain]
    exact iff_of_true rfl blank
  · next filled =>
    unfold Draft.read at read
    split at read
    · next quote =>
      obtain rfl := quote
      obtain ⟨letters, more, reads, empty⟩ := uniform.inQuotes _ _ _ _ read
      exact ⟨letters, more, .opened reads, empty.trans atGap_dropEmptyQuotes_quote_iff.symm⟩
    · next plain =>
      obtain ⟨letters, more, reads, -⟩ := uniform.inToken _ _ _ read
      refine ⟨_, more, .unquoted (Bool.eq_false_iff.2 filled) plain reads, ?_⟩
      rw [dropEmptyQuotes_cons plain]
      exact iff_of_false (List.cons_ne_nil _ _) filled

theorem inQuotes_cons (uniform : Uniform rest) {d : Draft} {opened column : Nat} {tokens : List Token}
    (read : scan (.inQuotes d opened) column (c :: rest) = .ok tokens) :
    ∃ letters more, ReadsQuoted (c :: rest) letters more ∧
      (letters = [] ↔ ∃ behind, c :: rest = '"' :: behind ∧ atGap (dropEmptyQuotes behind) = true) := by
  rw [scan] at read
  split at read
  · next quote =>
    obtain rfl := quote
    obtain ⟨letters, more, reads, empty⟩ := uniform.inToken _ _ _ read
    refine ⟨letters, more, .closed reads, empty.trans ?_⟩
    simp
  · next inner =>
    obtain ⟨letters, more, reads, -⟩ := uniform.inQuotes _ _ _ _ read
    refine ⟨_, more, .quoted inner reads, iff_of_false (List.cons_ne_nil _ _) ?_⟩
    rintro ⟨behind, same, -⟩
    exact inner (List.cons_eq_cons.1 same).1

/-- Where a token starts does not change how it is read. -/
theorem inToken_column (uniform : Uniform rest) {d : Draft} {column : Nat} {tokens : List Token}
    (read : scan (.inToken d) column rest = .ok tokens) (column' : Nat) :
    scan (.inToken d) column' rest = .ok tokens := by
  obtain ⟨letters, more, reads, -⟩ := uniform.inToken d column tokens read
  rw [reads] at read ⊢
  exact read

theorem inQuotes_column (uniform : Uniform rest) {d : Draft} {opened column : Nat} {tokens : List Token}
    (read : scan (.inQuotes d opened) column rest = .ok tokens) (opened' column' : Nat) :
    scan (.inQuotes d opened') column' rest = .ok tokens := by
  obtain ⟨letters, more, reads, -⟩ := uniform.inQuotes d opened column tokens read
  rw [reads] at read ⊢
  exact read

theorem between_cons (uniform : Uniform rest) {column : Nat} {tokens : List Token}
    (read : scan .between column (c :: rest) = .ok tokens) (column' : Nat) :
    scan .between column' (c :: rest) = .ok tokens := by
  rw [scan] at read ⊢
  split at read
  · next blank =>
    rw [if_pos blank]
    exact uniform.between _ _ read _
  · next filled =>
    rw [if_neg filled]
    split at read
    · next minus =>
      rw [if_pos minus]
      split at read
      · cases read
      · next inner =>
        rw [if_neg inner]
        exact uniform.inToken_column read _
    · next other =>
      rw [if_neg other]
      unfold Draft.read at read ⊢
      split at read
      · next quote =>
        rw [if_pos quote]
        exact uniform.inQuotes_column read _ _
      · next plain =>
        rw [if_neg plain]
        exact uniform.inToken_column read _

end Uniform

theorem uniform (cs : List Char) : Uniform cs := by
  induction cs with
  | nil => exact .nil
  | cons c rest ih =>
    exact {
      between := fun _ _ read => ih.between_cons read
      inToken := fun _ _ _ read => ih.inToken_cons read
      inQuotes := fun _ _ _ _ read => ih.inQuotes_cons read }

/-- A text whose first token stands at its very start and has no sign: neither a blank nor a minus nor bare empty
quotes come before it. -/
def Leads (cs : List Char) : Prop := cs.head? ≠ some '-' ∧ atGap (dropEmptyQuotes cs) = false

instance (cs : List Char) : Decidable (Leads cs) := inferInstanceAs (Decidable (_ ∧ _))

section
variable {cs : List Char} {t : Token}

theorem tokenize_minus (inner : atGap cs = false) :
    tokenize ('-' :: cs) = scan (.inToken (Draft.sign true {})) 1 cs := by
  have filled : isBlank '-' = false := by decide
  rw [tokenize, scan, filled, inner]
  rfl

/-- A text that starts with neither a gap nor a minus starts with a token. -/
theorem tokenize_unsigned (inner : atGap cs = false) (unsigned : cs.head? ≠ some '-') :
    tokenize cs = scan (.inToken (Draft.sign false {})) 0 cs := by
  cases cs with
  | nil => cases inner
  | cons c rest =>
    have filled : isBlank c = false := inner
    have other : c ≠ '-' := by simpa using unsigned
    rw [tokenize, scan, scan, filled]
    simp only [Bool.false_eq_true, if_false, if_neg other]
    rfl

/-- A gap is not dropped with the empty quotes. -/
theorem atGap_dropEmptyQuotes_of_atGap (gap : atGap cs = true) : atGap (dropEmptyQuotes cs) = true := by
  cases cs with
  | nil => rfl
  | cons c rest =>
    have plain : c ≠ '"' := by
      rintro rfl
      have filled : isBlank '"' = false := by decide
      exact absurd gap (Bool.eq_false_iff.1 filled)
    rwa [dropEmptyQuotes_cons plain]

theorem Leads.atGap_eq_false (leads : Leads cs) : atGap cs = false := by
  apply Bool.eq_false_iff.2
  intro gap
  exact absurd (atGap_dropEmptyQuotes_of_atGap gap) (Bool.eq_false_iff.1 leads.2)

/-- A minus before a leading token negates it and leaves the others alone. -/
theorem tokenize_minus_of_leads (leads : Leads cs) {more : List Token} (read : tokenize cs = .ok (t :: more)) :
    tokenize ('-' :: cs) = .ok ({ t with negated := true } :: more) := by
  rw [tokenize_unsigned leads.atGap_eq_false leads.1] at read
  obtain ⟨letters, more', reads, empty⟩ := (uniform cs).inToken _ _ _ read
  have some : letters ≠ [] := by
    intro none
    exact absurd (empty.1 none) (Bool.eq_false_iff.1 leads.2)
  have filled (negated : Bool) : ((Draft.sign negated {}).extend letters).Filled := Draft.filled_extend (.inr some)
  rw [reads, Draft.tokens_of_filled (filled false), Draft.extend_sign] at read
  rw [tokenize_minus leads.atGap_eq_false, reads, Draft.tokens_of_filled (filled true), Draft.extend_sign]
  obtain ⟨rfl, rfl⟩ := List.cons_eq_cons.1 (Except.ok.inj read)
  rfl

/-- A text that starts with a minus and has one token, which is not negated, starts with a minus before empty quotes.
Behind another minus the first one is a token of its own. -/
theorem tokenize_minus_minus {rest : List Char} (read : tokenize ('-' :: rest) = .ok [t]) (plain : t.negated = false) :
    ∃ sign, tokenize ('-' :: '-' :: rest) = .ok [sign, t] := by
  have filled : isBlank '-' = false := by decide
  have inner : atGap rest = false := by
    apply Bool.eq_false_iff.2
    intro gap
    rw [tokenize, scan, filled, gap] at read
    cases read
  rw [tokenize_minus inner] at read
  obtain ⟨letters, more, reads, -⟩ := (uniform rest).inToken _ _ _ read
  rw [reads, Draft.extend_sign] at read
  have same := Except.ok.inj read
  -- the first minus would negate a token with letters
  have none : letters = [] := by
    cases letters with
    | nil => rfl
    | cons l letters =>
      have some : ((Draft.sign true {}).extend (l :: letters)).Filled := Draft.filled_extend (.inr (List.cons_ne_nil _ _))
      rw [← Draft.extend_sign, Draft.tokens_of_filled some, Draft.extend_sign] at same
      obtain ⟨rfl, -⟩ := List.cons_eq_cons.1 same
      cases plain
  obtain rfl := none
  obtain rfl : more = [t] := same
  have signed : Reads ('-' :: rest) [⟨'-', false⟩] [t] := .unquoted filled (by decide) reads
  have inner' : atGap ('-' :: rest) = false := filled
  exact ⟨_, (tokenize_minus inner').trans (signed _ _)⟩

/-- A minus before a text whose one token does not lead it is refused, vanishes, or stands for itself. -/
theorem tokenize_minus_of_not_leads (follows : ¬Leads cs) (read : tokenize cs = .ok [t]) (plain : t.negated = false) :
    tokenize ('-' :: cs) = .error (.danglingNegation 0) ∨ tokenize ('-' :: cs) = .ok [t] ∨
      ∃ sign, tokenize ('-' :: cs) = .ok [sign, t] := by
  cases gap : atGap cs with
  | true =>
    left
    have filled : isBlank '-' = false := by decide
    rw [tokenize, scan, filled, gap]
    rfl
  | false =>
    right
    by_cases unsigned : cs.head? = some '-'
    · right
      cases cs with
      | nil => cases unsigned
      | cons c rest =>
        obtain rfl := Option.some.inj unsigned
        exact tokenize_minus_minus read plain
    · left
      have empty : atGap (dropEmptyQuotes cs) = true := by
        simpa [Leads, unsigned] using follows
      rw [tokenize_unsigned gap unsigned] at read
      obtain ⟨letters, more, reads, none⟩ := (uniform cs).inToken _ _ _ read
      obtain rfl := none.2 empty
      rw [reads] at read
      rw [tokenize_minus gap, reads]
      exact read

end

end StickerBook.Token
