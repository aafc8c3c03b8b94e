import StickerBook.Proofs.Search.Beside
import StickerBook.Proofs.Search.Readable
import StickerBook.Proofs.Search.Token

/-!
# Writing a search down

Every tidy search has a text: its filters one after the other, with both sides of a colon in quotes. Quotes keep blanks,
colons, a leading minus and reserved words from being read as anything else, so the text is read as that search and the
tidy searches are just those that can be read (`Search.exists_text_iff`).
-/

namespace StickerBook
set_option autoImplicit false
open Text (isBlank trim trimString)

namespace Token

/-- The letters of a text in quotes. -/
def quotedLetters (cs : List Char) : List Letter := cs.map fun c => { char := c, quoted := true }

/-- A text in quotes. -/
def inQuotes (cs : List Char) : List Char := '"' :: (cs ++ ['"'])

/-- The written form of a token without its sign. -/
def body (t : Token) : List Char :=
  match t.tail with
  | none => inQuotes t.head
  | some tail => inQuotes t.head ++ ':' :: inQuotes tail

/-- The written form of a token. -/
def written (t : Token) : List Char := if t.negated then '-' :: t.body else t.body

/-- The letters of a written token. -/
def letters (t : Token) : List Letter :=
  match t.tail with
  | none => quotedLetters t.head
  | some tail => quotedLetters t.head ++ { char := ':', quoted := false } :: quotedLetters tail

section
variable {cs rest : List Char} {behind : List Letter} {more : List Token}

theorem ReadsQuoted.word (unquoted : '"' ∉ cs) (reads : Reads rest behind more) :
    ReadsQuoted (cs ++ '"' :: rest) (quotedLetters cs ++ behind) more := by
  induction cs with
  | nil => exact .closed reads
  | cons c cs ih =>
    rw [List.mem_cons, not_or] at unquoted
    exact .quoted (Ne.symm unquoted.1) (ih unquoted.2)

/-- A word in quotes is read letter by letter. -/
theorem Reads.word (unquoted : '"' ∉ cs) (reads : Reads rest behind more) :
    Reads (inQuotes cs ++ rest) (quotedLetters cs ++ behind) more := by
  have whole : inQuotes cs ++ rest = '"' :: (cs ++ '"' :: rest) := by simp [inQuotes]
  rw [whole]
  exact .opened (.word unquoted reads)

theorem Reads.lastWord (unquoted : '"' ∉ cs) : Reads (inQuotes cs) (quotedLetters cs) [] := by
  have word : Reads (inQuotes cs ++ []) (quotedLetters cs ++ []) [] := .word unquoted .nil
  rwa [List.append_nil, List.append_nil] at word

end

namespace Draft

/-- Before the colon, letters in quotes extend the head of a draft. -/
theorem extend_head (negated : Bool) (head cs : List Char) :
    extend { negated, head } (quotedLetters cs) = { negated, head := cs.reverse ++ head } := by
  induction cs generalizing head with
  | nil => rfl
  | cons c cs ih =>
    have behind := ih (c :: head)
    rw [List.reverse_cons, List.append_assoc]
    exact behind

/-- Behind the colon they extend its tail. -/
theorem extend_tail (negated : Bool) (head tail cs : List Char) :
    extend { negated, head, tail := some tail } (quotedLetters cs)
      = { negated, head, tail := some (cs.reverse ++ tail) } := by
  induction cs generalizing tail with
  | nil => rfl
  | cons c cs ih =>
    have behind := ih (c :: tail)
    rw [List.reverse_cons, List.append_assoc]
    exact behind

theorem extend_append (d : Draft) (first second : List Letter) :
    d.extend (first ++ second) = (d.extend first).extend second := List.foldl_append

/-- The letters of a written token make up the token. -/
theorem extend_letters (t : Token) :
    extend { negated := t.negated } t.letters
      = { negated := t.negated, head := t.head.reverse, tail := t.tail.map List.reverse } := by
  obtain ⟨negated, head, tail⟩ := t
  cases tail with
  | none => exact (extend_head negated [] head).trans (by rw [List.append_nil]; rfl)
  | some tail =>
    show extend { negated } (quotedLetters head ++ { char := ':', quoted := false } :: quotedLetters tail) = _
    rw [extend_append, extend_head, List.append_nil]
    exact (extend_tail negated head.reverse [] tail).trans (by rw [List.append_nil]; rfl)

end Draft

variable {t : Token}

theorem Plain.reads (plain : t.Plain) : Reads t.body t.letters [] := by
  obtain ⟨negated, head, tail⟩ := t
  have unquoted := plain.unquoted
  cases tail with
  | none =>
    exact .lastWord unquoted
  | some tail =>
    simp only [text, List.mem_append, List.mem_cons, not_or] at unquoted
    obtain ⟨first, -, second⟩ := unquoted
    exact .word first (.unquoted (by decide) (by decide) (.lastWord second))

theorem Plain.tokens_extend (plain : t.Plain) : (Draft.extend { negated := t.negated } t.letters).tokens = [t] := by
  rw [Draft.extend_letters]
  obtain ⟨negated, head, tail⟩ := t
  rw [Draft.tokens_of_filled]
  · cases tail <;> simp
  · have filled := plain.filled
    cases tail with
    | none => exact .inl (by simpa [text] using filled)
    | some tail => exact .inr (by simp)

/-- The written form of a plain token is read as that token. -/
theorem Plain.tokenize_written (plain : t.Plain) : tokenize t.written = .ok [t] := by
  have opened : ∃ rest, t.body = '"' :: rest := by
    unfold body inQuotes
    split
    · exact ⟨_, rfl⟩
    · exact ⟨_, rfl⟩
  obtain ⟨rest, body⟩ := opened
  have inner : atGap t.body = false := by
    rw [body]
    exact show isBlank '"' = false by decide
  have unsigned : t.body.head? ≠ some '-' := by
    rw [body]
    exact show some '"' ≠ some '-' by decide
  have reads := plain.reads
  unfold written
  cases sign : t.negated with
  | true =>
    rw [if_pos rfl, tokenize_minus inner, reads]
    have whole := plain.tokens_extend
    rw [sign] at whole
    exact congrArg Except.ok ((List.append_nil _).trans whole)
  | false =>
    rw [if_neg Bool.false_ne_true, tokenize_unsigned inner unsigned, reads]
    have whole := plain.tokens_extend
    rw [sign] at whole
    exact congrArg Except.ok ((List.append_nil _).trans whole)

/-- Written tokens, each with a blank behind it. -/
def row (tokens : List Token) : List Char := tokens.flatMap fun t => t.written ++ [' ']

theorem tokenize_row {tokens : List Token} (plain : ∀ t ∈ tokens, t.Plain) : tokenize (row tokens) = .ok tokens := by
  induction tokens with
  | nil => rfl
  | cons t rest ih =>
    obtain ⟨first, later⟩ := List.forall_mem_cons.1 plain
    have text : row (t :: rest) = t.written ++ ' ' :: row rest := by simp [row]
    rw [text, tokenize_beside (by decide) first.tokenize_written, ih later]
    rfl

end Token

/-- The name of a key is no other key's. -/
theorem MetaKey.ofString?_display (key : MetaKey) : ofString? key.display = some key := by
  cases key <;> rfl

namespace Criterion

/-- The token that stands for a criterion. -/
def token : Criterion → Token
  | .keyword f => { negated := f.negated, head := f.value.toList, tail := none }
  | .tag f => { negated := f.negated, head := f.value.ns.toList, tail := some f.value.value.toList }
  | .option f => { negated := f.negated, head := f.key.display.toList, tail := some f.value.toList }

variable {c : Criterion}

theorem Readable.plain (readable : c.Readable) : c.token.Plain := by
  cases c with
  | keyword f => exact ⟨mt String.toList_eq_nil_iff.1 readable.1, readable.2⟩
  | tag f =>
    refine ⟨by simp [token, Token.text], ?_⟩
    have tag : f.value.Readable := readable
    simpa [token, Token.text] using ⟨tag.ns.2.unquoted, tag.value.2.unquoted⟩
  | option f =>
    refine ⟨by simp [token, Token.text], ?_⟩
    have name : '"' ∉ f.key.display.toList := by cases f.key <;> decide
    simpa [token, Token.text] using ⟨name, readable.1.unquoted⟩

/-- The token of a tidy criterion stands for it. -/
theorem Readable.criterion_token (readable : c.Readable) : c.token.criterion = .ok c := by
  cases c with
  | keyword f =>
    have word : String.ofList f.value.toList = f.value := String.ofList_toList
    show Except.ok (Criterion.keyword { value := .ofList f.value.toList, negated := f.negated }) = _
    rw [word]
  | tag f =>
    have tag : f.value.Readable := readable
    have ns : String.ofList (trim f.value.ns.toList) = f.value.ns := tag.ns.2.trimmed
    have value : String.ofList (trim f.value.value.toList) = f.value.value := tag.value.2.trimmed
    unfold Token.criterion token
    dsimp only
    rw [ns, value, MetaKey.ofString?_eq_none_iff.2 tag.free]
    simp [tag.ns.1, tag.value.1]
  | option f =>
    have key : String.ofList (trim f.key.display.toList) = f.key.display := by cases f.key <;> rfl
    have value : String.ofList (trim f.value.toList) = f.value := readable.1.trimmed
    unfold Token.criterion token
    dsimp only
    rw [key, value, MetaKey.ofString?_display]
    dsimp only
    rw [MetaFilter.check_eq_ok_iff.2 readable.2]
    rfl

end Criterion

theorem criteria_map_token {cs : List Criterion} (readable : ∀ c ∈ cs, c.Readable) :
    criteria (cs.map Criterion.token) = .ok cs := by
  induction cs with
  | nil => rfl
  | cons c rest ih =>
    obtain ⟨first, later⟩ := List.forall_mem_cons.1 readable
    rw [List.map_cons, criteria_cons first.criterion_token, ih later]
    rfl

namespace Search
variable {search : Search}

/-- The filters of a search. -/
def filters (search : Search) : List Criterion :=
  search.keywords.map .keyword ++ search.tags.map .tag ++ search.metas.map .option

theorem ofCriteria_filters (search : Search) : ofCriteria search.filters = search := by
  obtain ⟨keywords, tags, metas⟩ := search
  simp [ofCriteria, filters]

/-- A text of a search. -/
def written (search : Search) : String := .ofList (Token.row (search.filters.map Criterion.token))

theorem Readable.filters (readable : search.Readable) : ∀ c ∈ search.filters, c.Readable := by
  intro c member
  simp only [Search.filters, List.mem_append, List.mem_map] at member
  rcases member with (⟨k, member, rfl⟩ | ⟨t, member, rfl⟩) | ⟨m, member, rfl⟩
  · exact readable.keywords k member
  · exact readable.tags t member
  · exact readable.metas m member

/-- A tidy search is read from its text. -/
theorem Readable.parse_written (readable : search.Readable) : parse search.written = .ok search := by
  have plain : ∀ t ∈ search.filters.map Criterion.token, t.Plain := by
    intro t member
    obtain ⟨c, place, rfl⟩ := List.mem_map.1 member
    exact (readable.filters c place).plain
  unfold parse written
  rw [String.toList_ofList, Token.tokenize_row plain]
  dsimp only
  rw [criteria_map_token readable.filters]
  exact congrArg Except.ok (ofCriteria_filters search)

/-- **The searches that can be read are the tidy ones**, and these are definite: no value of a meta filter is passed
over, neither by the test of a sticker nor by a statement. -/
theorem exists_text_iff (search : Search) :
    ((∃ text, parse text = .ok search) ↔ search.Readable) ∧ (search.Readable → search.Definite) := by
  refine ⟨⟨?_, fun readable => ⟨search.written, readable.parse_written⟩⟩, Readable.definite⟩
  rintro ⟨text, parsed⟩
  exact readable_of_parse parsed

/-- A search whose filters would all be read as something else if they were written without quotes. -/
def oddSearch : Search where
  keywords := [{ value := "-12:30" }, { value := " ", negated := true }]
  tags := [{ value := ⟨"big cat", "a:b"⟩, negated := true }, { value := ⟨"-a:b", "sort"⟩ }]
  metas := [{ key := .package, value := "" }, { key := .kind, value := "pic", negated := true },
    { key := .after, value := "+007" }, { key := .after, value := "-1" }]

theorem exists_text_odd : oddSearch.Readable ∧ (∃ text, parse text = .ok oddSearch) ∧ oddSearch.Definite := by
  have readable : oddSearch.Readable := by decide
  have both := exists_text_iff oddSearch
  exact ⟨readable, both.1.2 readable, both.2 readable⟩

end Search

end StickerBook
