import StickerBook.Proofs.Library.Tagged
import StickerBook.Proofs.Search.Readable
import StickerBook.Proofs.Search.Word

/-!
# Tag filters and tags

The word of a tag filter is cut at its first colon outside quotes, but a written tag at its first colon. The two agree on
a tag exactly if no colon in quotes stands before the cut: then the tag of the filter is read back from its written form,
and a library file can contain it; else neither (`Search.agrees_on_tags_iff`).
-/

namespace StickerBook
set_option autoImplicit false
open Text (trim isBlank mem_trim_iff)

namespace Token

/-- A text without its quotes. -/
def unquoted (cs : List Char) : List Char := cs.filter (· ≠ '"')

/-- All colons of the text are in quotes. -/
def ColonsQuoted (cs : List Char) : Prop := ∀ front back, cs = front ++ ':' :: back → Odd (front.count '"')

/-- The text is cut at its first colon outside quotes. -/
structure CutAt (cs key value : List Char) : Prop where
  parts : cs = key ++ ':' :: value
  outside : Even (key.count '"')
  first : ColonsQuoted key

section
variable {cs key value : List Char} {c : Char}

theorem unquoted_concat_quote : unquoted (cs ++ ['"']) = unquoted cs := by
  simp [unquoted]

theorem unquoted_concat (other : c ≠ '"') : unquoted (cs ++ [c]) = unquoted cs ++ [c] := by
  simp [unquoted, other]

theorem mem_unquoted_iff (other : c ≠ '"') : c ∈ unquoted cs ↔ c ∈ cs := by
  simp [unquoted, other]

theorem colonsQuoted_nil : ColonsQuoted [] := by
  intro front back parts
  simp at parts

theorem ColonsQuoted.concat (colons : ColonsQuoted cs) (quoted : c = ':' → Odd (cs.count '"')) :
    ColonsQuoted (cs ++ [c]) := by
  intro front back parts
  rcases List.eq_nil_or_concat back with rfl | ⟨inner, d, rfl⟩
  · obtain ⟨rfl, last⟩ := List.append_inj' parts rfl
    exact quoted (List.singleton_inj.1 last)
  · rw [List.concat_eq_append, ← List.cons_append, ← List.append_assoc] at parts
    exact colons front inner (List.append_inj' parts rfl).1

/-- What follows a text that is cut belongs to the part behind the cut. -/
theorem CutAt.concat (cut : CutAt cs key value) (c : Char) : CutAt (cs ++ [c]) key (value ++ [c]) where
  parts := by rw [cut.parts, List.append_assoc, List.cons_append]
  outside := cut.outside
  first := cut.first

end

namespace Draft

/-- The draft holds a text without its quotes, in one part up to the first colon outside quotes and in two from there. -/
def Spells (d : Draft) (cs : List Char) : Prop :=
  match d.tail with
  | none => d.head.reverse = unquoted cs ∧ ColonsQuoted cs
  | some tail => ∃ key value, CutAt cs key value ∧ d.head.reverse = unquoted key ∧ tail.reverse = unquoted value

variable {d : Draft} {cs : List Char} {c : Char}

theorem Spells.quote (spells : d.Spells cs) : d.Spells (cs ++ ['"']) := by
  obtain ⟨negated, head, tail⟩ := d
  cases tail with
  | none => exact ⟨unquoted_concat_quote.symm ▸ spells.1, spells.2.concat nofun⟩
  | some tail =>
    obtain ⟨key, value, cut, first, second⟩ := spells
    exact ⟨key, value ++ ['"'], cut.concat '"', first, unquoted_concat_quote.symm ▸ second⟩

theorem Spells.push (spells : d.Spells cs) (other : c ≠ '"') (kept : c = ':' → d.tail = none → Odd (cs.count '"')) :
    (d.push c).Spells (cs ++ [c]) := by
  obtain ⟨negated, head, tail⟩ := d
  cases tail with
  | none =>
    refine ⟨?_, spells.2.concat fun colon => kept colon rfl⟩
    rw [unquoted_concat other, ← spells.1]
    exact List.reverse_cons
  | some tail =>
    obtain ⟨key, value, cut, first, second⟩ := spells
    refine ⟨key, value ++ [c], cut.concat c, first, ?_⟩
    rw [unquoted_concat other, ← second]
    exact List.reverse_cons

theorem Spells.pushUnquoted (spells : d.Spells cs) (other : c ≠ '"') (outside : Even (cs.count '"')) :
    (d.pushUnquoted c).Spells (cs ++ [c]) := by
  unfold Draft.pushUnquoted
  split
  · next cut =>
    obtain ⟨rfl, none⟩ := cut
    obtain ⟨negated, head, tail⟩ := d
    obtain rfl : tail = _ := none
    exact ⟨cs, [], ⟨rfl, outside, spells.2⟩, spells.1, rfl⟩
  · next uncut => exact spells.push other fun colon none => absurd ⟨colon, none⟩ uncut

end Draft

/-- The sign before a word. -/
def signOf (negated : Bool) : List Char := if negated then ['-'] else []

theorem even_count_signOf {negated : Bool} {cs : List Char} :
    Even ((signOf negated ++ cs).count '"') ↔ Even (cs.count '"') := by
  cases negated <;> simp [signOf]

/-- Behind its sign a word is spelled by the draft of its token. -/
theorem carried_spells (negated : Bool) : Draft.Carried fun before d =>
    d.negated = negated ∧ ∃ cs, before = signOf negated ++ cs ∧ d.Spells cs := by
  refine ⟨?quote, ?quoted, ?unquoted⟩
  case quote =>
    rintro _ d ⟨sign, cs, rfl, spells⟩
    exact ⟨sign, cs ++ ['"'], List.append_assoc _ _ _, spells.quote⟩
  case quoted =>
    rintro _ d c other inside ⟨sign, cs, rfl, spells⟩
    rw [← Nat.not_even_iff_odd, even_count_signOf, Nat.not_even_iff_odd] at inside
    exact ⟨d.negated_push c ▸ sign, cs ++ [c], List.append_assoc _ _ _, spells.push other fun _ _ => inside⟩
  case unquoted =>
    rintro _ d c other outside ⟨sign, cs, rfl, spells⟩
    rw [even_count_signOf] at outside
    exact ⟨d.negated_pushUnquoted c ▸ sign, cs ++ [c], List.append_assoc _ _ _, spells.pushUnquoted other outside⟩

theorem Draft.eq_of_tokens {d : Draft} {t : Token} (whole : d.tokens = [t]) :
    t = { negated := d.negated, head := d.head.reverse, tail := d.tail.map List.reverse } := by
  unfold tokens at whole
  split at whole
  · cases whole
  · exact (List.singleton_inj.1 whole).symm

/-- The two parts of a token are those of its word, without the quotes. -/
theorem exists_cut_of_word {word tail : List Char} {t : Token} (isWord : IsWord word) (read : tokenize word = .ok [t])
    (split : t.tail = some tail) : ∃ key value, CutAt (key ++ ':' :: value) key value ∧
      word = signOf t.negated ++ (key ++ ':' :: value) ∧ (t.negated = true ↔ word.head? = some '-') ∧
      t.head = unquoted key ∧ tail = unquoted value := by
  have empty (negated : Bool) : Draft.Spells { negated } [] := ⟨rfl, colonsQuoted_nil⟩
  obtain ⟨d, whole, sign, cs, parts, spells⟩ := exists_draft_of_word isWord
    (carried_spells (decide (word.head? = some '-'))) (fun minus => ⟨by simp [minus], [], by simp [minus, signOf], empty _⟩)
    (fun plain => ⟨by simp [plain], [], by simp [plain, signOf], empty _⟩) read
  obtain rfl := Draft.eq_of_tokens whole
  obtain ⟨tail', there, rfl⟩ := Option.map_eq_some_iff.1 split
  unfold Draft.Spells at spells
  rw [there] at spells
  obtain ⟨key, value, cut, first, second⟩ := spells
  obtain rfl := cut.parts
  exact ⟨key, value, cut, by rw [sign, ← parts], by rw [sign, decide_eq_true_iff], first, second⟩

/-- A token with a tag filter is split, and the halves of the tag are its parts. -/
theorem exists_tail_of_criterion {t : Token} {f : Filter Tag} (read : t.criterion = .ok (.tag f)) :
    ∃ tail, t.tail = some tail ∧ f.negated = t.negated ∧ f.value.ns.toList = trim t.head ∧
      f.value.value.toList = trim tail := by
  unfold criterion at read
  split at read
  · cases read
  · next tail there =>
    dsimp only at read
    split at read
    · obtain ⟨_, -, same⟩ := exists_of_map_eq_ok read
      cases same
    · split at read
      · cases read
      · obtain rfl := Criterion.tag.inj (Except.ok.inj read)
        exact ⟨tail, there, rfl, String.toList_ofList, String.toList_ofList⟩

/-- The word of a tag filter in a text: it is cut at its first colon outside quotes, and the halves of the tag are its
parts without quotes and without the blanks around them. -/
structure WordOf (text : List Char) (f : Filter Tag) (key value : List Char) : Prop where
  place : ∃ front back, text = front ++ (signOf f.negated ++ (key ++ ':' :: value)) ++ back ∧ Fresh front ∧
    IsWord (signOf f.negated ++ (key ++ ':' :: value)) ∧ atGap back = true
  sign : f.negated = true ↔ (signOf f.negated ++ (key ++ ':' :: value)).head? = some '-'
  cut : CutAt (key ++ ':' :: value) key value
  ns : f.value.ns.toList = trim (unquoted key)
  value : f.value.value.toList = trim (unquoted value)

/-- Quotes and blanks take no colon away. -/
theorem WordOf.colon_mem_iff {text key value : List Char} {f : Filter Tag} (word : WordOf text f key value) :
    ':' ∈ f.value.ns.toList ↔ ':' ∈ key := by
  rw [word.ns, mem_trim_iff (by decide), mem_unquoted_iff (by decide)]

end Token

open Token (WordOf)

/-- What can be read from a text is a proper tag but for the colons in its namespace. -/
theorem Tag.Readable.proper_iff {t : Tag} (readable : t.Readable) : t.Proper ↔ ':' ∉ t.ns.toList :=
  ⟨Proper.undivided, fun undivided =>
    ⟨⟨readable.ns.1, readable.value.1⟩, ⟨readable.ns.2.trimmed, readable.value.2.trimmed⟩, undivided⟩⟩

namespace Search
variable {text : String} {search : Search}

/-- Every tag filter has its word in the text. -/
theorem exists_word_of_tag (parsed : parse text = .ok search) {f : Filter Tag} (member : f ∈ search.tags) :
    ∃ key value, WordOf text.toList f key value := by
  obtain ⟨tokens, cs, scanned, found, rfl⟩ := exists_criteria_of_parse parsed
  obtain ⟨t, place, read⟩ := exists_token_of_criteria found (mem_tags_ofCriteria_iff.1 member)
  obtain ⟨tail, split, negated, ns, value⟩ := Token.exists_tail_of_criterion read
  obtain ⟨first, later, rfl⟩ := List.append_of_mem place
  obtain ⟨front, word, back, there⟩ := Token.exists_word_of_tokenize scanned
  obtain ⟨key, value', cut, parts, sign, head, rest⟩ := Token.exists_cut_of_word there.isWord there.alone split
  rw [← negated] at parts sign
  subst parts
  exact ⟨key, value', ⟨front, back, there.whole, there.fresh, there.isWord, there.ends⟩, sign, cut, head ▸ ns,
    rest ▸ value⟩

/-- **A tag filter and a tag mean the same by a colon** as long as none in quotes stands before the cut. The tag of a
filter is read back from its written form exactly then, and exactly then some library file can contain it. -/
theorem agrees_on_tags_iff (parsed : parse text = .ok search) : ∀ f ∈ search.tags, ∃ key value,
    WordOf text.toList f key value ∧ (Tag.parse f.value.display = .ok f.value ↔ ':' ∉ key) ∧
      ((∃ file l, Library.ofJson file = .ok l ∧ l.Carries f.value) ↔ ':' ∉ key) := by
  intro f member
  obtain ⟨key, value, word⟩ := exists_word_of_tag parsed member
  have proper : f.value.Proper ↔ ':' ∉ key :=
    (((readable_of_parse parsed).tags f member).proper_iff).trans (not_congr word.colon_mem_iff)
  exact ⟨key, value, word, Tag.parse_display_iff.trans proper, Library.exists_file_carries_iff.trans proper⟩

/-- Colons can be kept in quotes behind the cut, but not before it. -/
theorem agrees_on_tags_quotes :
    let cat : Filter Tag := { value := ⟨"big cat", "a:b"⟩ }
    let axes : Filter Tag := { value := ⟨"x:y", "z"⟩, negated := true }
    let text := "\"big cat\":\"a:b\" -\"x:y\":z"
    parse text = .ok { tags := [cat, axes] } ∧ ∀ f ∈ [cat, axes], ∃ key value,
      WordOf text.toList f key value ∧ (Tag.parse f.value.display = .ok f.value ↔ ':' ∉ key) ∧
        ((∃ file l, Library.ofJson file = .ok l ∧ l.Carries f.value) ↔ ':' ∉ key) := by
  intro cat axes text
  have parsed : parse text = .ok { tags := [cat, axes] } := by decide +kernel
  exact ⟨parsed, agrees_on_tags_iff parsed⟩

/-- A filter for a tag that is never read back from its written form: no sticker of a library file has it. -/
theorem colon_kept_in_quotes : parse "\"a:b\":c" = .ok { tags := [{ value := ⟨"a:b", "c"⟩ }] } ∧
    Tag.parse (Tag.display ⟨"a:b", "c"⟩) = .ok ⟨"a", "b:c"⟩ ∧ (⟨"a", "b:c"⟩ : Tag) ≠ ⟨"a:b", "c"⟩ ∧
    ¬∃ file l, Library.ofJson file = .ok l ∧ l.Carries ⟨"a:b", "c"⟩ := by
  refine ⟨by decide +kernel, by decide +kernel, by decide, ?_⟩
  rw [Library.exists_file_carries_iff]
  decide +kernel

end Search

end StickerBook
