import StickerBook.Proofs.Search.Meaning
import StickerBook.Proofs.Search.Step
import StickerBook.Proofs.Text.Trim
import StickerBook.Search.Statement

/-!
# What can be read from a text

The filters of a search that was read from a text are tidy: no quotes are left in them, the two sides of a colon are
trimmed, and every meta filter has a value that makes sense for its key (`Search.readable_of_parse`). Such a search is
definite: neither the test of a sticker nor a statement ever lets a meta filter pass because its value makes no sense
(`Search.Readable.definite`).
-/

namespace StickerBook
set_option autoImplicit false
open Text (trim trim_eq_self_iff trim_isInfix trimString trim_trim)

namespace Token

/-- A token has text, and no quotes in it. -/
structure Plain (t : Token) : Prop where
  filled : t.text ≠ []
  unquoted : '"' ∉ t.text

namespace Draft

/-- No quotes are in the draft. -/
def Unquoted (d : Draft) : Prop := '"' ∉ d.head ∧ ∀ tail ∈ d.tail, '"' ∉ tail

variable {d : Draft} {c : Char}

theorem unquoted_push (unquoted : d.Unquoted) (other : c ≠ '"') : (d.push c).Unquoted := by
  obtain ⟨head, tail⟩ := unquoted
  unfold push
  split
  · exact ⟨List.not_mem_cons_of_ne_of_not_mem other.symm head, tail⟩
  · next cs there =>
    refine ⟨head, fun cs' same => ?_⟩
    obtain rfl := Option.some.inj same
    exact List.not_mem_cons_of_ne_of_not_mem other.symm (tail cs there)

theorem unquoted_pushUnquoted (unquoted : d.Unquoted) (other : c ≠ '"') : (d.pushUnquoted c).Unquoted := by
  unfold pushUnquoted
  split
  · refine ⟨unquoted.1, fun cs same => ?_⟩
    obtain rfl := Option.some.inj same
    exact List.not_mem_nil
  · exact unquoted_push unquoted other

theorem plain_of_mem_tokens (unquoted : d.Unquoted) {t : Token} (member : t ∈ d.tokens) : t.Plain := by
  obtain ⟨negated, head, tail⟩ := d
  obtain ⟨first, second⟩ := unquoted
  unfold tokens at member
  split at member
  · cases member
  · next some =>
    obtain rfl := List.mem_singleton.1 member
    cases tail with
    | none => exact ⟨by simpa [text] using some, by simpa [text] using first⟩
    | some tail => exact ⟨by simp [text], by simpa [text] using ⟨first, second tail rfl⟩⟩

end Draft

/-- No quotes are in what the reader holds. -/
def Place.Unquoted : Place → Prop
  | .between => True
  | .inToken draft => draft.Unquoted
  | .inQuotes draft _ => draft.Unquoted

theorem unquoted_empty (negated : Bool) : Draft.Unquoted { negated } := ⟨List.not_mem_nil, fun _ none => nomatch none⟩

theorem unquoted_read {d : Draft} (unquoted : d.Unquoted) (column : Nat) (c : Char) : (d.read column c).Unquoted := by
  unfold Draft.read
  split
  · exact unquoted
  · next other => exact Draft.unquoted_pushUnquoted unquoted other

/-- A step takes quotes neither into a draft nor into a token. -/
theorem Place.Unquoted.step {place next : Place} {column : Nat} {c : Char} {gap : Bool} {out : List Token}
    (unquoted : place.Unquoted) (stepped : place.step column c gap = .ok (out, next)) :
    next.Unquoted ∧ ∀ t ∈ out, t.Plain := by
  have silent (place : Place) (held : place.Unquoted)
      (same : (.ok ([], place) : Except SearchError (List Token × Place)) = .ok (out, next)) :
      next.Unquoted ∧ ∀ t ∈ out, t.Plain := by
    obtain ⟨rfl, rfl⟩ := Prod.mk.inj (Except.ok.inj same)
    exact ⟨held, fun _ none => nomatch none⟩
  unfold Place.step at stepped
  cases place with
  | between =>
    dsimp only at stepped
    split at stepped
    · exact silent .between trivial stepped
    · split at stepped
      · split at stepped
        · cases stepped
        · exact silent (.inToken _) (unquoted_empty true) stepped
      · exact silent _ (unquoted_read (unquoted_empty false) column c) stepped
  | inToken draft =>
    dsimp only at stepped
    split at stepped
    · obtain ⟨rfl, rfl⟩ := Prod.mk.inj (Except.ok.inj stepped)
      exact ⟨trivial, fun _ member => Draft.plain_of_mem_tokens unquoted member⟩
    · exact silent _ (unquoted_read unquoted column c) stepped
  | inQuotes draft opened =>
    dsimp only at stepped
    split at stepped
    · exact silent (.inToken draft) unquoted stepped
    · next other => exact silent (.inQuotes _ opened) (Draft.unquoted_push unquoted other) stepped

theorem Place.Unquoted.finish {place : Place} {tokens : List Token} (unquoted : place.Unquoted)
    (finished : place.finish = .ok tokens) : ∀ t ∈ tokens, t.Plain := by
  cases place with
  | between =>
    obtain rfl : [] = tokens := Except.ok.inj finished
    exact fun _ none => nomatch none
  | inToken draft =>
    obtain rfl : draft.tokens = tokens := Except.ok.inj finished
    exact fun _ member => Draft.plain_of_mem_tokens unquoted member
  | inQuotes draft opened => cases finished

/-- Every token that a scan reads is plain. -/
theorem plain_of_scan {place : Place} {column : Nat} {cs : List Char} {tokens : List Token} (unquoted : place.Unquoted)
    (read : scan place column cs = .ok tokens) : ∀ t ∈ tokens, t.Plain := by
  induction cs generalizing place column tokens with
  | nil =>
    rw [scan_nil] at read
    exact unquoted.finish read
  | cons c rest ih =>
    obtain ⟨out, next, more, stepped, behind, rfl⟩ := exists_step_of_scan read
    obtain ⟨held, plain⟩ := unquoted.step stepped
    exact List.forall_mem_append.2 ⟨plain, ih held behind⟩

theorem plain_of_tokenize {cs : List Char} {tokens : List Token} (read : tokenize cs = .ok tokens) :
    ∀ t ∈ tokens, t.Plain := by
  have empty : Place.between.Unquoted := trivial
  exact plain_of_scan empty read

end Token

/-- The words that name a key, in lower case. -/
def MetaKey.words : List String := ["package", "pkg", "type", "sort", "order", "after", "before"]

theorem MetaKey.ofString?_eq_none_iff {word : String} :
    ofString? word = none ↔ String.ofList (word.toList.map Char.toLower) ∉ words := by
  unfold ofString? words
  split <;> simp_all

/-- A text without quotes that is its own trimmed form. -/
structure Tidy (s : String) : Prop where
  trimmed : trimString s = s
  unquoted : '"' ∉ s.toList

instance (s : String) : Decidable (Tidy s) :=
  decidable_of_iff (trimString s = s ∧ '"' ∉ s.toList) ⟨fun h => ⟨h.1, h.2⟩, fun h => ⟨h.trimmed, h.unquoted⟩⟩

theorem tidy_trim {cs : List Char} (unquoted : '"' ∉ cs) : Tidy (.ofList (trim cs)) where
  trimmed := by rw [trimString, String.toList_ofList, trim_trim]
  unquoted := by
    rw [String.toList_ofList]
    exact fun member => unquoted ((trim_isInfix cs).subset member)

/-- A tag that a text can ask for: both halves are tidy and not empty, and the namespace is not reserved. -/
structure Tag.Readable (t : Tag) : Prop where
  ns : t.ns ≠ "" ∧ Tidy t.ns
  value : t.value ≠ "" ∧ Tidy t.value
  free : String.ofList (t.ns.toList.map Char.toLower) ∉ MetaKey.words

instance (t : Tag) : Decidable t.Readable :=
  decidable_of_iff ((t.ns ≠ "" ∧ Tidy t.ns) ∧ (t.value ≠ "" ∧ Tidy t.value) ∧ _)
    ⟨fun h => ⟨h.1, h.2.1, h.2.2⟩, fun h => ⟨h.ns, h.value, h.free⟩⟩

/-- The value of a meta filter makes sense for its key. -/
def MetaFilter.Valid (m : MetaFilter) : Prop :=
  match m.key with
  | .package => True
  | .kind => ∃ k : Kind, k.display = m.value
  | .sort => ∃ field : SortField, field.display = m.value
  | .order => m.value = "asc" ∨ m.value = "desc"
  | .after | .before => ∃ date, date? m.value = some date

/-- The check of a value passes if the value makes sense. -/
theorem MetaFilter.check_eq_ok_iff {m : MetaFilter} : m.key.check m.value = .ok () ↔ m.Valid := by
  unfold MetaKey.check Valid
  cases m.key with
  | package => exact iff_of_true rfl trivial
  | kind => simp [← Kind.ofString?_eq_some_iff, Option.isSome_iff_exists]
  | sort => simp [← SortField.ofString?_eq_some_iff, Option.isSome_iff_exists]
  | order => simp [or_iff_not_imp_left]
  | after | before => simp [Option.isSome_iff_exists]

instance (m : MetaFilter) : Decidable m.Valid := decidable_of_iff _ MetaFilter.check_eq_ok_iff

/-- What a text can ask for. -/
def Criterion.Readable : Criterion → Prop
  | .keyword f => f.value ≠ "" ∧ '"' ∉ f.value.toList
  | .tag f => f.value.Readable
  | .option f => Tidy f.value ∧ f.Valid

theorem ofList_ne_empty_iff {cs : List Char} : String.ofList cs ≠ "" ↔ cs ≠ [] := by
  rw [ne_eq, ne_eq, ← String.toList_inj, String.toList_ofList, String.toList_empty]

/-- A plain token stands for something that a text can ask for. -/
theorem Token.Plain.readable {t : Token} {c : Criterion} (plain : t.Plain) (read : t.criterion = .ok c) :
    c.Readable := by
  have word : t.keyword.Readable := by
    refine ⟨ofList_ne_empty_iff.2 plain.filled, ?_⟩
    rw [String.toList_ofList]
    exact plain.unquoted
  obtain ⟨negated, head, tail⟩ := t
  cases tail with
  | none =>
    obtain rfl := Except.ok.inj read
    exact word
  | some tail =>
    have unquoted := plain.unquoted
    simp only [text, List.mem_append, List.mem_cons, not_or] at unquoted
    obtain ⟨first, -, second⟩ := unquoted
    unfold criterion at read
    dsimp only at read
    split at read
    · obtain ⟨⟨⟩, checked, rfl⟩ := exists_of_map_eq_ok read
      exact ⟨tidy_trim second, MetaFilter.check_eq_ok_iff.1 checked⟩
    · next free =>
      split at read
      · obtain rfl := Except.ok.inj read
        exact word
      · next filled =>
        obtain rfl := Except.ok.inj read
        simp only [Bool.or_eq_true, String.isEmpty_iff, not_or] at filled
        exact ⟨⟨filled.1, tidy_trim first⟩, ⟨filled.2, tidy_trim second⟩, MetaKey.ofString?_eq_none_iff.1 free⟩

namespace Search
variable {search : Search}

/-- A search as it can be read from a text. -/
structure Readable (search : Search) : Prop where
  keywords : ∀ k ∈ search.keywords, k.value ≠ "" ∧ '"' ∉ k.value.toList
  tags : ∀ t ∈ search.tags, t.value.Readable
  metas : ∀ m ∈ search.metas, Tidy m.value ∧ m.Valid

instance (search : Search) : Decidable search.Readable :=
  decidable_of_iff ((∀ k ∈ search.keywords, k.value ≠ "" ∧ '"' ∉ k.value.toList)
      ∧ (∀ t ∈ search.tags, t.value.Readable) ∧ ∀ m ∈ search.metas, Tidy m.value ∧ m.Valid)
    ⟨fun h => ⟨h.1, h.2.1, h.2.2⟩, fun h => ⟨h.keywords, h.tags, h.metas⟩⟩

theorem readable_ofCriteria {cs : List Criterion} (readable : ∀ c ∈ cs, c.Readable) : (ofCriteria cs).Readable where
  keywords := fun _ member => readable _ (mem_keywords_ofCriteria_iff.1 member)
  tags := fun _ member => readable _ (mem_tags_ofCriteria_iff.1 member)
  metas := fun _ member => readable _ (mem_metas_ofCriteria_iff.1 member)

/-- Whatever is read from a text is tidy and makes sense. -/
theorem readable_of_parse {text : String} (parsed : parse text = .ok search) : search.Readable := by
  obtain ⟨tokens, cs, scanned, found, rfl⟩ := exists_criteria_of_parse parsed
  refine readable_ofCriteria fun c member => ?_
  obtain ⟨t, place, read⟩ := exists_token_of_criteria found member
  exact (Token.plain_of_tokenize scanned t place).readable read

/-- Every meta filter that counts is decided by its value: where a key is asked for, its value can be looked up, stickers
are tested for what the filter says, and statements have a condition that says it. -/
structure Definite (search : Search) : Prop where
  sortField : search.Asks .sort → search.sortField?.isSome
  kind : search.Asks .kind → search.kind?.isSome
  after : search.Asks .after → (search.dateBound? .after).isSome
  before : search.Asks .before → (search.dateBound? .before).isSome
  tested : ∀ m ∈ search.effectiveMetas, ∀ s : Sticker, s.satisfiesMeta search m = true ↔ s.MatchesMeta m
  selected : ∀ m ∈ search.effectiveMetas, m.key ≠ .sort → m.key ≠ .order → (search.metaCondition? m).isSome

namespace Readable

theorem valid (readable : search.Readable) {m : MetaFilter} (first : search.IsFirst m) : m.Valid :=
  (readable.metas m first.mem).2

theorem sortField_isSome (readable : search.Readable) (asked : search.Asks .sort) : search.sortField?.isSome := by
  obtain ⟨⟨key, value, negated⟩, first, rfl, looked⟩ := asked.exists_first
  obtain ⟨field, named⟩ := readable.valid first
  rw [sortField?, looked, Option.bind_some, SortField.ofString?_eq_some_iff.2 named]
  rfl

theorem kind_isSome (readable : search.Readable) (asked : search.Asks .kind) : search.kind?.isSome := by
  obtain ⟨⟨key, value, negated⟩, first, rfl, looked⟩ := asked.exists_first
  obtain ⟨k, named⟩ := readable.valid first
  rw [kind?, looked, Option.bind_some, Kind.ofString?_eq_some_iff.2 named]
  rfl

theorem dateBound_isSome (readable : search.Readable) {key : MetaKey} (dated : key = .after ∨ key = .before)
    (asked : search.Asks key) : (search.dateBound? key).isSome := by
  obtain ⟨m, first, rfl, looked⟩ := asked.exists_first
  have valid := MetaFilter.check_eq_ok_iff.2 (readable.valid first)
  obtain ⟨bound, read⟩ := MetaKey.exists_date_of_check dated valid
  rw [dateBound?, looked, Option.bind_some, read]
  rfl

theorem metaCondition_isSome (readable : search.Readable) {m : MetaFilter} (first : search.IsFirst m)
    (notSort : m.key ≠ .sort) (notOrder : m.key ≠ .order) : (search.metaCondition? m).isSome := by
  have asked : search.Asks m.key := ⟨m, first.mem, rfl⟩
  unfold metaCondition?
  cases key : m.key with
  | package | kind => rfl
  | after =>
    rw [Option.isSome_map]
    exact readable.dateBound_isSome (.inl rfl) (key ▸ asked)
  | before =>
    rw [Option.isSome_map]
    exact readable.dateBound_isSome (.inr rfl) (key ▸ asked)
  | sort => exact absurd key notSort
  | order => exact absurd key notOrder

/-- No value is passed over. -/
theorem definite (readable : search.Readable) : search.Definite where
  sortField := readable.sortField_isSome
  kind := readable.kind_isSome
  after := readable.dateBound_isSome (.inl rfl)
  before := readable.dateBound_isSome (.inr rfl)
  tested := fun m member s => by
    have first := mem_effectiveMetas_iff.1 member
    exact Sticker.satisfiesMeta_iff first (MetaFilter.check_eq_ok_iff.2 (readable.valid first))
  selected := fun m member => readable.metaCondition_isSome (mem_effectiveMetas_iff.1 member)

end Readable

end Search

end StickerBook
