import StickerBook.Library.Lookup
import StickerBook.Proofs.Distinct
import StickerBook.Proofs.Except

/-!
# What a search means

`Sticker.Matches` says in terms of the filters alone which stickers a search selects. The test that runs
agrees with it on every search that was read from a text (`satisfies_iff_matches`), since such a search holds
only values that make sense for their keys (`check_of_parse`).
-/

namespace StickerBook
set_option autoImplicit false
open Text (contains_iff lower)

/-- The first meta filter of its key. -/
def Search.IsFirst (search : Search) (m : MetaFilter) : Prop :=
  ∃ front back, search.metas = front ++ m :: back ∧ ∀ b ∈ front, b.key ≠ m.key

namespace Sticker

/-- A sticker has the property of a meta filter. A date filter names a bound that belongs to the interval and
takes no negation. -/
def MatchesMeta (s : Sticker) (m : MetaFilter) : Prop :=
  match m.key with
  | .package => s.package = m.value ↔ m.negated = false
  | .kind => s.kind.display = m.value ↔ m.negated = false
  | .after => ∃ bound, date? m.value = some bound ∧ bound ≤ s.modifyDate
  | .before => ∃ bound, date? m.value = some bound ∧ s.modifyDate ≤ bound
  | .sort | .order => True

/-- A sticker has every keyword in its name, every tag, and the first meta filter of every key. -/
structure Matches (s : Sticker) (search : Search) : Prop where
  keywords : ∀ k ∈ search.keywords, lower k.value.toList <:+: lower s.name.toList ↔ k.negated = false
  tags : ∀ t ∈ search.tags, t.value ∈ s.tags ↔ t.negated = false
  metas : ∀ m, search.IsFirst m → s.MatchesMeta m

end Sticker

/-- What a token stands for has been checked. -/
theorem Token.check_of_criterion {t : Token} {m : MetaFilter} (read : t.criterion = .ok (.option m)) :
    m.key.check m.value = .ok () := by
  unfold criterion at read
  split at read
  · cases read
  · dsimp only at read
    split at read
    · obtain ⟨⟨⟩, checked, same⟩ := exists_of_map_eq_ok read
      obtain rfl := Criterion.option.inj same
      exact checked
    · split at read <;> cases read

/-- Each criterion comes from a token. -/
theorem exists_token_of_criteria {tokens : List Token} {cs : List Criterion}
    (read : criteria tokens = .ok cs) {c : Criterion} (member : c ∈ cs) :
    ∃ t ∈ tokens, t.criterion = .ok c := by
  induction tokens generalizing cs with
  | nil =>
    obtain rfl : [] = cs := Except.ok.inj read
    cases member
  | cons t rest ih =>
    unfold criteria at read
    split at read
    · cases read
    · next first head =>
      obtain ⟨more, tail, rfl⟩ := exists_of_map_eq_ok read
      rcases List.mem_cons.1 member with rfl | later
      · exact ⟨t, List.mem_cons_self, head⟩
      · obtain ⟨t', place, same⟩ := ih tail later
        exact ⟨t', List.mem_cons_of_mem _ place, same⟩

namespace Search
variable {search : Search} {cs : List Criterion}

theorem mem_keywords_ofCriteria_iff {k : Filter String} : k ∈ (ofCriteria cs).keywords ↔ .keyword k ∈ cs := by
  refine List.mem_filterMap.trans ⟨?_, fun member => ⟨_, member, rfl⟩⟩
  rintro ⟨c, member, same⟩
  cases c with
  | keyword f =>
    obtain rfl := Option.some.inj same
    exact member
  | tag | option => cases same

theorem mem_tags_ofCriteria_iff {t : Filter Tag} : t ∈ (ofCriteria cs).tags ↔ .tag t ∈ cs := by
  refine List.mem_filterMap.trans ⟨?_, fun member => ⟨_, member, rfl⟩⟩
  rintro ⟨c, member, same⟩
  cases c with
  | tag f =>
    obtain rfl := Option.some.inj same
    exact member
  | keyword | option => cases same

theorem mem_metas_ofCriteria_iff {m : MetaFilter} : m ∈ (ofCriteria cs).metas ↔ .option m ∈ cs := by
  refine List.mem_filterMap.trans ⟨?_, fun member => ⟨_, member, rfl⟩⟩
  rintro ⟨c, member, same⟩
  cases c with
  | option f =>
    obtain rfl := Option.some.inj same
    exact member
  | keyword | tag => cases same

/-- A search that was read comes from the filters of the tokens of its text. -/
theorem exists_criteria_of_parse {text : String} (parsed : parse text = .ok search) :
    ∃ tokens cs, Token.tokenize text.toList = .ok tokens ∧ criteria tokens = .ok cs ∧ ofCriteria cs = search := by
  unfold parse at parsed
  split at parsed
  · cases parsed
  · next tokens scanned =>
    obtain ⟨cs, found, same⟩ := exists_of_map_eq_ok parsed
    exact ⟨tokens, cs, scanned, found, same⟩

/-- The meta filters of a search that was read from a text have valid values. -/
theorem check_of_parse {text : String} (parsed : parse text = .ok search) {m : MetaFilter}
    (member : m ∈ search.metas) : m.key.check m.value = .ok () := by
  obtain ⟨tokens, cs, -, read, rfl⟩ := exists_criteria_of_parse parsed
  obtain ⟨t, -, criterion⟩ := exists_token_of_criteria read (mem_metas_ofCriteria_iff.1 member)
  exact Token.check_of_criterion criterion

theorem mem_effectiveMetas_iff {m : MetaFilter} : m ∈ search.effectiveMetas ↔ search.IsFirst m :=
  mem_distinctBy_iff

theorem IsFirst.mem {m : MetaFilter} (first : search.IsFirst m) : m ∈ search.metas := by
  obtain ⟨front, back, parts, -⟩ := first
  rw [parts]
  exact List.mem_append_right _ List.mem_cons_self

/-- What is looked up is the first filter of a key. -/
theorem meta?_eq_some_iff {key : MetaKey} {m : MetaFilter} :
    search.meta? key = some m ↔ search.IsFirst m ∧ m.key = key := by
  unfold meta? IsFirst
  rw [List.find?_eq_some_iff_append, and_comm, decide_eq_true_iff]
  refine and_congr_left fun same => ?_
  subst same
  simp

theorem IsFirst.meta?_eq {m : MetaFilter} (first : search.IsFirst m) : search.meta? m.key = some m :=
  meta?_eq_some_iff.2 ⟨first, rfl⟩

/-- A key has one first filter. -/
theorem IsFirst.unique {m m' : MetaFilter} (first : search.IsFirst m) (first' : search.IsFirst m')
    (same : m.key = m'.key) : m = m' :=
  Option.some.inj (first.meta?_eq.symm.trans (same ▸ first'.meta?_eq))

/-- A key is asked for. -/
def Asks (search : Search) (key : MetaKey) : Prop := ∃ m ∈ search.metas, m.key = key

/-- Of the filters of a key that is asked for, the first one is looked up. -/
theorem Asks.exists_first {key : MetaKey} (asked : search.Asks key) :
    ∃ m, search.IsFirst m ∧ m.key = key ∧ search.meta? key = some m := by
  obtain ⟨m, member, rfl⟩ := asked
  obtain ⟨first, kept, same⟩ : ∃ b ∈ search.effectiveMetas, b.key = m.key := exists_mem_distinctBy member
  have isFirst := mem_effectiveMetas_iff.1 kept
  exact ⟨first, isFirst, same, same ▸ isFirst.meta?_eq⟩

end Search

/-- A valid kind filter names a kind. -/
theorem MetaKey.exists_kind_of_check {value : String} (valid : MetaKey.kind.check value = .ok ()) :
    ∃ k, Kind.ofString? value = some k := by
  apply Option.ne_none_iff_exists'.1
  simpa [check] using valid

/-- A valid date filter names a date. -/
theorem MetaKey.exists_date_of_check {key : MetaKey} {value : String} (dated : key = .after ∨ key = .before)
    (valid : key.check value = .ok ()) : ∃ bound, date? value = some bound := by
  apply Option.ne_none_iff_exists'.1
  rcases dated with rfl | rfl <;> simpa [check] using valid

theorem Kind.ofString?_eq_some_iff {word : String} {k : Kind} :
    Kind.ofString? word = some k ↔ k.display = word := by
  constructor
  · intro read
    unfold Kind.ofString? at read
    split at read
    · rw [← Option.some.inj read]
      rfl
    · rw [← Option.some.inj read]
      rfl
    · cases read
  · rintro rfl
    exact Kind.ofString?_display k

theorem SortField.ofString?_eq_some_iff {word : String} {field : SortField} :
    SortField.ofString? word = some field ↔ field.display = word := by
  constructor
  · intro read
    unfold SortField.ofString? at read
    split at read
    · rw [← Option.some.inj read]
      rfl
    · rw [← Option.some.inj read]
      rfl
    · rw [← Option.some.inj read]
      rfl
    · cases read
  · rintro rfl
    cases field <;> rfl

namespace Sticker
variable {search : Search}

/-- A test with a possible negation holds as its property does. -/
theorem bne_negated_iff {p : Prop} [Decidable p] {negated : Bool} :
    (decide p != negated) = true ↔ (p ↔ negated = false) := by
  by_cases holds : p <;> cases negated <;> simp [holds]

theorem satisfiesKeyword_iff {s : Sticker} {k : Filter String} :
    s.satisfiesKeyword k = true ↔ (lower k.value.toList <:+: lower s.name.toList ↔ k.negated = false) := by
  unfold satisfiesKeyword containsFolded
  rw [← contains_iff]
  cases Text.contains (lower k.value.toList) (lower s.name.toList) <;> cases k.negated <;> simp

theorem satisfiesTag_iff {s : Sticker} {t : Filter Tag} :
    s.satisfiesTag t = true ↔ (t.value ∈ s.tags ↔ t.negated = false) := by
  unfold satisfiesTag
  rw [List.contains_eq_mem]
  exact bne_negated_iff

/-- The first meta filter of a key is tested as it reads if its value is valid. -/
theorem satisfiesMeta_iff {s : Sticker} {m : MetaFilter} (first : search.IsFirst m)
    (valid : m.key.check m.value = .ok ()) : s.satisfiesMeta search m = true ↔ s.MatchesMeta m := by
  have looked := first.meta?_eq
  unfold satisfiesMeta MatchesMeta Search.kind? Search.dateBound?
  cases key : m.key with
  | package => exact bne_negated_iff
  | kind =>
    rw [key] at looked valid
    obtain ⟨k, named⟩ := MetaKey.exists_kind_of_check valid
    simp only [looked, Option.bind_some, named, Option.all_some, bne_negated_iff]
    rw [← Kind.ofString?_eq_some_iff, named, Option.some.injEq, eq_comm]
  | after =>
    rw [key] at looked valid
    obtain ⟨bound, dated⟩ := MetaKey.exists_date_of_check (Or.inl rfl) valid
    simp [looked, dated]
  | before =>
    rw [key] at looked valid
    obtain ⟨bound, dated⟩ := MetaKey.exists_date_of_check (Or.inr rfl) valid
    simp [looked, dated]
  | sort | order => exact iff_of_true rfl trivial

/-- The test that runs selects what a search means. -/
theorem satisfies_iff_matches {s : Sticker} {text : String} (parsed : Search.parse text = .ok search) :
    s.satisfies search = true ↔ s.Matches search := by
  unfold satisfies
  rw [Bool.and_eq_true, Bool.and_eq_true, List.all_eq_true, List.all_eq_true, List.all_eq_true]
  constructor
  · rintro ⟨⟨keywords, tags⟩, metas⟩
    refine ⟨fun k member => satisfiesKeyword_iff.1 (keywords k member),
      fun t member => satisfiesTag_iff.1 (tags t member), fun m first => ?_⟩
    have valid := Search.check_of_parse parsed first.mem
    exact (satisfiesMeta_iff first valid).1 (metas m (Search.mem_effectiveMetas_iff.2 first))
  · intro holds
    refine ⟨⟨fun k member => satisfiesKeyword_iff.2 (holds.keywords k member),
      fun t member => satisfiesTag_iff.2 (holds.tags t member)⟩, fun m member => ?_⟩
    have first := Search.mem_effectiveMetas_iff.1 member
    have valid := Search.check_of_parse parsed first.mem
    exact (satisfiesMeta_iff first valid).2 (holds.metas m first)

/-- A search for one keyword asks for that keyword only. -/
theorem satisfies_keyword (s : Sticker) (k : Filter String) : s.satisfies { keywords := [k] } = s.satisfiesKeyword k := by
  simp [satisfies, Search.effectiveMetas, distinctBy]

/-- A search for one tag asks for that tag only. -/
theorem satisfies_tag (s : Sticker) (t : Filter Tag) : s.satisfies { tags := [t] } = s.satisfiesTag t := by
  simp [satisfies, Search.effectiveMetas, distinctBy]

/-- A search with one meta filter asks for the property of that filter only. -/
theorem satisfies_option (s : Sticker) (m : MetaFilter) :
    s.satisfies { metas := [m] } = s.satisfiesMeta { metas := [m] } m := by
  simp [satisfies, Search.effectiveMetas, distinctBy]

end Sticker

end StickerBook
