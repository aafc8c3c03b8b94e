import StickerBook.Proofs.Library.RowOrder
import StickerBook.Proofs.Search.Meaning
import StickerBook.Proofs.Search.Token

/-!
# What a leading minus does

A minus before a text of one filter negates that filter, if the filter stands at the very start of the text
(`Search.parse_minus_iff`). The stickers that the negated filter selects are those that the filter does not select, unless
it is a date filter: those take no negation (`Search.satisfies_negate`).
-/

namespace StickerBook
set_option autoImplicit false

namespace Criterion

/-- The criterion has a minus. -/
def negated : Criterion → Bool
  | .keyword f => f.negated
  | .tag f => f.negated
  | .option f => f.negated

/-- The criterion with the given sign. -/
def sign (negated : Bool) : Criterion → Criterion
  | .keyword f => .keyword { f with negated }
  | .tag f => .tag { f with negated }
  | .option f => .option { f with negated }

/-- The criterion with a minus. -/
def negate (c : Criterion) : Criterion := c.sign true

/-- A minus turns the meaning of the criterion around. It says nothing about dates, nor about the order of results. -/
def takesNegation : Criterion → Bool
  | .keyword _ => true
  | .tag _ => true
  | .option f => decide (f.key = .package ∨ f.key = .kind)

@[simp] theorem negated_sign (negated : Bool) (c : Criterion) : (c.sign negated).negated = negated := by
  cases c <;> rfl

end Criterion

/-- The sign of a token is that of its criterion; nothing else depends on it. -/
theorem Token.criterion_sign (t : Token) (negated : Bool) :
    { t with negated }.criterion = t.criterion.map (Criterion.sign negated) := by
  obtain ⟨sign, head, tail⟩ := t
  cases tail with
  | none => rfl
  | some tail =>
    unfold criterion
    dsimp only
    split
    · next key _ => cases key.check (String.ofList (Text.trim tail)) <;> rfl
    · split <;> rfl

theorem Token.negated_of_criterion {t : Token} {c : Criterion} (read : t.criterion = .ok c) : c.negated = t.negated := by
  have same := t.criterion_sign t.negated
  rw [read] at same
  rw [Except.ok.inj same, Criterion.negated_sign]

theorem length_criteria {tokens : List Token} {cs : List Criterion} (read : criteria tokens = .ok cs) :
    cs.length = tokens.length := by
  induction tokens generalizing cs with
  | nil =>
    obtain rfl := Except.ok.inj read
    rfl
  | cons t rest ih =>
    unfold criteria at read
    split at read
    · cases read
    · obtain ⟨more, tail, rfl⟩ := exists_of_map_eq_ok read
      rw [List.length_cons, List.length_cons, ih tail]

theorem criteria_single_iff {t : Token} {c : Criterion} : criteria [t] = .ok [c] ↔ t.criterion = .ok c := by
  unfold criteria
  cases t.criterion with
  | error e => simp
  | ok c' => simp [criteria, Except.map]

/-- A minus turns a package or kind filter around. -/
theorem Sticker.satisfiesMeta_negate {s : Sticker} {f : MetaFilter} (valid : f.key.check f.value = .ok ())
    (plain : f.negated = false) :
    s.satisfiesMeta { metas := [{ f with negated := true }] } { f with negated := true }
      = (s.satisfiesMeta { metas := [f] } f != decide (f.key = .package ∨ f.key = .kind)) := by
  obtain ⟨key, value, negated⟩ := f
  obtain rfl : negated = false := plain
  cases key with
  | package => simp [satisfiesMeta]
  | kind =>
    obtain ⟨k, named⟩ := MetaKey.exists_kind_of_check valid
    simp [satisfiesMeta, Search.kind?, Search.meta?, named]
  | after | before => simp [satisfiesMeta, Search.dateBound?, Search.meta?]
  | sort | order => rfl

namespace Search

/-- Each criterion adds one filter. -/
theorem length_ofCriteria (cs : List Criterion) :
    (ofCriteria cs).keywords.length + (ofCriteria cs).tags.length + (ofCriteria cs).metas.length = cs.length := by
  induction cs with
  | nil => rfl
  | cons c rest ih =>
    unfold ofCriteria at ih ⊢
    cases c <;> simp only [List.filterMap_cons, List.length_cons] at ih ⊢ <;> omega

theorem ofCriteria_eq_single_iff {cs : List Criterion} {c : Criterion} :
    ofCriteria cs = ofCriteria [c] ↔ cs = [c] := by
  refine ⟨fun same => ?_, congrArg ofCriteria⟩
  have length := length_ofCriteria cs
  rw [same, length_ofCriteria] at length
  obtain ⟨c', rfl⟩ := List.length_eq_one_iff.1 length.symm
  cases c <;> cases c' <;> simp_all [ofCriteria]

/-- A text is read as one filter if it has one token and that is its criterion. -/
theorem parse_single_iff {text : String} {c : Criterion} : parse text = .ok (ofCriteria [c]) ↔
    ∃ t, Token.tokenize text.toList = .ok [t] ∧ t.criterion = .ok c := by
  unfold parse
  constructor
  · intro read
    split at read
    · cases read
    · next tokens scanned =>
      obtain ⟨cs, found, same⟩ := exists_of_map_eq_ok read
      obtain rfl := ofCriteria_eq_single_iff.1 same
      obtain ⟨t, rfl⟩ := List.length_eq_one_iff.1 (length_criteria found).symm
      exact ⟨t, scanned, criteria_single_iff.1 found⟩
  · rintro ⟨t, scanned, found⟩
    rw [scanned]
    dsimp only
    rw [criteria_single_iff.2 found]
    rfl

/-- A minus before a text of one filter negates the filter exactly if the filter stands at the start of the text. -/
theorem parse_minus_iff {text : String} {c : Criterion} (parsed : parse text = .ok (ofCriteria [c]))
    (plain : c.negated = false) :
    parse ("-" ++ text) = .ok (ofCriteria [c.negate]) ↔ Token.Leads text.toList := by
  obtain ⟨t, scanned, found⟩ := parse_single_iff.1 parsed
  have minus : ("-" ++ text).toList = '-' :: text.toList := by simp
  rw [parse_single_iff, minus]
  constructor
  · rintro ⟨t', scanned', found'⟩
    by_cases follows : Token.Leads text.toList
    · exact follows
    exfalso
    have unsigned : t.negated = false := (Token.negated_of_criterion found).symm.trans plain
    rcases Token.tokenize_minus_of_not_leads follows scanned unsigned with refused | vanished | ⟨sign, more⟩
    · cases refused.symm.trans scanned'
    · obtain ⟨rfl, -⟩ := List.cons_eq_cons.1 (Except.ok.inj (vanished.symm.trans scanned'))
      have same : c.negate = c := Except.ok.inj (found'.symm.trans found)
      have signs := congrArg Criterion.negated same
      rw [Criterion.negate, Criterion.negated_sign, plain] at signs
      cases signs
    · cases (List.cons_eq_cons.1 (Except.ok.inj (more.symm.trans scanned'))).2
  · intro leads
    refine ⟨_, Token.tokenize_minus_of_leads leads scanned, ?_⟩
    rw [Token.criterion_sign, found]
    rfl

/-- A filter with a minus selects the stickers that the filter does not select, unless it takes no negation. -/
theorem satisfies_negate {text : String} {c : Criterion} (parsed : parse text = .ok (ofCriteria [c]))
    (plain : c.negated = false) (s : Sticker) :
    s.satisfies (ofCriteria [c.negate]) = (s.satisfies (ofCriteria [c]) != c.takesNegation) := by
  cases c with
  | keyword f =>
    have unsigned : f.negated = false := plain
    have one := s.satisfies_keyword f
    have other := s.satisfies_keyword { f with negated := true }
    show s.satisfies { keywords := [{ f with negated := true }] } = (s.satisfies { keywords := [f] } != true)
    rw [one, other, Sticker.satisfiesKeyword, Sticker.satisfiesKeyword, unsigned, Bool.bne_false]
  | tag f =>
    have unsigned : f.negated = false := plain
    have one := s.satisfies_tag f
    have other := s.satisfies_tag { f with negated := true }
    show s.satisfies { tags := [{ f with negated := true }] } = (s.satisfies { tags := [f] } != true)
    rw [one, other, Sticker.satisfiesTag, Sticker.satisfiesTag, unsigned, Bool.bne_false]
  | option f =>
    have unsigned : f.negated = false := plain
    have valid : f.key.check f.value = .ok () := check_of_parse parsed List.mem_cons_self
    have one := s.satisfies_option f
    have other := s.satisfies_option { f with negated := true }
    show s.satisfies { metas := [{ f with negated := true }] }
      = (s.satisfies { metas := [f] } != decide (f.key = .package ∨ f.key = .kind))
    rw [one, other, Sticker.satisfiesMeta_negate valid unsigned]

/-- The order of results does not depend on signs. -/
theorem compareRows_negate (c : Criterion) : (ofCriteria [c.negate]).compareRows = (ofCriteria [c]).compareRows := by
  cases c with
  | keyword f | tag f => rfl
  | option f =>
    obtain ⟨key, value, negated⟩ := f
    cases key <;> rfl

/-- **A leading minus negates**, for every text that is read as one filter without a minus. The text with a minus is read
as the negated filter exactly if the filter stands at the start of the text. The negated filter selects just the
stickers that the filter does not select, so that the two searches share out every library; a filter that takes no
negation selects the same stickers with a minus as without. -/
theorem minus_negates {text : String} {c : Criterion} (parsed : parse text = .ok (ofCriteria [c]))
    (plain : c.negated = false) :
    (parse ("-" ++ text) = .ok (ofCriteria [c.negate]) ↔ Token.Leads text.toList) ∧
    (∀ s : Sticker, s.satisfies (ofCriteria [c.negate]) = (s.satisfies (ofCriteria [c]) != c.takesNegation)) ∧
    (∀ stickers, c.takesNegation = true →
      ((ofCriteria [c]).rows stickers ++ (ofCriteria [c.negate]).rows stickers).Perm stickers) ∧
    ∀ stickers, c.takesNegation = false → (ofCriteria [c.negate]).rows stickers = (ofCriteria [c]).rows stickers := by
  have selects := satisfies_negate parsed plain
  refine ⟨parse_minus_iff parsed plain, selects, fun stickers turns => ?shared, fun stickers ignored => ?same⟩
  case shared =>
    have complement : stickers.filter (·.satisfies (ofCriteria [c.negate]))
        = stickers.filter fun s => !s.satisfies (ofCriteria [c]) := by
      refine List.filter_congr fun s _ => ?_
      rw [selects, turns, Bool.bne_true]
    have rows := (rows_perm (ofCriteria [c]) stickers).append (rows_perm (ofCriteria [c.negate]) stickers)
    rw [complement] at rows
    exact rows.trans (List.filter_append_perm _ stickers)
  case same =>
    have selected : stickers.filter (·.satisfies (ofCriteria [c.negate]))
        = stickers.filter (·.satisfies (ofCriteria [c])) := by
      refine List.filter_congr fun s _ => ?_
      rw [selects, ignored, Bool.bne_false]
    unfold rows
    rw [selected, compareRows_negate]

theorem minus_negates_kind :
    let c : Criterion := .option { key := .kind, value := "pic" }
    parse "type:pic" = .ok (ofCriteria [c]) ∧ c.negated = false ∧
      (parse "-type:pic" = .ok (ofCriteria [c.negate]) ↔ Token.Leads "type:pic".toList) ∧
      (∀ s : Sticker, s.satisfies (ofCriteria [c.negate]) = (s.satisfies (ofCriteria [c]) != c.takesNegation)) ∧
      (∀ stickers, c.takesNegation = true →
        ((ofCriteria [c]).rows stickers ++ (ofCriteria [c.negate]).rows stickers).Perm stickers) ∧
      ∀ stickers, c.takesNegation = false →
        (ofCriteria [c.negate]).rows stickers = (ofCriteria [c]).rows stickers := by
  intro c
  have parsed : parse "type:pic" = .ok (ofCriteria [c]) := by rfl
  exact ⟨parsed, rfl, minus_negates parsed rfl⟩

/-- A sticker that was changed after a date is found whether or not the date filter has a minus. -/
theorem minus_lost_on_date :
    let c : Criterion := .option { key := .after, value := "100" }
    let s : Sticker := { id := 1, name := "cat", modifyDate := 150 }
    parse "after:100" = .ok (ofCriteria [c]) ∧ c.negated = false ∧
      parse "-after:100" = .ok (ofCriteria [c.negate]) ∧
      s.satisfies (ofCriteria [c]) = true ∧ s.satisfies (ofCriteria [c.negate]) = true := by
  refine ⟨by rfl, rfl, by rfl, ?_, ?_⟩
  · decide +kernel
  · decide +kernel

end Search

end StickerBook
