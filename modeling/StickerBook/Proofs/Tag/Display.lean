import StickerBook.Library.File
import StickerBook.Proofs.Json.Quoted
import StickerBook.Proofs.Json.Yields
import StickerBook.Proofs.Tag

/-!
# Written forms of tags

A tag can have any halves, but only a `Proper` one is read back from its written form (`Tag.parse_display_iff`), and
only a proper one is ever read from a text (`Tag.proper_of_parse`). In JSON a tag is a string with its written form, so
that the same tags are read back there (`Tag.ofJson_toJson_iff`). The main statement is
`Tag.survives_writing_iff_proper`.
-/

namespace StickerBook.Tag
set_option autoImplicit false
open Text (Trimmed trim trimString trim_eq_self_iff trim_isInfix trim_trim)
variable {s : String} {t u : Tag}

/-- Both halves of the tag are trimmed and not empty, and no colon is in its namespace. -/
structure Proper (t : Tag) : Prop where
  filled : t.ns ≠ "" ∧ t.value ≠ ""
  trimmed : trimString t.ns = t.ns ∧ trimString t.value = t.value
  undivided : ':' ∉ t.ns.toList

instance (t : Tag) : Decidable t.Proper :=
  decidable_of_iff ((t.ns ≠ "" ∧ t.value ≠ "") ∧ (trimString t.ns = t.ns ∧ trimString t.value = t.value) ∧ _)
    ⟨fun h => ⟨h.1, h.2.1, h.2.2⟩, fun h => ⟨h.filled, h.trimmed, h.undivided⟩⟩

theorem trimString_eq_self_iff : trimString s = s ↔ trim s.toList = s.toList := by
  rw [← String.toList_inj, Text.toList_trimString]

/-- What is read from a text is proper. -/
theorem proper_of_parse (read : parse s = .ok t) : t.Proper := by
  obtain ⟨before, after, -, first, ns, value, filled, filled'⟩ := parse_eq_ok_iff.1 read
  refine ⟨⟨?ns, ?value⟩, ⟨?ns_trimmed, ?value_trimmed⟩, ?undivided⟩
  case ns =>
    intro empty
    rw [empty] at ns
    exact filled ns.symm
  case value =>
    intro empty
    rw [empty] at value
    exact filled' value.symm
  case ns_trimmed => rw [trimString_eq_self_iff, ns, trim_trim]
  case value_trimmed => rw [trimString_eq_self_iff, value, trim_trim]
  case undivided =>
    rw [ns]
    exact fun member => first ((trim_isInfix before).subset member)

namespace Proper

theorem trim_ns (proper : t.Proper) : trim t.ns.toList = t.ns.toList := trimString_eq_self_iff.1 proper.trimmed.1

theorem trim_value (proper : t.Proper) : trim t.value.toList = t.value.toList :=
  trimString_eq_self_iff.1 proper.trimmed.2

theorem ns_ne_nil (proper : t.Proper) : t.ns.toList ≠ [] :=
  fun empty => proper.filled.1 (String.toList_eq_nil_iff.1 empty)

theorem value_ne_nil (proper : t.Proper) : t.value.toList ≠ [] :=
  fun empty => proper.filled.2 (String.toList_eq_nil_iff.1 empty)

/-- No blank stands at either end of the written form: one end belongs to the namespace, the other to the value. -/
theorem trimmed_display (proper : t.Proper) : Trimmed t.display.toList := by
  have ns := trim_eq_self_iff.1 proper.trim_ns
  have value := trim_eq_self_iff.1 proper.trim_value
  rw [toList_display]
  constructor
  · intro c first
    rw [List.head?_append_of_ne_nil _ proper.ns_ne_nil] at first
    exact ns.1 c first
  · intro c last
    rw [List.getLast?_append_of_ne_nil _ (List.cons_ne_nil _ _), List.getLast?_cons_of_ne_nil proper.value_ne_nil] at last
    exact value.2 c last

end Proper

/-- A tag is read back from its written form exactly if it is proper. -/
theorem parse_display_iff : parse t.display = .ok t ↔ t.Proper := by
  constructor
  · exact proper_of_parse
  · intro proper
    have whole := trim_eq_self_iff.2 proper.trimmed_display
    refine parse_eq_ok_iff.2 ⟨t.ns.toList, t.value.toList, ?_, proper.undivided, proper.trim_ns.symm,
      proper.trim_value.symm, ?_, ?_⟩
    · rw [whole, toList_display]
    · rw [proper.trim_ns]
      exact proper.ns_ne_nil
    · rw [proper.trim_value]
      exact proper.value_ne_nil

theorem toOption_parse_iff : (parse s).toOption = some t ↔ parse s = .ok t := by
  cases parse s <;> simp [Except.toOption]

/-- A tag is read from a string literal just if it is read from the string. -/
theorem ofJson_quoted_iff : ofJson (Json.quoted s) = .ok t ↔ parse s = .ok t := by
  have literal := Json.string_quoted s []
  rw [List.append_nil] at literal
  unfold ofJson LibraryFile.tagReader
  rw [Json.document_eq_ok_iff]
  simp only [Json.refine_eq_ok_iff, literal, Except.ok.injEq, Prod.mk.injEq, ← toOption_parse_iff]
  constructor
  · rintro ⟨rest, ⟨a, ⟨rfl, rfl⟩, read⟩, -⟩
    exact read
  · intro read
    exact ⟨[], ⟨s, ⟨rfl, rfl⟩, read⟩, rfl⟩

/-- In JSON the same tags are read back. -/
theorem ofJson_toJson_iff : ofJson t.toJson = .ok t ↔ t.Proper := by
  unfold toJson
  rw [ofJson_quoted_iff, parse_display_iff]

/-- **A tag survives being written and read exactly if it is proper**, as a text of its own and in JSON. Every tag that
is read from a text is proper, so that it is read back from its written form, and no other tag that is read from a text
has the same one. -/
theorem survives_writing_iff_proper :
    (∀ ns value : String, (parse (display ⟨ns, value⟩) = .ok ⟨ns, value⟩ ↔ Proper ⟨ns, value⟩) ∧
      (ofJson (toJson ⟨ns, value⟩) = .ok ⟨ns, value⟩ ↔ Proper ⟨ns, value⟩)) ∧
    (∀ s t, parse s = .ok t → t.Proper ∧ parse t.display = .ok t) ∧
    ∀ s s' t t', parse s = .ok t → parse s' = .ok t' → (t.display = t'.display ∨ t.toJson = t'.toJson) → t = t' := by
  refine ⟨fun ns value => ⟨parse_display_iff, ofJson_toJson_iff⟩, fun s t read => ?again, ?apart⟩
  case again => exact ⟨proper_of_parse read, parse_display_iff.2 (proper_of_parse read)⟩
  case apart =>
    rintro s s' t t' read read' (same | same)
    · have reads := parse_display_iff.2 (proper_of_parse read)
      rw [same, parse_display_iff.2 (proper_of_parse read')] at reads
      exact (Except.ok.inj reads).symm
    · have reads := ofJson_toJson_iff.2 (proper_of_parse read)
      rw [same, ofJson_toJson_iff.2 (proper_of_parse read')] at reads
      exact (Except.ok.inj reads).symm

/-- A value can hold colons and blanks, and the blanks around the halves of a text are gone once it has been read. -/
theorem survives_writing_colons : parse " mood :in: out " = .ok ⟨"mood", "in: out"⟩ ∧
    Proper ⟨"mood", "in: out"⟩ ∧ parse (display ⟨"mood", "in: out"⟩) = .ok ⟨"mood", "in: out"⟩ := by
  have read : parse " mood :in: out " = .ok ⟨"mood", "in: out"⟩ := by decide +kernel
  exact ⟨read, survives_writing_iff_proper.2.1 _ _ read⟩

end StickerBook.Tag
