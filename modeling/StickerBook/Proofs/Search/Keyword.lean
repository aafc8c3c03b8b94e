import StickerBook.Proofs.Search.Selected
import StickerBook.Proofs.Text.Folding

/-!
# Keywords in a library and in its mirror

A library ignores the case of all letters in names, the statements of a search the case of ASCII letters only. A keyword
is decided alike by both for a name to which it is `Comparable`, in any script, and a search with such keywords finds the
same stickers in a library and in a database that mirrors it (`Search.keywords_found_alike`). A letter beyond ASCII in
another case parts them, whatever stands around it (`Search.parted_by_case`).
-/

namespace StickerBook
set_option autoImplicit false
open Text (FoldAlike KeepsSigmas capitalSigma lower)

/-- A keyword stands in a name up to the case of ASCII letters, somewhere with its sigmas in the form that they have in
the keyword alone, or it does not and no character of it is another case of one of the name beyond ASCII. -/
structure Comparable (keyword name : List Char) : Prop where
  standing : keyword.map Char.toLower <:+: name.map Char.toLower → ∃ front piece back, name = front ++ piece ++ back ∧
    keyword.map Char.toLower = piece.map Char.toLower ∧ KeepsSigmas front piece back
  missing : ¬keyword.map Char.toLower <:+: name.map Char.toLower → ∀ c ∈ keyword, ∀ d ∈ name, FoldAlike c d

namespace Comparable
variable {keyword name : List Char}

/-- Without `Σ` no form is lost. -/
theorem of_notMem (without : capitalSigma ∉ keyword)
    (missing : ¬keyword.map Char.toLower <:+: name.map Char.toLower → ∀ c ∈ keyword, ∀ d ∈ name, FoldAlike c d) :
    Comparable keyword name where
  standing := by
    intro standing
    obtain ⟨piece, ⟨front, back, rfl⟩, same⟩ := List.infix_map_iff.1 standing
    refine ⟨front, piece, back, rfl, same, Text.keepsSigmas_of_notMem fun member => without ?_⟩
    have sigma : capitalSigma ∈ keyword.map Char.toLower := same ▸ List.mem_map_of_mem member
    obtain ⟨c, there, lowered⟩ := List.mem_map.1 sigma
    rwa [← Text.toLower_eq_capitalSigma_iff.1 lowered]
  missing := missing

/-- The case of letters beyond ASCII does not matter then. -/
theorem lower_isInfix_iff (comparable : Comparable keyword name) :
    lower keyword <:+: lower name ↔ keyword.map Char.toLower <:+: name.map Char.toLower := by
  constructor
  · intro found
    by_contra missing
    exact missing (Text.map_toLower_isInfix_of_lower (comparable.missing missing) found)
  · intro standing
    obtain ⟨front, piece, back, rfl, same, kept⟩ := comparable.standing standing
    exact Text.lower_isInfix_of_map_toLower same kept

end Comparable

namespace Search
open Sql
variable {search : Search} {k : Filter String} {s : Sticker}

/-- The condition of a keyword and the test of a sticker decide by the same question, but for the case of letters. -/
theorem meets_eq_iff : (keywordCondition k).meets s = s.satisfiesKeyword k ↔
    (lower k.value.toList <:+: lower s.name.toList ↔
      k.value.toList.map Char.toLower <:+: s.name.toList.map Char.toLower) := by
  have pattern := matchesLike_containsPattern k.value s.name
  have test : containsFolded k.value s.name = true ↔ lower k.value.toList <:+: lower s.name.toList := Text.contains_iff
  unfold keywordCondition Condition.meets Sticker.satisfiesKeyword
  rw [← pattern, ← test, Bool.coe_iff_coe]
  cases k.negated <;> simp [eq_comm]

/-- **A keyword is decided alike by the test of a sticker and by its condition in a statement**, if it is comparable to
the name. A search finds the same stickers in a library and in a database that mirrors the library, if its keywords are
comparable to the names of all stickers. -/
theorem keywords_found_alike :
    (∀ (k : Filter String) (s : Sticker), Comparable k.value.toList s.name.toList →
      (keywordCondition k).meets s = s.satisfies { keywords := [k] }) ∧
    ∀ (text : String) (search : Search) (l : Library) (db : Database) (rowOf : Sticker → Row),
      parse text = .ok search → Mirrors db rowOf l.stickers → (l.stickers.map Sticker.id).Nodup →
      (∀ k ∈ search.keywords, ∀ s ∈ l.stickers, Comparable k.value.toList s.name.toList) →
      search.FindsIn db rowOf (l.stickers.filter (·.satisfies search)) := by
  have agree {k : Filter String} {s : Sticker} (comparable : Comparable k.value.toList s.name.toList) :
      (keywordCondition k).meets s = s.satisfiesKeyword k := meets_eq_iff.2 comparable.lower_isInfix_iff
  refine ⟨?verdict, ?mirror⟩
  case verdict =>
    intro k s comparable
    rw [Sticker.satisfies_keyword]
    exact agree comparable
  case mirror =>
    intro text search l db rowOf parsed mirrors ids comparable
    refine findsIn_of_selected mirrors ids fun statement tagged conditions => ?_
    refine List.filter_congr fun s member => selects_eq_satisfies_of_agree tagged conditions parsed fun k asked => ?_
    exact agree (comparable k asked s member)

/-- A small and a capital letter beyond ASCII are found as they stand, and a keyword is missed in a name that shares no
letter with it. -/
theorem keywords_found_alike_ete :
    let kot : Sticker := { id := 1, name := "кот" }
    let ete : Sticker := { id := 2, name := "Été" }
    let l : Library := .ofContents [] [kot, ete]
    let search : Search := { keywords := [{ value := "Été" }, { value := "кот", negated := true }] }
    parse "Été -кот" = .ok search ∧
      (∀ k ∈ search.keywords, ∀ s ∈ l.stickers, Comparable k.value.toList s.name.toList) ∧
      (∀ k ∈ search.keywords, ∀ s ∈ l.stickers, (keywordCondition k).meets s = s.satisfies { keywords := [k] }) ∧
      Mirrors (mirror l.stickers) (stickerRow l.stickers) l.stickers ∧
      search.FindsIn (mirror l.stickers) (stickerRow l.stickers) [ete] := by
  intro kot ete l search
  have parsed : parse "Été -кот" = .ok search := by decide +kernel
  have ids : (l.stickers.map Sticker.id).Nodup := by decide
  have mirrors := mirrors_mirror ids
  have own (keyword : List Char) (without : capitalSigma ∉ keyword) : Comparable keyword keyword :=
    .of_notMem without fun missing => absurd List.infix_rfl missing
  have forms_ete : "Été".toList.flatMap Text.forms = ['é', 't', 'é'] := by decide +kernel
  have forms_kot : "кот".toList.flatMap Text.forms = ['к', 'о', 'т'] := by decide +kernel
  have comparable : ∀ k ∈ search.keywords, ∀ s ∈ l.stickers, Comparable k.value.toList s.name.toList := by
    have stickers : l.stickers = [kot, ete] := rfl
    rw [stickers]
    simp only [List.forall_mem_cons, search]
    refine ⟨⟨?_, ?_, nofun⟩, ⟨?_, ?_, nofun⟩, nofun⟩
    · refine .of_notMem (by decide) fun _ => Text.foldAlike_of_disjoint ?_
      rw [forms_ete, forms_kot]
      simp
    · exact own _ (by decide)
    · exact own _ (by decide)
    · refine .of_notMem (by decide) fun _ => Text.foldAlike_of_disjoint ?_
      rw [forms_ete, forms_kot]
      simp
  have found : l.stickers.filter (·.satisfies search) = [ete] := by decide +kernel
  refine ⟨parsed, comparable, fun k asked s member => ?_, mirrors, ?_⟩
  · exact keywords_found_alike.1 k s (comparable k asked s member)
  · rw [← found]
    exact keywords_found_alike.2 "Été -кот" search l _ _ parsed mirrors ids comparable

/-- Two letters with the same lower-case form that are not equal up to the case of ASCII letters part the test and the
condition: with the one in the keyword and the other at its place in the name, only the test finds the name. -/
theorem parted_by_case (front back : List Char) {c d : Char} (form : Text.lowerChar c = Text.lowerChar d)
    (other : c.toLower ≠ d.toLower) (asked : k.value.toList = front ++ c :: back)
    (named : s.name.toList = front ++ d :: back) (plain : capitalSigma ∉ k.value.toList)
    (plain' : capitalSigma ∉ s.name.toList) : (keywordCondition k).meets s ≠ s.satisfiesKeyword k := by
  intro alike
  have found : lower k.value.toList = lower s.name.toList := by
    rw [Text.lower_eq_flatMap plain, Text.lower_eq_flatMap plain', asked, named]
    simp [form]
  have standing := (meets_eq_iff.1 alike).1 (found ▸ List.infix_rfl)
  rw [asked, named] at standing
  have same := standing.eq_of_length (by simp)
  simp only [List.map_append, List.map_cons, List.append_cancel_left_eq, List.cons.injEq] at same
  exact other same.1

/-- A small letter beyond ASCII finds the capital one in a library, but not in a database that mirrors it. -/
theorem parted_by_case_e_acute :
    let s : Sticker := { id := 1, name := "É" }
    let search : Search := { keywords := [{ value := "é" }] }
    parse "é" = .ok search ∧ Mirrors (mirror [s]) (stickerRow [s]) [s] ∧ s.satisfies search = true ∧
      (∀ k ∈ search.keywords, (keywordCondition k).meets s ≠ s.satisfiesKeyword k) ∧
      search.countStatement.query.count? (mirror [s]) = some 0 := by
  intro s search
  refine ⟨by decide +kernel, mirrors_mirror (by decide), by decide +kernel, ?_, by decide +kernel⟩
  intro k asked
  obtain rfl := List.mem_singleton.1 asked
  exact parted_by_case [] [] (c := 'é') (d := 'É') (by decide +kernel) (by decide) (by decide) (by decide) (by decide)
    (by decide)

end Search

end StickerBook
