import Mathlib.Data.List.Perm.Subperm
import Mathlib.Tactic.Choose
import StickerBook.Proofs.Distinct
import StickerBook.Proofs.Sql.Mirror

/-!
# The stickers that a statement selects

On a database that mirrors some stickers, the query of a statement selects the rows of those stickers that have every
wanted and no excluded tag and meet all conditions (`Statement.scopes_query`).
-/

namespace StickerBook.Sql
set_option autoImplicit false

section
variable {scope : Scope} {source name : String} {row : Row}

theorem satisfies_of (found : scope.lookup source = some row) (p : Value → Bool) :
    scope.satisfies (.of source name) p = p (row name) := by
  simp [Scope.satisfies, Scope.value?, Column.of, found]

theorem value?_of (found : scope.lookup source = some row) : scope.value? (.of source name) = some (row name) := by
  simp [Scope.value?, Column.of, found]

theorem holds_within (found : scope.lookup source = some row) (db : Database) (negated : Bool) (values : Subquery) :
    (Clause.within negated (.of source name) values).holds db scope
      = ((values.values db).contains (row name) != negated) :=
  satisfies_of found _

/-- A test for a tag reads the row of `tag`. -/
theorem all_tagTests_iff (found : scope.lookup "tag" = some row) (t : Tag) :
    (tagTests t).all (Test.holds scope) = true ↔ row.Holds t := by
  simp [tagTests, Test.holds, satisfies_of found, Row.Holds]

theorem any_tagTests_iff (found : scope.lookup "tag" = some row) (tags : List Tag) :
    ((tags.map tagTests).any fun tests => tests.all (Test.holds scope)) = true ↔ ∃ t ∈ tags, row.Holds t := by
  rw [List.any_map, List.any_eq_true]
  exact exists_congr fun t => and_congr_right fun _ => all_tagTests_iff found t

end

section
variable {db : Database} {table called other left right : String}

theorem scopes_single : ({ table, called } : Source).scopes db = (db table).map fun row => [(called, row)] := rfl

theorem lookup_joined (apart : called ≠ other) (row r : Row) : [(called, row), (other, r)].lookup other = some r := by
  have miss : (other == called) = false := beq_false_of_ne (Ne.symm apart)
  simp [List.lookup_cons, miss]

/-- A joined table is gone through for each row of the first one. -/
theorem scopes_joined (apart : called ≠ other) :
    ({ table, called, joins := [⟨other, .of called left, .of other right⟩] } : Source).scopes db
      = (db table).flatMap fun row =>
          ((db other).filter fun r => row left = r right).map fun r => [(called, row), (other, r)] := by
  unfold Source.scopes
  rw [List.foldl_cons, List.foldl_nil, List.flatMap_map]
  refine congrArg (List.flatMap · (db table)) (funext fun row => ?_)
  have joined (r : Row) : Scope.satisfies [(called, row), (other, r)] (.of called left) (fun v =>
      Scope.satisfies [(called, row), (other, r)] (.of other right) fun w => decide (v = w))
      = decide (row left = r right) := by
    rw [satisfies_of List.lookup_cons_self, satisfies_of (lookup_joined apart row r)]
  unfold Join.extend
  rw [List.filter_map]
  exact congrArg (fun p => ((db other).filter p).map fun r => [(called, row), (other, r)]) (funext joined)

end

namespace Select
variable {db : Database} {q : Select} {rowOf : Sticker → Row} {scopeOf : Sticker → Scope} {order : List Sticker}

/-- A select without groups yields the scopes for which its conditions hold. -/
theorem scopes_ungrouped {p : Sticker → Bool} (ungrouped : q.grouping = none)
    (scopes : q.source.scopes db = order.map scopeOf)
    (holds : ∀ s ∈ order, q.conditions.all (Clause.holds db (scopeOf s)) = p s) :
    q.scopes db = (order.filter p).map scopeOf := by
  unfold Select.scopes
  rw [ungrouped, scopes, List.filter_map]
  exact congrArg (List.map scopeOf) (List.filter_congr holds)

theorem rows_eq_map (scopes : q.scopes db = order.map scopeOf)
    (called : ∀ s, (scopeOf s).lookup q.source.called = some (rowOf s)) : q.rows db = order.map rowOf := by
  unfold rows
  rw [scopes, List.filterMap_map, ← List.filterMap_eq_map]
  exact congrArg (List.filterMap · order) (funext called)

end Select

namespace TagSelection
variable {db : Database} {tags : List Tag} {v : Value}

/-- The ids of tags are those of their rows. -/
theorem mem_values_idsOf_iff :
    v ∈ (idsOf tags).values db ↔ ∃ row ∈ db "tag", (∃ t ∈ tags, row.Holds t) ∧ row "id" = v := by
  have scopes : (idsOf tags).source.scopes db = (db "tag").map fun row => [("tag", row)] := scopes_single
  unfold Subquery.values
  rw [scopes, List.mem_filterMap]
  constructor
  · rintro ⟨scope, found, id⟩
    obtain ⟨place, tests⟩ := List.mem_filter.1 found
    obtain ⟨row, there, rfl⟩ := List.mem_map.1 place
    exact ⟨row, there, (any_tagTests_iff (List.lookup_cons_self) tags).1 tests, Option.some.inj id⟩
  · rintro ⟨row, there, holds, rfl⟩
    refine ⟨[("tag", row)], List.mem_filter.2 ⟨List.mem_map_of_mem there, ?_⟩, rfl⟩
    exact (any_tagTests_iff (List.lookup_cons_self) tags).2 holds

theorem scopes_holders : (holders tags).source.scopes db = (db "sticker_tag").flatMap fun link =>
    ((db "tag").filter fun row => link "tag" = row "id").map fun row => [("sticker_tag", link), ("tag", row)] :=
  scopes_joined (by decide)

/-- The holders of tags are those that are linked to one of them. -/
theorem mem_values_holders_iff : v ∈ (holders tags).values db ↔ ∃ link ∈ db "sticker_tag", ∃ row ∈ db "tag",
    link "tag" = row "id" ∧ (∃ t ∈ tags, row.Holds t) ∧ link "sticker" = v := by
  unfold Subquery.values
  rw [scopes_holders, List.mem_filterMap]
  constructor
  · rintro ⟨scope, found, sticker⟩
    obtain ⟨place, tests⟩ := List.mem_filter.1 found
    obtain ⟨link, there, place⟩ := List.mem_flatMap.1 place
    obtain ⟨row, joined, rfl⟩ := List.mem_map.1 place
    obtain ⟨there', same⟩ := List.mem_filter.1 joined
    exact ⟨link, there, row, there', of_decide_eq_true same,
      (any_tagTests_iff (lookup_joined (by decide) link row) tags).1 tests, Option.some.inj sticker⟩
  · rintro ⟨link, there, row, there', same, holds, rfl⟩
    refine ⟨[("sticker_tag", link), ("tag", row)], List.mem_filter.2 ⟨?_, ?_⟩, rfl⟩
    · exact List.mem_flatMap.2 ⟨link, there, List.mem_map_of_mem (List.mem_filter.2 ⟨there', decide_eq_true same⟩)⟩
    · exact (any_tagTests_iff (lookup_joined (by decide) link row) tags).2 holds

theorem scopes_linked : linked.scopes db = (db "sticker").flatMap fun row =>
    ((db "sticker_tag").filter fun link => row "id" = link "sticker").map fun link =>
      [("sticker", row), ("sticker_tag", link)] :=
  scopes_joined (by decide)

/-- A sticker has every wanted and no excluded tag. -/
def Selects (sel : TagSelection) (s : Sticker) : Prop := (∀ t ∈ sel.wanted, t ∈ s.tags) ∧ ∀ t ∈ sel.excluded, t ∉ s.tags

instance (sel : TagSelection) (s : Sticker) : Decidable (sel.Selects s) :=
  inferInstanceAs (Decidable ((∀ t ∈ sel.wanted, t ∈ s.tags) ∧ ∀ t ∈ sel.excluded, t ∉ s.tags))

/-- The scopes of a sticker with its links to wanted tags. -/
def wantedLinks (sel : TagSelection) (db : Database) (row : Row) : List Scope :=
  (((db "sticker_tag").filter fun link => row "id" = link "sticker").map fun link =>
      [("sticker", row), ("sticker_tag", link)]).filter
    fun scope => sel.linksWanted.holds db scope

theorem mem_wantedLinks_iff {sel : TagSelection} {row : Row} {scope : Scope} :
    scope ∈ sel.wantedLinks db row ↔ ∃ link ∈ db "sticker_tag", row "id" = link "sticker" ∧
      link "tag" ∈ (idsOf sel.wanted).values db ∧ [("sticker", row), ("sticker_tag", link)] = scope := by
  have reads (link : Row) : sel.linksWanted.holds db [("sticker", row), ("sticker_tag", link)] = true ↔
      link "tag" ∈ (idsOf sel.wanted).values db := by
    rw [linksWanted, holds_within (lookup_joined (by decide) row link)]
    simp
  unfold wantedLinks
  rw [List.mem_filter, List.mem_map]
  constructor
  · rintro ⟨⟨link, there, rfl⟩, wanted⟩
    obtain ⟨place, own⟩ := List.mem_filter.1 there
    exact ⟨link, place, of_decide_eq_true own, (reads link).1 wanted, rfl⟩
  · rintro ⟨link, place, own, wanted, rfl⟩
    exact ⟨⟨link, List.mem_filter.2 ⟨place, decide_eq_true own⟩, rfl⟩, (reads link).2 wanted⟩

end TagSelection

/-- A list of distinct elements that are assigned to distinct elements of another list is as long as that list exactly
if every element of that list has one assigned. -/
theorem length_eq_length_iff {α β : Type} {r : α → β → Prop} {as : List α} {bs : List β} (apart : as.Nodup)
    (apart' : bs.Nodup) (member : ∀ b, b ∈ bs ↔ ∃ a ∈ as, r a b)
    (functional : ∀ a b b', r a b → r a b' → b = b') (injective : ∀ a a' b, r a b → r a' b → a = a') :
    bs.length = as.length ↔ ∀ a ∈ as, ∃ b, r a b := by
  -- The elements that the second list is assigned to are distinct as well, and there are as many of them.
  choose partner place related using fun (b : β) (there : b ∈ bs) => (member b).1 there
  let partners := bs.attach.map fun b => partner b.1 b.2
  have length : partners.length = bs.length := by simp [partners]
  have distinct : partners.Nodup := by
    refine (List.nodup_attach.2 apart').map fun b c same => Subtype.ext ?_
    exact functional _ _ _ (related b.1 b.2) (same ▸ related c.1 c.2)
  have inside : partners ⊆ as := by
    intro a there
    obtain ⟨b, -, rfl⟩ := List.mem_map.1 there
    exact place b.1 b.2
  have all : (∀ a ∈ as, ∃ b, r a b) ↔ as ⊆ partners := by
    constructor
    · intro total a there
      obtain ⟨b, rel⟩ := total a there
      have listed : b ∈ bs := (member b).2 ⟨a, there, rel⟩
      exact List.mem_map.2 ⟨⟨b, listed⟩, List.mem_attach _ _, injective _ _ _ (related b listed) rel⟩
    · intro covered a there
      obtain ⟨b, -, rfl⟩ := List.mem_map.1 (covered there)
      exact ⟨b.1, related b.1 b.2⟩
  rw [← length, all]
  constructor
  · intro same
    exact ((List.subperm_of_subset distinct inside).perm_of_length_le (Nat.le_of_eq same.symm)).symm.subset
  · intro covered
    exact (((List.subperm_of_subset distinct inside).antisymm (List.subperm_of_subset apart covered))).length_eq

/-- A value is the id of a tag of a sticker. -/
def IsTagId (db : Database) (s : Sticker) (t : Tag) (v : Value) : Prop :=
  t ∈ s.tags ∧ ∃ row ∈ db "tag", row.Holds t ∧ row "id" = v

namespace Mirrors
variable {db : Database} {rowOf : Sticker → Row} {stickers : List Sticker} (mirrors : Mirrors db rowOf stickers)
  {s : Sticker} {t u : Tag} {v w : Value}
include mirrors

/-- A tag has one id. -/
theorem tagId_unique (is : IsTagId db s t v) (also : IsTagId db s t w) : v = w := by
  obtain ⟨-, row, place, holds, rfl⟩ := is
  obtain ⟨-, row', place', holds', rfl⟩ := also
  rw [mirrors.row_unique place place' holds holds']

/-- An id belongs to one tag. -/
theorem tagId_injective (is : IsTagId db s t v) (also : IsTagId db s u v) : t = u := by
  obtain ⟨-, row, place, holds, rfl⟩ := is
  obtain ⟨-, row', place', holds', same⟩ := also
  exact mirrors.tag_unique place place' holds holds' same.symm

variable (member : s ∈ stickers)
include member

theorem exists_tagId_iff : (∃ v, IsTagId db s t v) ↔ t ∈ s.tags := by
  constructor
  · rintro ⟨-, tagged, -⟩
    exact tagged
  · intro tagged
    obtain ⟨-, -, row, place, -, -, holds⟩ := (mirrors.tags s member t).1 tagged
    exact ⟨row "id", tagged, row, place, holds, rfl⟩

theorem holds_withoutExcluded_iff {scope : Scope} (found : scope.lookup "sticker" = some (rowOf s))
    (sel : TagSelection) : sel.withoutExcluded.holds db scope = true ↔ ∀ t ∈ sel.excluded, t ∉ s.tags := by
  have holder : Value.number s.id ∈ (TagSelection.holders sel.excluded).values db ↔ ∃ t ∈ sel.excluded, t ∈ s.tags := by
    rw [TagSelection.mem_values_holders_iff]
    constructor
    · rintro ⟨link, there, row, place, same, ⟨t, excluded, holds⟩, own⟩
      exact ⟨t, excluded, (mirrors.tags s member t).2 ⟨link, there, row, place, own, same, holds⟩⟩
    · rintro ⟨t, excluded, tagged⟩
      obtain ⟨link, there, row, place, own, same, holds⟩ := (mirrors.tags s member t).1 tagged
      exact ⟨link, there, row, place, same, ⟨t, excluded, holds⟩, own⟩
  unfold TagSelection.withoutExcluded
  rw [holds_within found, mirrors.ids s member, Bool.bne_true, Bool.not_eq_true', ← Bool.not_eq_true,
    List.contains_iff_mem, holder]
  constructor
  · exact fun none t excluded tagged => none ⟨t, excluded, tagged⟩
  · exact fun none ⟨t, excluded, tagged⟩ => none t excluded tagged

/-- The links of a sticker to wanted tags name the ids of those wanted tags that it has. -/
theorem mem_linkedIds_iff {sel : TagSelection} :
    v ∈ distinctBy id ((sel.wantedLinks db (rowOf s)).filterMap (·.value? (.of "sticker_tag" "tag")))
      ↔ ∃ t ∈ sel.wanted, IsTagId db s t v := by
  rw [mem_distinctBy_id_iff, List.mem_filterMap]
  constructor
  · rintro ⟨scope, wanted, value⟩
    obtain ⟨link, there, own, listed, rfl⟩ := TagSelection.mem_wantedLinks_iff.1 wanted
    obtain rfl := Option.some.inj ((value?_of (lookup_joined (by decide) (rowOf s) link)).symm.trans value)
    obtain ⟨row, place, ⟨t, asked, holds⟩, same⟩ := TagSelection.mem_values_idsOf_iff.1 listed
    have tagged : t ∈ s.tags :=
      (mirrors.tags s member t).2 ⟨link, there, row, place, own.symm.trans (mirrors.ids s member), same.symm, holds⟩
    exact ⟨t, asked, tagged, row, place, holds, same⟩
  · rintro ⟨t, asked, tagged, row, place, holds, rfl⟩
    obtain ⟨link, there, row', place', own, same, holds'⟩ := (mirrors.tags s member t).1 tagged
    obtain rfl := mirrors.row_unique place place' holds holds'
    refine ⟨[("sticker", rowOf s), ("sticker_tag", link)], TagSelection.mem_wantedLinks_iff.2 ?_, ?_⟩
    · exact ⟨link, there, (mirrors.ids s member).trans own.symm,
        TagSelection.mem_values_idsOf_iff.2 ⟨row, place, ⟨t, asked, holds⟩, same.symm⟩, rfl⟩
    · rw [value?_of (lookup_joined (by decide) (rowOf s) link), same]

/-- The links of a sticker to wanted tags name as many tags as are wanted exactly if it has all of them. -/
theorem length_wantedLinks_iff {sel : TagSelection} (apart : sel.wanted.Nodup) :
    (distinctBy id ((sel.wantedLinks db (rowOf s)).filterMap (·.value? (.of "sticker_tag" "tag")))).length
      = sel.wanted.length ↔ ∀ t ∈ sel.wanted, t ∈ s.tags := by
  rw [length_eq_length_iff (r := IsTagId db s) apart (distinctBy_id_nodup _) (fun _ => mirrors.mem_linkedIds_iff member)
    (fun _ _ _ => mirrors.tagId_unique) fun _ _ _ => mirrors.tagId_injective]
  exact forall₂_congr fun _ _ => mirrors.exists_tagId_iff member

/-- A scope of a sticker is found by its id. -/
theorem value?_wantedLinks {sel : TagSelection} {scope : Scope} (wanted : scope ∈ sel.wantedLinks db (rowOf s)) :
    scope.lookup "sticker" = some (rowOf s) ∧ scope.value? (.of "sticker" "id") = some (.number s.id) := by
  obtain ⟨link, -, -, -, rfl⟩ := TagSelection.mem_wantedLinks_iff.1 wanted
  have found : [("sticker", rowOf s), ("sticker_tag", link)].lookup "sticker" = some (rowOf s) := List.lookup_cons_self
  refine ⟨found, ?_⟩
  rw [value?_of found, mirrors.ids s member]

/-- The group of a sticker is kept if the sticker is selected. -/
theorem keeps_wantedLinks {sel : TagSelection} (distinct : sel.wanted.Nodup) {first : Scope}
    (wanted : first ∈ sel.wantedLinks db (rowOf s)) :
    sel.grouping.keeps db (sel.wantedLinks db (rowOf s)) first = decide (sel.Selects s) := by
  have count := mirrors.length_wantedLinks_iff member distinct
  have without := mirrors.holds_withoutExcluded_iff member (mirrors.value?_wantedLinks member wanted).1 sel
  have having_iff : sel.grouping.having.all (Clause.holds db first) = true ↔ ∀ t ∈ sel.excluded, t ∉ s.tags := by
    unfold TagSelection.grouping
    split
    · next none => simp [List.isEmpty_iff.1 none]
    · rw [List.all_cons, List.all_nil, Bool.and_true, without]
  rw [Bool.eq_iff_iff, decide_eq_true_iff, Grouping.keeps, Bool.and_eq_true, decide_eq_true_iff, having_iff]
  exact and_congr_left fun _ => count

end Mirrors

namespace Mirrors
variable {db : Database} {rowOf : Sticker → Row} {stickers : List Sticker} (mirrors : Mirrors db rowOf stickers)
  (apart : (stickers.map Sticker.id).Nodup) {order : List Sticker} (perm : order.Perm stickers)
  (stored : db "sticker" = order.map rowOf)
include mirrors perm stored

/-- Without wanted tags the select goes through the stickers one by one. -/
theorem rows_select_unwanted {sel : TagSelection} (none : sel.wanted = []) :
    sel.select.rows db = (order.filter (sel.Selects ·)).map rowOf := by
  have holds (s : Sticker) (place : s ∈ order) :
      ([sel.withoutExcluded].all (Clause.holds db [("sticker", rowOf s)])) = decide (sel.Selects s) := by
    have found : [("sticker", rowOf s)].lookup "sticker" = some (rowOf s) := List.lookup_cons_self
    have excluded := mirrors.holds_withoutExcluded_iff (perm.mem_iff.1 place) found sel
    rw [Bool.eq_iff_iff, decide_eq_true_iff, List.all_cons, List.all_nil, Bool.and_true, excluded]
    simp [TagSelection.Selects, none]
  have select : sel.select = { source := { table := "sticker" }, conditions := [sel.withoutExcluded] } := by
    unfold TagSelection.select
    rw [none]
    rfl
  have scopes : ({ table := "sticker" } : Source).scopes db = order.map fun s => [("sticker", rowOf s)] := by
    rw [scopes_single, stored, List.map_map]
    rfl
  rw [select]
  exact Select.rows_eq_map (Select.scopes_ungrouped rfl scopes holds) fun s => List.lookup_cons_self

include apart

omit mirrors stored in
/-- The stickers are told apart by their ids. -/
theorem labels_nodup : (order.map fun s => some (Value.number s.id)).Nodup := by
  have ids : (order.map Sticker.id).Nodup := (perm.map Sticker.id).nodup_iff.2 apart
  have numbers := ids.map (f := fun n : Nat => some (Value.number n)) fun m n same =>
    Int.ofNat.inj (Value.number.inj (Option.some.inj same))
  rwa [List.map_map] at numbers

omit stored apart in
theorem labelled_wantedLinks (sel : TagSelection) : ∀ s ∈ order, ∀ scope ∈ sel.wantedLinks db (rowOf s),
    scope.value? sel.grouping.key = some (.number s.id) :=
  fun _ place _ wanted => (mirrors.value?_wantedLinks (perm.mem_iff.1 place) wanted).2

omit stored in
/-- Among the links of all stickers, the group of a sticker yields its row if the sticker is selected. -/
theorem kept_wantedLinks {sel : TagSelection} (nonempty : sel.wanted ≠ []) (distinct : sel.wanted.Nodup) {s : Sticker}
    (place : s ∈ order) : (((sel.wantedLinks db (rowOf s)).head?.filter fun first =>
      sel.grouping.keeps db ((order.flatMap fun s => sel.wantedLinks db (rowOf s)).filter fun scope =>
        scope.value? sel.grouping.key = first.value? sel.grouping.key) first).bind fun scope => scope.lookup "sticker")
      = if sel.Selects s then some (rowOf s) else none := by
  have member : s ∈ stickers := perm.mem_iff.1 place
  cases group : sel.wantedLinks db (rowOf s) with
  | nil =>
    -- Without a link to a wanted tag there is no group, and the sticker has not got the tags that are wanted.
    have count := mirrors.length_wantedLinks_iff member distinct
    rw [group] at count
    have missing : ¬ sel.Selects s := by
      rintro ⟨all, -⟩
      exact nonempty (List.length_eq_zero_iff.1 (count.2 all).symm)
    rw [if_neg missing]
    rfl
  | cons first rest =>
    have wanted : first ∈ sel.wantedLinks db (rowOf s) := group ▸ List.mem_cons_self
    have row := (mirrors.value?_wantedLinks member wanted).1
    have labelled := mirrors.labelled_wantedLinks perm sel
    have members := filter_flatMap_group labelled (labels_nodup apart perm) place
    rw [← labelled s place first wanted] at members
    rw [List.head?_cons, Option.filter_some, members, mirrors.keeps_wantedLinks member distinct wanted]
    by_cases selected : sel.Selects s
    · simp [selected, row]
    · simp [selected]

/-- With wanted tags the select goes through the groups of links. -/
theorem rows_select_wanted {sel : TagSelection} (nonempty : sel.wanted ≠ []) (distinct : sel.wanted.Nodup) :
    sel.select.rows db = (order.filter (sel.Selects ·)).map rowOf := by
  have select : sel.select = {
      source := TagSelection.linked, conditions := [sel.linksWanted], grouping := some sel.grouping } := by
    unfold TagSelection.select
    rw [if_neg (mt List.isEmpty_iff.1 nonempty)]
  have found : ((TagSelection.linked.scopes db).filter fun scope => [sel.linksWanted].all (Clause.holds db scope))
      = order.flatMap fun s => sel.wantedLinks db (rowOf s) := by
    rw [TagSelection.scopes_linked, stored, List.flatMap_map, List.filter_flatMap]
    simp [TagSelection.wantedLinks]
  rw [select]
  unfold Select.rows Select.scopes
  dsimp only
  rw [found, Option.elim_some, Grouping.kept,
    distinctBy_flatMap (mirrors.labelled_wantedLinks perm sel) (labels_nodup apart perm), List.filter_filterMap,
    List.filterMap_filterMap, ← List.filterMap_eq_map, List.filterMap_filter]
  refine List.filterMap_congr fun s place => (mirrors.kept_wantedLinks apart perm nonempty distinct place).trans ?_
  simp

theorem rows_select {sel : TagSelection} (distinct : sel.wanted.Nodup) :
    sel.select.rows db = (order.filter (sel.Selects ·)).map rowOf := by
  by_cases none : sel.wanted = []
  · exact mirrors.rows_select_unwanted perm stored none
  · exact mirrors.rows_select_wanted apart perm stored none distinct

end Mirrors

/-- A sticker meets a condition. -/
def Condition.meets (s : Sticker) : Condition → Bool
  | .nameLike negated pattern => matchesLike pattern s.name != negated
  | .packageIs negated name => decide (s.package = name) != negated
  | .kindIs negated word => decide (s.kind.display = word) != negated
  | .modifiedFrom bound => decide (bound ≤ s.modifyDate)
  | .modifiedUntil bound => decide (s.modifyDate ≤ bound)

/-- A sticker has the tags that a statement asks for and meets its conditions. -/
def Statement.selects (st : Statement) (s : Sticker) : Bool :=
  st.tagged.all (fun sel => decide (sel.Selects s)) && st.conditions.all (Condition.meets s)

theorem Statement.called_query (st : Statement) : st.query.main.source.called = "inp" := by
  unfold Statement.query
  cases st.tagged <;> rfl

theorem Statement.output_query (st : Statement) : st.query.output = st.answer.output := by
  unfold Statement.query
  cases st.tagged <;> rfl

namespace Mirrors
variable {db : Database} {rowOf : Sticker → Row} {stickers : List Sticker} (mirrors : Mirrors db rowOf stickers)
include mirrors

/-- The clause of a condition reads the row of a sticker and that of its package. -/
theorem holds_clause (within : Database) {s : Sticker} (member : s ∈ stickers) {scope : Scope} {c : Condition}
    (found : scope.lookup "inp" = some (rowOf s))
    (package : c.readsPackage = true → ∃ row : Row, scope.lookup "package" = some row ∧ row "name" = .text s.package) :
    c.clause.holds within scope = c.meets s := by
  cases c with
  | nameLike negated pattern =>
    simp [Condition.clause, Condition.meets, Clause.holds, Test.holds, satisfies_of found, mirrors.names s member]
  | packageIs negated name =>
    obtain ⟨row, joined, named⟩ := package rfl
    simp [Condition.clause, Condition.meets, Clause.holds, Test.holds, satisfies_of joined, named]
  | kindIs negated word =>
    simp [Condition.clause, Condition.meets, Clause.holds, Test.holds, satisfies_of found, mirrors.kinds s member]
  | modifiedFrom bound | modifiedUntil bound =>
    simp [Condition.clause, Condition.meets, Clause.holds, Test.holds, satisfies_of found, mirrors.modified s member]

/-- The source of a statement goes through each sticker of its table once. -/
theorem exists_scopes_main (st : Statement) {within : Database} {table : String} {order : List Sticker}
    (subset : order ⊆ stickers) (rows : within table = order.map rowOf) (packages : within "package" = db "package") :
    ∃ scopeOf : Sticker → Scope, (st.main table).source.scopes within = order.map scopeOf ∧
      ∀ s ∈ order, (scopeOf s).lookup "inp" = some (rowOf s) ∧
        (st.conditions.any Condition.readsPackage = true →
          ∃ row : Row, (scopeOf s).lookup "package" = some row ∧ row "name" = .text s.package) := by
  unfold Statement.main
  cases joined : st.conditions.any Condition.readsPackage with
  | false =>
    refine ⟨fun s => [("inp", rowOf s)], ?_, fun s _ => ⟨List.lookup_cons_self, nofun⟩⟩
    exact scopes_single.trans (by rw [rows, List.map_map]; rfl)
  | true =>
    choose! packageRow single named using fun s (member : s ∈ stickers) => mirrors.exists_package member
    refine ⟨fun s => [("inp", rowOf s), ("package", packageRow s)], ?_, fun s place =>
      ⟨List.lookup_cons_self, fun _ => ⟨packageRow s, lookup_joined (by decide) _ _, named s (subset place)⟩⟩⟩
    refine (scopes_joined (by decide)).trans ?_
    rw [rows, packages, List.flatMap_map, List.map_eq_flatMap]
    refine List.flatMap_congr fun s place => ?_
    rw [single s (subset place)]
    rfl

/-- A statement selects from the rows of its table those of the stickers that meet its conditions. -/
theorem exists_scopes_met (st : Statement) (within : Database) (table : String) {order : List Sticker}
    (subset : order ⊆ stickers) (rows : within table = order.map rowOf) (packages : within "package" = db "package") :
    ∃ scopeOf : Sticker → Scope,
      (st.main table).scopes within = (order.filter fun s => st.conditions.all (Condition.meets s)).map scopeOf ∧
        ∀ s ∈ order, (scopeOf s).lookup "inp" = some (rowOf s) := by
  obtain ⟨scopeOf, scopes, found⟩ := mirrors.exists_scopes_main st subset rows packages
  refine ⟨scopeOf, Select.scopes_ungrouped rfl scopes fun s place => ?_, fun s place => (found s place).1⟩
  have conditions : (st.main table).conditions = st.conditions.map Condition.clause := rfl
  rw [conditions, List.all_map, Bool.eq_iff_iff, List.all_eq_true, List.all_eq_true]
  refine forall₂_congr fun c asked => ?_
  have reads := mirrors.holds_clause within (subset place) (c := c) (found s place).1 fun reads =>
    (found s place).2 (List.any_eq_true.2 ⟨c, asked, reads⟩)
  rw [← reads]
  rfl

/-- **On a mirror of some stickers, a statement selects one scope for each sticker that it is about.** -/
theorem exists_scopes_query (apart : (stickers.map Sticker.id).Nodup) (st : Statement)
    (distinct : ∀ sel ∈ st.tagged, sel.wanted.Nodup) :
    ∃ (selected : List Sticker) (scopeOf : Sticker → Scope), selected.Perm (stickers.filter st.selects) ∧
      st.query.scopes db = selected.map scopeOf ∧ ∀ s ∈ selected, (scopeOf s).lookup "inp" = some (rowOf s) := by
  obtain ⟨order, perm, stored⟩ := mirrors.stored
  have subset : order ⊆ stickers := perm.subset
  cases tagged : st.tagged with
  | none =>
    obtain ⟨scopeOf, scopes, found⟩ := mirrors.exists_scopes_met st db "sticker" subset stored rfl
    have query : st.query.scopes db = (st.main "sticker").scopes db := by
      unfold Statement.query
      rw [tagged]
      rfl
    have selects : st.selects = fun s => st.conditions.all (Condition.meets s) := by
      unfold Statement.selects
      rw [tagged]
      rfl
    exact ⟨_, scopeOf, selects ▸ perm.filter _, query.trans scopes, fun s place => found s (List.mem_filter.1 place).1⟩
  | some sel =>
    have rows := mirrors.rows_select apart perm stored (distinct sel tagged)
    obtain ⟨scopeOf, scopes, found⟩ := mirrors.exists_scopes_met st
      (db.define "tagged_sticker" (sel.select.rows db)) "tagged_sticker"
      (fun s place => subset (List.mem_filter.1 place).1) rows rfl
    have query : st.query.scopes db
        = (st.main "tagged_sticker").scopes (db.define "tagged_sticker" (sel.select.rows db)) := by
      unfold Statement.query
      rw [tagged]
      rfl
    have selects : st.selects = fun s => st.conditions.all (Condition.meets s) && decide (sel.Selects s) := by
      unfold Statement.selects
      rw [tagged]
      exact funext fun s => Bool.and_comm _ _
    have kept := perm.filter st.selects
    rw [selects, ← List.filter_filter] at kept
    exact ⟨_, scopeOf, selects ▸ kept, query.trans scopes, fun s place => found s (List.mem_filter.1 place).1⟩

theorem rows_query (apart : (stickers.map Sticker.id).Nodup) (st : Statement)
    (distinct : ∀ sel ∈ st.tagged, sel.wanted.Nodup) :
    (st.query.rows db).Perm ((stickers.filter st.selects).map rowOf) := by
  obtain ⟨selected, scopeOf, perm, scopes, found⟩ := mirrors.exists_scopes_query apart st distinct
  have rows : st.query.rows db = selected.map rowOf := by
    have called : st.query.rows db = (st.query.scopes db).filterMap (·.lookup st.query.main.source.called) := rfl
    rw [called, scopes, st.called_query, List.filterMap_map, ← List.filterMap_eq_map]
    exact List.filterMap_congr found
  exact rows ▸ perm.map rowOf

theorem length_scopes_query (apart : (stickers.map Sticker.id).Nodup) (st : Statement)
    (distinct : ∀ sel ∈ st.tagged, sel.wanted.Nodup) :
    (st.query.scopes db).length = (stickers.filter st.selects).length := by
  obtain ⟨selected, scopeOf, perm, scopes, -⟩ := mirrors.exists_scopes_query apart st distinct
  rw [scopes, List.length_map, perm.length_eq]

/-- A statement that counts the ids counts the stickers that it selects. -/
theorem count?_query (apart : (stickers.map Sticker.id).Nodup) {st : Statement}
    (distinct : ∀ sel ∈ st.tagged, sel.wanted.Nodup) (counts : st.answer = .count) :
    st.query.count? db = some (stickers.filter st.selects).length := by
  obtain ⟨selected, scopeOf, perm, scopes, found⟩ := mirrors.exists_scopes_query apart st distinct
  have ids : (st.query.scopes db).filterMap (·.value? (.of "inp" "id")) = selected.map fun s => rowOf s "id" := by
    rw [scopes, List.filterMap_map, ← List.filterMap_eq_map]
    exact List.filterMap_congr fun s place => value?_of (found s place)
  have output : st.query.output = .count (.of "inp" "id") := by
    rw [st.output_query, counts]
    rfl
  unfold Query.count?
  rw [output]
  simp only [ids, List.length_map, perm.length_eq]

end Mirrors

end StickerBook.Sql
