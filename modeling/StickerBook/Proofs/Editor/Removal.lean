import StickerBook.Proofs.Editor.TagList

/-!
# What removing a tag leaves

A tag that is neither listed nor pinned stays away until it is added, supplied or pinned anew (`Lacks.follow`). A removal
brings a tag there exactly if the list is tidy in it: the tag is listed once at most, and pinned only if it is listed. Only
its owner makes a list untidy. It may supply a tag twice, of which a removal takes one occurrence, or leave a tag pinned
that is not listed, which a removal does not find (`removes_follow`).
-/

namespace StickerBook.Editor.TagList
set_option autoImplicit false

/-- The tag is neither listed nor pinned. -/
def Lacks (l : TagList) (t : Tag) : Prop := t ∉ l.tags ∧ t ∉ l.pinned

/-- The tag is listed once at most, and pinned only if it is listed. -/
structure Tidy (l : TagList) (t : Tag) : Prop where
  once : l.tags.count t ≤ 1
  listed : t ∈ l.pinned → t ∈ l.tags

/-- The event can bring the tag in. A tag that is not listed cannot be pinned by hand. -/
def Event.brings (t : Tag) : Event → Bool
  | .sync tags => t ∈ tags
  | .setPinned pinned => t ∈ pinned
  | .add u => u = t
  | .setLockable _ | .remove _ | .togglePin _ | .reset => false

/-- The owner makes the list untidy: it supplies the tag twice, or leaves it pinned and not listed. -/
def Event.upsets (l : TagList) (t : Tag) : Event → Bool
  | .sync tags => 2 ≤ tags.count t || (t ∈ l.pinned && t ∉ tags)
  | .setPinned pinned => t ∈ pinned && t ∉ l.tags
  | _ => false

/-- None of the events makes the list untidy. -/
def undisturbed (l : TagList) (t : Tag) : List Event → Bool
  | [] => true
  | ev :: rest => !ev.upsets l t && (l.after ev).undisturbed t rest

/-- When a removal takes a tag away, and what it leaves otherwise. -/
structure Removes (l : TagList) (t : Tag) : Prop where
  gone_iff : (l.remove t).state.Lacks t ↔ l.Tidy t
  /-- A tag that is gone stays away, whatever happens, until it is brought in again. -/
  stays : (l.remove t).state.Lacks t → ∀ events : List Event, (∀ ev ∈ events, ev.brings t = false) →
    ((l.remove t).state.follow events).Lacks t
  /-- Of a tag that is listed more than once, one occurrence is removed, and the pin. -/
  repeated : 2 ≤ l.tags.count t → (l.remove t).result = true ∧ t ∉ (l.remove t).state.pinned ∧
    (l.remove t).state.tags.count t = l.tags.count t - 1
  /-- The pin of a tag that is not listed is not found, and the next reset lists the tag. -/
  unlisted : t ∈ l.pinned → t ∉ l.tags → l.remove t = { result := false, state := l } ∧ t ∈ l.reset.state.tags
  /-- Other tags stay as they are. -/
  others : (l.remove t).state.tags.filter (· ≠ t) = l.tags.filter (· ≠ t) ∧
    (l.remove t).state.pinned.filter (· ≠ t) = l.pinned.filter (· ≠ t)

variable {l : TagList} {t : Tag} {ev : Event}

theorem tidy_iff : l.Tidy t ↔ l.tags.count t ≤ 1 ∧ (t ∈ l.pinned → t ∈ l.tags) :=
  ⟨fun tidy => ⟨tidy.once, tidy.listed⟩, fun ⟨once, listed⟩ => ⟨once, listed⟩⟩

/-- What is neither listed nor pinned comes from outside alone. -/
theorem Lacks.after (lacks : l.Lacks t) (away : ev.brings t = false) : (l.after ev).Lacks t := by
  obtain ⟨unlisted, unpinned⟩ := lacks
  cases ev with
  | setLockable => exact ⟨unlisted, unpinned⟩
  | sync tags => exact ⟨of_decide_eq_false away, unpinned⟩
  | setPinned pins => exact ⟨unlisted, fun pinned => of_decide_eq_false away (mem_pinned_setPinned_iff.1 pinned)⟩
  | add u =>
    constructor
    · intro listed
      rcases mem_tags_add_iff.1 listed with old | new
      · exact unlisted old
      · exact of_decide_eq_false away new.symm
    · show t ∉ (l.add u).state.pinned
      rw [pinned_add]
      exact unpinned
  | remove u =>
    exact ⟨fun listed => unlisted ((l.tags_remove_sublist u).subset listed),
      fun pinned => unpinned ((l.pinned_remove_sublist u).subset pinned)⟩
  | togglePin u =>
    constructor
    · show t ∉ (l.togglePin u).2.tags
      rw [tags_togglePin]
      exact unlisted
    · intro pinned
      exact (mem_pinned_togglePin pinned).elim unpinned unlisted
  | reset => exact ⟨unpinned, unpinned⟩

theorem Lacks.follow (lacks : l.Lacks t) {events : List Event} (away : ∀ ev ∈ events, ev.brings t = false) :
    (l.follow events).Lacks t := by
  induction events generalizing l with
  | nil => exact lacks
  | cons ev rest ih =>
    exact ih (lacks.after (away ev List.mem_cons_self)) fun ev' member => away ev' (List.mem_cons_of_mem _ member)

/-- Of the occurrences of a tag one is removed. -/
theorem count_tags_remove (l : TagList) (t : Tag) : (l.remove t).state.tags.count t = l.tags.count t - 1 := by
  by_cases listed : t ∈ l.tags
  · rw [(remove_listed listed).2]
    exact List.count_erase_self
  · rw [remove_unlisted listed, List.count_eq_zero.2 listed]

theorem mem_pinned_remove_iff : t ∈ (l.remove t).state.pinned ↔ t ∈ l.pinned ∧ t ∉ l.tags := by
  by_cases listed : t ∈ l.tags
  · rw [(remove_listed listed).2]
    simp [listed]
  · rw [remove_unlisted listed]
    simp [listed]

/-- A tag is added only once. -/
theorem count_tags_add_le {u : Tag} (once : l.tags.count t ≤ 1) : (l.add u).state.tags.count t ≤ 1 := by
  unfold add
  split
  · exact once
  · next new =>
    by_cases same : u = t
    · subst same
      simp [List.count_eq_zero.2 new]
    · simpa [same] using once

/-- A removal takes a tag away exactly if the list is tidy in it. -/
theorem lacks_remove_iff : (l.remove t).state.Lacks t ↔ l.Tidy t := by
  unfold Lacks
  rw [tidy_iff, ← List.count_eq_zero, count_tags_remove, mem_pinned_remove_iff, Nat.sub_eq_zero_iff_le, not_and, not_not]

theorem filter_tags_remove (l : TagList) (t : Tag) :
    (l.remove t).state.tags.filter (· ≠ t) = l.tags.filter (· ≠ t) := by
  by_cases listed : t ∈ l.tags
  · rw [(remove_listed listed).2]
    obtain ⟨front, back, -, parts, rest⟩ := List.exists_erase_eq listed
    show (l.tags.erase t).filter _ = _
    rw [rest, parts, List.filter_append, List.filter_append, List.filter_cons_of_neg (by simp)]
  · rw [remove_unlisted listed]

theorem filter_pinned_remove (l : TagList) (t : Tag) :
    (l.remove t).state.pinned.filter (· ≠ t) = l.pinned.filter (· ≠ t) := by
  by_cases listed : t ∈ l.tags
  · rw [(remove_listed listed).2]
    simp [List.filter_filter]
  · rw [remove_unlisted listed]

theorem removes (l : TagList) (t : Tag) : l.Removes t where
  gone_iff := lacks_remove_iff
  stays gone _ away := gone.follow away
  repeated twice := by
    have listed : t ∈ l.tags := List.count_pos_iff.1 (Nat.lt_of_lt_of_le Nat.zero_lt_two twice)
    exact ⟨(remove_listed listed).1, fun pinned => (mem_pinned_remove_iff.1 pinned).2 listed, count_tags_remove l t⟩
  unlisted pinned unlisted := ⟨remove_unlisted unlisted, pinned⟩
  others := ⟨filter_tags_remove l t, filter_pinned_remove l t⟩

/-- Only the owner makes a tidy list untidy. -/
theorem Tidy.after_iff (tidy : l.Tidy t) (distinct : l.pinned.Nodup) :
    (l.after ev).Tidy t ↔ ev.upsets l t = false := by
  obtain ⟨once, listed⟩ := tidy
  cases ev with
  | setLockable => exact iff_of_true ⟨once, listed⟩ rfl
  | sync tags =>
    rw [tidy_iff, Event.upsets, Bool.or_eq_false_iff, Bool.and_eq_false_imp, decide_eq_false_iff_not, decide_eq_true_iff,
      decide_eq_false_iff_not, Decidable.not_not, Nat.not_le, Nat.lt_succ_iff]
    rfl
  | setPinned pins =>
    show (l.setPinned pins).Tidy t ↔ _
    rw [tidy_iff, mem_pinned_setPinned_iff, Event.upsets, Bool.and_eq_false_imp, decide_eq_true_iff,
      decide_eq_false_iff_not, Decidable.not_not]
    exact and_iff_right once
  | add u =>
    refine iff_of_true ⟨count_tags_add_le once, fun pinned => ?_⟩ rfl
    rw [show (l.after (.add u)).pinned = l.pinned from l.pinned_add u] at pinned
    exact mem_tags_add_iff.2 (.inl (listed pinned))
  | remove u =>
    refine iff_of_true ⟨Nat.le_trans ((l.tags_remove_sublist u).count_le t) once, fun pinned => ?_⟩ rfl
    by_cases same : t = u
    · subst same
      obtain ⟨before, unlisted⟩ := mem_pinned_remove_iff.1 pinned
      exact absurd (listed before) unlisted
    · have before := (l.pinned_remove_sublist u).subset pinned
      exact (List.mem_filter.1 (l.filter_tags_remove u ▸ List.mem_filter.2 ⟨listed before, decide_eq_true same⟩)).1
  | togglePin u =>
    refine iff_of_true ⟨?_, fun pinned => ?_⟩ rfl
    · show (l.togglePin u).2.tags.count t ≤ 1
      rw [tags_togglePin]
      exact once
    · show t ∈ (l.togglePin u).2.tags
      rw [tags_togglePin]
      exact (mem_pinned_togglePin pinned).elim listed id
  | reset => exact iff_of_true ⟨List.nodup_iff_count_le_one.1 distinct t, id⟩ rfl

/-- So a list is tidy as long as its owner does not upset it. -/
theorem Tidy.follow (tidy : l.Tidy t) (distinct : l.pinned.Nodup) {events : List Event}
    (calm : l.undisturbed t events = true) : (l.follow events).Tidy t := by
  induction events generalizing l with
  | nil => exact tidy
  | cons ev rest ih =>
    obtain ⟨first, later⟩ := Bool.and_eq_true_iff.1 calm
    exact ih ((tidy.after_iff distinct).2 (by simpa using first)) (nodup_pinned_after distinct ev) later

/-- **A removal takes a tag away unless the owner has made the list untidy**, after every run of a tag list. -/
theorem removes_follow (heard : Bool) (events : List Event) (t : Tag) :
    (({ heard } : TagList).follow events).Removes t ∧
      (({ heard } : TagList).undisturbed t events = true →
        ((({ heard } : TagList).follow events).remove t).state.Lacks t) := by
  refine ⟨removes _ t, fun calm => lacks_remove_iff.2 ?_⟩
  have empty : ({ heard } : TagList).Tidy t := ⟨Nat.zero_le 1, id⟩
  exact empty.follow List.nodup_nil calm

/-- A tag is supplied with its pin, and removed. -/
theorem removes_follow_cat :
    let cat : Tag := ⟨"female", "cat"⟩
    let events : List Event := [.sync [cat, ⟨"misc", "cute"⟩], .setPinned [cat], .add cat, .setLockable true, .reset]
    let l := ({} : TagList).follow events
    ({} : TagList).undisturbed cat events = true ∧ l.tags = [cat] ∧ l.pinned = [cat] ∧ (l.remove cat).state.Lacks cat := by
  intro cat events l
  have calm : ({} : TagList).undisturbed cat events = true := by decide
  exact ⟨calm, by decide, by decide, (removes_follow true events cat).2 calm⟩

/-- A tag that was supplied twice is still listed after a removal. One that is pinned but not listed stays pinned, and a
reset lists it. -/
theorem cat_left_by_removal :
    let cat : Tag := ⟨"female", "cat"⟩
    let twice := ({} : TagList).follow [.sync [cat, cat], .remove cat]
    let unlisted := ({} : TagList).follow [.setPinned [cat], .remove cat]
    twice.tags = [cat] ∧ unlisted.pinned = [cat] ∧ unlisted.reset.state.tags = [cat] := by
  decide

end StickerBook.Editor.TagList
