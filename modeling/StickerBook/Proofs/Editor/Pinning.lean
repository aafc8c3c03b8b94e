import StickerBook.Proofs.Editor.TagList

/-!
# Repetition in a tag list, and pins set by hand

Tags and pins are kept apart from repetition by separate guards, and a reset lists the pins as tags. So no tag is listed twice
as long as the owner supplies none twice (`nodup_tags_after`), and a reset mends a list that holds one twice. A pin set or
taken back by hand is restored by the same step, as the last one if the tag was pinned before (`togglePin_togglePin`).
-/

namespace StickerBook.Editor.TagList
set_option autoImplicit false

/-- What a step by hand does to the pin of a tag. -/
structure PinsByHand (l : TagList) (t : Tag) : Prop where
  /-- In a list that is not lockable it does nothing. -/
  forbidden : l.lockable = false → l.togglePin t = (false, l)
  /-- In a lockable list it turns the pin of a listed tag over, and no other. -/
  turned : l.lockable = true → t ∈ l.tags → (l.togglePin t).1 = true ∧
    ∀ u, u ∈ (l.togglePin t).2.pinned ↔ if u = t then u ∉ l.pinned else u ∈ l.pinned
  /-- Taken twice, it leaves the same tags pinned, once each, and everything else as it was. -/
  restored : ∃ pinned, pinned.Perm l.pinned ∧ ((l.togglePin t).2.togglePin t).2 = { l with pinned }

variable {l : TagList} {t : Tag} {ev : Event}

theorem togglePin_allowed (lockable : l.lockable = true) (listed : t ∈ l.tags) :
    l.togglePin t
      = (true, { l with pinned := if t ∈ l.pinned then l.pinned.erase t else l.pinned ++ [t] }) := by
  unfold togglePin
  rw [if_pos ⟨lockable, listed⟩]

theorem togglePin_forbidden (forbidden : ¬ (l.lockable = true ∧ t ∈ l.tags)) : l.togglePin t = (false, l) := by
  unfold togglePin
  rw [if_neg forbidden]

/-- A pin that is taken back and set again, or set and taken back, is as it was, up to its place. -/
theorem togglePin_togglePin (distinct : l.pinned.Nodup) (t : Tag) :
    ∃ pinned, pinned.Perm l.pinned ∧ ((l.togglePin t).2.togglePin t).2 = { l with pinned } := by
  by_cases allowed : l.lockable = true ∧ t ∈ l.tags
  · obtain ⟨lockable, listed⟩ := allowed
    rw [togglePin_allowed lockable listed]
    by_cases pinned : t ∈ l.pinned
    · have gone : t ∉ l.pinned.erase t := distinct.not_mem_erase
      have again := togglePin_allowed (l := { l with pinned := l.pinned.erase t }) lockable listed
      refine ⟨l.pinned.erase t ++ [t], ?_, ?_⟩
      · exact (List.perm_append_singleton t _).trans (List.perm_cons_erase pinned).symm
      · rw [if_pos pinned, again, if_neg gone]
    · have there : t ∈ l.pinned ++ [t] := List.mem_append_right _ (List.mem_singleton.2 rfl)
      have again := togglePin_allowed (l := { l with pinned := l.pinned ++ [t] }) lockable listed
      refine ⟨l.pinned, List.Perm.refl _, ?_⟩
      rw [if_neg pinned, again, if_pos there]
      simp [List.erase_append_right _ pinned]
  · rw [togglePin_forbidden allowed, togglePin_forbidden allowed]
    exact ⟨l.pinned, List.Perm.refl _, rfl⟩

/-- In a lockable list the pin of a listed tag is turned over. -/
theorem mem_pinned_togglePin_iff (distinct : l.pinned.Nodup) (lockable : l.lockable = true) (listed : t ∈ l.tags)
    (u : Tag) : u ∈ (l.togglePin t).2.pinned ↔ if u = t then u ∉ l.pinned else u ∈ l.pinned := by
  rw [togglePin_allowed lockable listed]
  by_cases pinned : t ∈ l.pinned
  · simp only [if_pos pinned, distinct.mem_erase_iff]
    by_cases same : u = t <;> simp [same, pinned]
  · simp only [if_neg pinned, List.mem_append, List.mem_singleton]
    by_cases same : u = t <;> simp [same, pinned]

theorem pinsByHand (distinct : l.pinned.Nodup) (t : Tag) : l.PinsByHand t where
  forbidden locked := togglePin_forbidden fun allowed => by simp [locked] at allowed
  turned lockable listed :=
    ⟨by rw [togglePin_allowed lockable listed], mem_pinned_togglePin_iff distinct lockable listed⟩
  restored := togglePin_togglePin distinct t

/-- No tag comes to be listed twice unless the owner supplies it twice. A reset needs the pins to be distinct for that. -/
theorem nodup_tags_after (once : l.tags.Nodup) (distinct : l.pinned.Nodup)
    (supplied : ∀ tags, ev = .sync tags → tags.Nodup) : (l.after ev).tags.Nodup := by
  cases ev with
  | setPinned | setLockable => exact once
  | sync tags => exact supplied tags rfl
  | add u =>
    show (l.add u).state.tags.Nodup
    unfold add
    split
    · exact once
    · next new => exact List.concat_eq_append ▸ once.concat new
  | remove u => exact once.sublist (l.tags_remove_sublist u)
  | togglePin u =>
    show (l.togglePin u).2.tags.Nodup
    rw [tags_togglePin]
    exact once
  | reset => exact distinct

/-- A run in which the owner supplies no tag twice lists none twice. -/
theorem nodup_tags_follow (once : l.tags.Nodup) (distinct : l.pinned.Nodup) {events : List Event}
    (supplied : ∀ tags, .sync tags ∈ events → tags.Nodup) : (l.follow events).tags.Nodup := by
  induction events generalizing l with
  | nil => exact once
  | cons ev rest ih =>
    have first : (l.after ev).tags.Nodup :=
      nodup_tags_after once distinct fun tags same => supplied tags (same ▸ List.mem_cons_self)
    exact ih first (nodup_pinned_after distinct ev) fun tags later => supplied tags (List.mem_cons_of_mem _ later)

/-- **No tag is held twice unless it is supplied twice, and pins set by hand can be taken back**, after every run of a tag
list. -/
theorem holds_once_follow (heard : Bool) (events : List Event) :
    let l := ({ heard } : TagList).follow events
    l.pinned.Nodup ∧ l.reset.state.tags.Nodup ∧ ((∀ tags, .sync tags ∈ events → tags.Nodup) → l.tags.Nodup) ∧
      ∀ t, l.PinsByHand t := by
  intro l
  have distinct : l.pinned.Nodup := nodup_pinned_follow List.nodup_nil events
  exact ⟨distinct, distinct, fun supplied => nodup_tags_follow List.nodup_nil List.nodup_nil supplied,
    fun t => pinsByHand distinct t⟩

/-- Pins are supplied twice, one is set by hand and one is taken back, and a tag is added that is there already. -/
theorem holds_once_follow_cat :
    let cat : Tag := ⟨"female", "cat"⟩
    let cute : Tag := ⟨"misc", "cute"⟩
    let events : List Event := [.sync [cat, cute], .setPinned [cat, cat], .setLockable true, .add cute, .togglePin cute,
      .togglePin cat, .reset, .togglePin cute, .togglePin cute]
    let l := ({} : TagList).follow events
    (∀ tags, .sync tags ∈ events → tags.Nodup) ∧ l.tags = [cute] ∧ l.pinned = [cute] ∧ l.tags.Nodup ∧
      l.PinsByHand cute := by
  intro cat cute events l
  have supplied : ∀ tags, .sync tags ∈ events → tags.Nodup := by
    simp [events, cat, cute]
  obtain ⟨-, -, once, byHand⟩ := holds_once_follow true events
  exact ⟨supplied, by decide, by decide, once supplied, byHand cute⟩

end StickerBook.Editor.TagList
