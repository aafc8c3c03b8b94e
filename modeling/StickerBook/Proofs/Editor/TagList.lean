import Mathlib.Data.List.Nodup
import StickerBook.Editor.TagList
import StickerBook.Proofs.Distinct

/-!
# Runs of a tag list

`TagList.Event` lists what can happen to a tag list. Tags are listed by the owner, one by one, or by a reset, and pinned by
the owner or by hand, which takes a listed tag. No tag is ever pinned twice (`nodup_pinned_follow`).
-/

namespace StickerBook.Editor.TagList
set_option autoImplicit false

/-- What can happen to a tag list. -/
inductive Event where
  | sync (tags : List Tag)
  | setPinned (pinned : List Tag)
  | setLockable (lockable : Bool)
  | add (t : Tag)
  | remove (t : Tag)
  | togglePin (t : Tag)
  | reset

/-- The list after an event. -/
def after (l : TagList) : Event → TagList
  | .sync tags => l.sync tags
  | .setPinned pinned => l.setPinned pinned
  | .setLockable lockable => l.setLockable lockable
  | .add t => (l.add t).state
  | .remove t => (l.remove t).state
  | .togglePin t => (l.togglePin t).2
  | .reset => l.reset.state

/-- The list after some events. -/
def follow (l : TagList) (events : List Event) : TagList := events.foldl after l

variable {l : TagList} {t : Tag}

theorem remove_listed (listed : t ∈ l.tags) :
    (l.remove t).result = true ∧
      (l.remove t).state = { l with tags := l.tags.erase t, pinned := l.pinned.filter (· ≠ t) } := by
  unfold remove
  rw [if_pos listed]
  exact ⟨rfl, rfl⟩

theorem remove_unlisted (unlisted : t ∉ l.tags) : l.remove t = { result := false, state := l } := by
  unfold remove
  rw [if_neg unlisted]

/-- Pins are appended as long as they are new. -/
theorem foldl_appendNew (pins pinned : List Tag) :
    pins.foldl appendNew pinned = pinned ++ (distinctBy id pins).filter fun u => u ∉ pinned := by
  induction pins generalizing pinned with
  | nil => simp [distinctBy]
  | cons u rest ih =>
    rw [List.foldl_cons, ih, distinctBy]
    unfold appendNew
    by_cases old : u ∈ pinned
    · have others : ∀ v, v ∉ pinned → v ≠ u := fun v new same => new (same ▸ old)
      rw [if_pos old, List.filter_cons_of_neg (by simpa using old), List.filter_filter]
      refine congrArg (pinned ++ ·) (List.filter_congr fun v _ => ?_)
      simpa using others v
    · rw [if_neg old, List.filter_cons_of_pos (by simpa using old), List.filter_filter, List.append_assoc]
      refine congrArg (pinned ++ u :: ·) (List.filter_congr fun v _ => ?_)
      simp

theorem pinned_setPinned (l : TagList) (pins : List Tag) : (l.setPinned pins).pinned = distinctBy id pins := by
  unfold setPinned
  rw [foldl_appendNew]
  simp

theorem mem_pinned_setPinned_iff {pins : List Tag} : t ∈ (l.setPinned pins).pinned ↔ t ∈ pins := by
  rw [pinned_setPinned, mem_distinctBy_id_iff]

theorem mem_tags_add_iff {u : Tag} : t ∈ (l.add u).state.tags ↔ t ∈ l.tags ∨ t = u := by
  unfold add
  split
  · next present => exact ⟨.inl, fun either => either.elim id fun same => same ▸ present⟩
  · simp

theorem pinned_add (l : TagList) (u : Tag) : (l.add u).state.pinned = l.pinned := by
  unfold add
  split <;> rfl

theorem tags_remove_sublist (l : TagList) (u : Tag) : (l.remove u).state.tags.Sublist l.tags := by
  unfold remove
  split
  · exact List.erase_sublist
  · exact List.Sublist.refl _

theorem pinned_remove_sublist (l : TagList) (u : Tag) : (l.remove u).state.pinned.Sublist l.pinned := by
  unfold remove
  split
  · exact List.filter_sublist
  · exact List.Sublist.refl _

theorem tags_togglePin (l : TagList) (t : Tag) : (l.togglePin t).2.tags = l.tags := by
  unfold togglePin
  split <;> rfl

/-- A tag is pinned by hand only if it is listed. -/
theorem mem_pinned_togglePin {u : Tag} (pinned : t ∈ (l.togglePin u).2.pinned) : t ∈ l.pinned ∨ t ∈ l.tags := by
  unfold togglePin at pinned
  split at pinned
  · next allowed =>
    dsimp only at pinned
    split at pinned
    · exact .inl (List.mem_of_mem_erase pinned)
    · rcases List.mem_append.1 pinned with old | new
      · exact .inl old
      · exact .inr (List.mem_singleton.1 new ▸ allowed.2)
  · exact .inl pinned

theorem nodup_pinned_after (distinct : l.pinned.Nodup) (ev : Event) : (l.after ev).pinned.Nodup := by
  cases ev with
  | sync | setLockable | reset => exact distinct
  | setPinned pins =>
    show (l.setPinned pins).pinned.Nodup
    rw [pinned_setPinned]
    exact distinctBy_id_nodup pins
  | add u =>
    show (l.add u).state.pinned.Nodup
    rw [pinned_add]
    exact distinct
  | remove u => exact distinct.sublist (l.pinned_remove_sublist u)
  | togglePin u =>
    show (l.togglePin u).2.pinned.Nodup
    unfold togglePin
    split
    · dsimp only
      split
      · exact distinct.erase u
      · next new => exact List.concat_eq_append ▸ distinct.concat new
    · exact distinct

/-- No tag is ever pinned twice. -/
theorem nodup_pinned_follow (distinct : l.pinned.Nodup) (events : List Event) : (l.follow events).pinned.Nodup := by
  induction events generalizing l with
  | nil => exact distinct
  | cons ev rest ih => exact ih (nodup_pinned_after distinct ev)

end StickerBook.Editor.TagList
