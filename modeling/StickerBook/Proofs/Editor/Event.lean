import StickerBook.Editor.StickerEditor

/-!
# Runs of an editor

`StickerEditor.Event` lists what can happen to an editor. Its owner and its user act on it, and the lookups of its two
boxes are answered in any order, repeatedly or never. `StickerEditor.follow` takes an editor through a list of events
and keeps what its owner hears on the way. What an action leaves alone that depends on a choice, on the variant or on
a lock is read off one equation (`state_selectPackage`, `state_pickTag`, `state_writePackageInput`,
`packages_reset_locked`, `packages_reset_unlocked`).
-/

namespace StickerBook.Editor
set_option autoImplicit false

namespace LockableField
variable {α : Type} {f : LockableField α}

theorem reset_locked (locked : f.locked = true) : f.reset = { result := false, state := f } := by
  unfold reset
  rw [if_pos locked]

theorem reset_unlocked (unlocked : f.locked = false) :
    f.reset = {
      result := true
      changes := { f with value := f.default }.report
      state := { f with value := f.default } } := by
  unfold reset
  rw [unlocked]
  rfl

theorem result_reset (f : LockableField α) : f.reset.result = !f.locked := by
  cases locked : f.locked with
  | true => rw [reset_locked locked]; rfl
  | false => rw [reset_unlocked locked]; rfl

end LockableField

namespace StickerEditor
open Lookup (Response Widget)
variable {e : StickerEditor}

/-- What can happen to an editor. A box that still waits after it settled settles again after the next answer. -/
inductive Event where
  | act (action : Action)
  | allowPins (lockable : Bool)
  | answerPackages (r : Response (Choice String))
  | answerTags (r : Response (Choice Tag))
  | settlePackages
  | settleTags

/-- The owner supplies its values. -/
def Event.supplies : Event → Bool
  | .act (.setProps _) => true
  | _ => false

/-- What an event brings about. -/
def after (e : StickerEditor) : Event → Effect Reply Change StickerEditor
  | .act action => e.act action
  | .allowPins lockable => { result := .done, state := e.withLockable lockable }
  | .answerPackages r => { result := .done, state := { e with packages := Widget.deliver e.packages r } }
  | .answerTags r => { result := .done, state := { e with tagBox := Widget.deliver e.tagBox r } }
  | .settlePackages => silently .flag ((Widget.settle e.packages).map id fun packages => { e with packages })
  | .settleTags => silently .flag ((Widget.settle e.tagBox).map id fun tagBox => { e with tagBox })

/-- An editor, and the changes that its owner has heard of since some point, oldest first. -/
structure Run where
  editor : StickerEditor
  heard : List Change := []

/-- The run after an event. -/
def Run.after (r : Run) (ev : Event) : Run where
  editor := (r.editor.after ev).state
  heard := r.heard ++ (r.editor.after ev).changes

/-- The run of some events from a given editor on. -/
def follow (e : StickerEditor) (events : List Event) : Run := events.foldl Run.after { editor := e }

theorem foldl_after_heard (events : List Event) (r : Run) :
    events.foldl Run.after r
      = { r.editor.follow events with heard := r.heard ++ (r.editor.follow events).heard } := by
  induction events generalizing r with
  | nil => simp [follow]
  | cons ev rest ih =>
    unfold follow
    rw [List.foldl_cons, List.foldl_cons, ih, ih (Run.after _ ev)]
    simp [Run.after]

/-- What is heard of a first event comes before what is heard of the others. -/
theorem follow_cons (e : StickerEditor) (ev : Event) (rest : List Event) :
    e.follow (ev :: rest) = {
      editor := ((e.after ev).state.follow rest).editor
      heard := (e.after ev).changes ++ ((e.after ev).state.follow rest).heard } := by
  have folded := foldl_after_heard rest (Run.after { editor := e } ev)
  simpa [follow, Run.after] using folded

/-- A run keeps what each of its events keeps. -/
theorem follow_keeps (good : StickerEditor → Prop) {events : List Event}
    (keeps : ∀ e, good e → ∀ ev ∈ events, good (e.after ev).state) {e : StickerEditor} (holds : good e) :
    good (e.follow events).editor := by
  induction events generalizing e with
  | nil => exact holds
  | cons ev rest ih =>
    rw [follow_cons]
    exact ih (fun e holds ev member => keeps e holds ev (List.mem_cons_of_mem _ member))
      (keeps e holds ev List.mem_cons_self)

/-- A chosen package is the one of the form. -/
theorem state_selectPackage (e : StickerEditor) (index : Nat) :
    (e.selectPackage index).state = { e with
      packages := (e.packages.select index).2
      form := { e.form with
        package := e.form.package.sync ((e.packages.select index).1.getD e.form.package.value) } } := by
  unfold selectPackage
  split
  · next packages chosen => rw [chosen]; rfl
  · next name packages chosen => rw [chosen]; rfl

/-- A chosen tag is added, and the text typed for it is cleared. -/
theorem state_pickTag (e : StickerEditor) (index : Nat) :
    (e.pickTag index).state = { e with
      tagBox := (e.tagBox.select index).1.elim (e.tagBox.select index).2 fun _ =>
        (e.tagBox.select index).2.writeInput ""
      form := { e.form with
        tags := (e.tagBox.select index).1.elim e.form.tags fun t => (e.form.tags.add t).state } } := by
  unfold pickTag
  split
  · next tagBox chosen => rw [chosen]; rfl
  · next t tagBox chosen => rw [chosen]; rfl

/-- The text in the package box is the owner's only in a free-form sticker. -/
theorem state_writePackageInput (e : StickerEditor) (text : String) :
    (e.writePackageInput text).2 = { e with
      packages := if e.variant = .freeForm then e.packages.writeInput text else e.packages } := by
  cases e with
  | mk variant form packages tagBox fav favHeard preview => cases variant <;> rfl

/-- A locked package keeps its box as it is. -/
theorem packages_reset_locked (locked : e.form.package.locked = true) : e.reset.state.packages = e.packages := by
  have kept : e.form.package.reset.result = false := by rw [LockableField.result_reset, locked]; rfl
  unfold reset OpenForm.reset Form.reset Effect.lift packageInput?
  simp only [kept]
  cases e.variant <;> rfl

/-- With the package its box is cleared, and the text in the box if the owner can reach it. -/
theorem packages_reset_unlocked (unlocked : e.form.package.locked = false) :
    e.reset.state.packages = { e.packages with
      selection := e.packages.selection.resetToDefault
      input := if e.variant = .freeForm then "" else e.packages.input } := by
  have cleared : e.form.package.reset.result = true := by rw [LockableField.result_reset, unlocked]; rfl
  unfold reset OpenForm.reset Form.reset Effect.lift packageInput?
  simp only [cleared]
  cases e.variant <;> rfl

end StickerEditor
end StickerBook.Editor
