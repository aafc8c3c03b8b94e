import StickerBook.Proofs.Editor.Listening
import StickerBook.Proofs.Editor.Supply

/-!
# What a reset does to an editor

A reset clears the name and the package unless they are locked, each with the text that was typed for it and the
package with the selection of its box, and brings the tags back to the pinned ones. It reports what it cleared and then
the tags, and nothing else changes (`respectsLocks_follow`). What a field is cleared to is settled when the editor is
made (`defaults_follow`).
-/

namespace StickerBook.Editor
set_option autoImplicit false

namespace LockableField
variable {α : Type} {f : LockableField α}

theorem locked_reset (f : LockableField α) : f.reset.state.locked = f.locked := by
  unfold reset
  split <;> rfl

theorem default_reset (f : LockableField α) : f.reset.state.default = f.default := by
  unfold reset
  split <;> rfl

/-- An owner that listens to the field hears of a reset exactly if the field is not locked. -/
theorem changes_reset {change : α → Change} {keep : Change → Bool} (kept : ∀ v, keep (change v) = f.heard) :
    f.reset.changes.map change = (if f.locked then [] else [change f.default]).filter keep := by
  cases locked : f.locked with
  | true =>
    rw [reset_locked locked]
    rfl
  | false =>
    rw [reset_unlocked locked]
    unfold report
    cases heard : f.heard with
    | true => simp [kept, heard]
    | false => simp [kept, heard]

/-- A field that has been reset is not changed by another reset. -/
theorem reset_reset (f : LockableField α) : f.reset.state.reset = f.reset := by
  cases locked : f.locked with
  | true =>
    have untouched := reset_locked locked
    rw [untouched]
    exact untouched
  | false =>
    have cleared := reset_unlocked locked
    rw [cleared]
    exact reset_unlocked (f := { f with value := f.default }) locked

end LockableField

namespace Form

theorem reset_reset (f : Form) : f.reset.state.reset = f.reset := by
  have name : f.reset.state.name.reset = f.name.reset := f.name.reset_reset
  have package : f.reset.state.package.reset = f.package.reset := f.package.reset_reset
  have typed : (if f.name.reset.result then "" else f.reset.state.nameInput) = f.reset.state.nameInput := by
    show (if f.name.reset.result then "" else if f.name.reset.result then "" else f.nameInput)
      = if f.name.reset.result then "" else f.nameInput
    split <;> rfl
  unfold reset at name package typed ⊢
  simp only [name, package, typed]
  rfl

/-- The changes that a reset brings about, whether or not the owner listens. -/
def cleared (f : Form) : List Change :=
  (if f.name.locked then [] else [.name f.name.default])
    ++ (if f.package.locked then [] else [.package f.package.default]) ++ [.tags f.tags.pinned]

theorem changes_reset {f : Form} {heard : Listeners} (name : f.name.heard = heard.name)
    (package : f.package.heard = heard.package) (tags : f.tags.heard = heard.tags) :
    f.reset.changes = f.cleared.filter heard.hears := by
  have names : f.name.reset.changes.map Change.name
      = (if f.name.locked then [] else [Change.name f.name.default]).filter heard.hears :=
    f.name.changes_reset fun _ => name.symm
  have packages : f.package.reset.changes.map Change.package
      = (if f.package.locked then [] else [Change.package f.package.default]).filter heard.hears :=
    f.package.changes_reset fun _ => package.symm
  have tagLists : f.tags.reset.changes.map Change.tags = [Change.tags f.tags.pinned].filter heard.hears := by
    show (if f.tags.heard then [f.tags.pinned] else []).map Change.tags = _
    rw [tags]
    cases told : heard.tags with
    | true => simp [Listeners.hears, told]
    | false => simp [Listeners.hears, told]
  unfold cleared
  rw [List.filter_append, List.filter_append, ← names, ← packages, ← tagLists]
  rfl

end Form

namespace StickerEditor
variable {e : StickerEditor}

/-- What the name and the package are cleared to, and what the package box displays if no package is supplied. -/
structure Defaults where
  name : String
  package : String
  missing : String

/-- The defaults of an editor. -/
def defaults (e : StickerEditor) : Defaults where
  name := e.form.name.default
  package := e.form.package.default
  missing := e.packages.selection.default

theorem defaults_setProps (e : StickerEditor) (p : Props) : (e.setProps p).state.defaults = e.defaults := by
  have box : (e.packages.reconcile p.package).2.selection.default = e.packages.selection.default :=
    e.packages.selection.default_reconcile p.package
  rw [setProps_eq]
  exact congrArg (Defaults.mk _ _) box

theorem defaults_reset (e : StickerEditor) : e.reset.state.defaults = e.defaults := by
  have name := e.form.name.default_reset
  have package := e.form.package.default_reset
  have box : e.reset.state.packages.selection.default = e.packages.selection.default := by
    show (if e.form.package.reset.result then _ else _ : Combobox String).selection.default = _
    split <;> rfl
  show Defaults.mk e.form.name.reset.state.default e.form.package.reset.state.default _ = _
  rw [name, package, box]
  rfl

/-- Nothing that can happen to an editor changes its defaults. -/
theorem defaults_after (e : StickerEditor) (ev : Event) : (e.after ev).state.defaults = e.defaults := by
  cases ev with
  | allowPins | answerPackages | answerTags | settleTags => rfl
  | settlePackages => exact congrArg (Defaults.mk _ _ ·.default) (e.packages.selection_update _)
  | act action =>
    cases action with
    | setName | tagBox | addTag | removeTag | toggleTagPin | toggleFav | lockName | lockPackage | setLockedTags
    | writeNameInput => rfl
    | refresh => exact congrArg (Defaults.mk _ _ ·.default) (e.packages.selection_update _)
    | packages action => exact congrArg (Defaults.mk _ _) (e.packages.default_act action)
    | setProps p => exact e.defaults_setProps p
    | selectPackage index =>
      have box := e.packages.default_act (.select index)
      exact (congrArg defaults (e.state_selectPackage index)).trans (congrArg (Defaults.mk _ _) box)
    | pickTag index => exact (congrArg defaults (e.state_pickTag index)).trans rfl
    | writePackageInput text =>
      have box := congrArg Selection.default (e.selection_writePackageInput text)
      rw [state_writePackageInput] at box
      exact (congrArg defaults (e.state_writePackageInput text)).trans (congrArg (Defaults.mk _ _) box)
    | reset => exact e.defaults_reset

theorem defaults_follow (e : StickerEditor) (events : List Event) :
    (e.follow events).editor.defaults = e.defaults :=
  follow_keeps (fun e' => e'.defaults = e.defaults) (fun e' same ev _ => (e'.defaults_after ev).trans same) rfl

/-- A reset of an editor is one of its form. -/
theorem reset_eq (e : StickerEditor) :
    e.reset = {
      result := e.form.reset.result
      changes := e.form.reset.changes
      state := { e with form := e.form.reset.state, packages := e.reset.state.packages } } := by
  have heard : (e.form.reset.changes.map id).map id = e.form.reset.changes := by rw [List.map_id, List.map_id]
  exact congrArg (fun changes => Effect.mk e.form.reset.result changes e.reset.state) heard

/-- An editor that has been reset is not changed by another reset, which reports the same. -/
theorem reset_reset (e : StickerEditor) : e.reset.state.reset = e.reset := by
  have form := e.form.reset_reset
  have box : e.reset.state.reset.state.packages = e.reset.state.packages := by
    have lock : e.reset.state.form.package.locked = e.form.package.locked := e.form.package.locked_reset
    cases locked : e.form.package.locked with
    | true => exact packages_reset_locked (lock.trans locked)
    | false =>
      rw [packages_reset_unlocked (lock.trans locked), packages_reset_unlocked locked]
      simp only [show e.reset.state.variant = e.variant from rfl]
      split <;> rfl
  rw [e.reset.state.reset_eq, box]
  show Effect.mk e.form.reset.state.reset.result e.form.reset.state.reset.changes
    { e with form := e.form.reset.state.reset.state, packages := e.reset.state.packages } = _
  rw [form]
  exact e.reset_eq.symm

/-- A reset respects the locks of an editor whose owner listens to the given fields. -/
structure RespectsLocks (e : StickerEditor) (heard : Listeners) : Prop where
  /-- A locked name stays with the text typed for it. -/
  name_locked : e.form.name.locked = true →
    e.reset.state.form.name = e.form.name ∧ e.reset.state.form.nameInput = e.form.nameInput
  name_unlocked : e.form.name.locked = false →
    e.reset.state.form.name = { e.form.name with value := "" } ∧ e.reset.state.form.nameInput = ""
  /-- A locked package stays, and so does its box. -/
  package_locked : e.form.package.locked = true →
    e.reset.state.form.package = e.form.package ∧ e.reset.state.packages = e.packages
  /-- A package that is not locked becomes the default one, in the form and in the box. The text in the box is cleared
  if the owner can reach it. -/
  package_unlocked : e.form.package.locked = false →
    e.reset.state.form.package = { e.form.package with value := defaultPackage } ∧
    e.reset.state.packages = { e.packages with
      selection := { e.packages.selection with current := .plain defaultPackage }
      input := if e.variant = .freeForm then "" else e.packages.input }
  tags : e.reset.state.form.tags = { e.form.tags with tags := e.form.tags.pinned }
  result : e.reset.result =
    { nameCleared := !e.form.name.locked, packageCleared := !e.form.package.locked, tags := e.form.tags.pinned }
  /-- What was cleared is reported, once each and in this order, to an owner that listens. -/
  changes : e.reset.changes =
    List.filter heard.hears
      ((if e.form.name.locked then [] else [.name ""])
        ++ (if e.form.package.locked then [] else [.package defaultPackage]) ++ [.tags e.form.tags.pinned])
  /-- Nothing else is changed. -/
  rest : e.reset.state = { e with form := e.reset.state.form, packages := e.reset.state.packages }
  /-- A second reset does the same and changes nothing. -/
  again : e.reset.state.reset = e.reset

/-- **A reset respects the locks**, whatever has happened to the editor and whichever fields its owner listens to. -/
theorem respectsLocks_follow (variant : Variant) (heard : Listeners) (events : List Event) :
    ((start variant heard).follow events).editor.RespectsLocks heard := by
  have listeners := listeners_follow (start variant heard) events
  have defaults := defaults_follow (start variant heard) events
  generalize ((start variant heard).follow events).editor = e at listeners defaults
  have name : e.form.name.default = "" := congrArg Defaults.name defaults
  have package : e.form.package.default = defaultPackage := congrArg Defaults.package defaults
  have missing : e.packages.selection.default = defaultPackage := congrArg Defaults.missing defaults
  constructor
  case name_locked =>
    intro locked
    have kept := LockableField.reset_locked locked
    constructor
    · exact congrArg Effect.state kept
    · show (if e.form.name.reset.result then _ else _) = _
      rw [kept]
      rfl
  case name_unlocked =>
    intro unlocked
    have cleared := LockableField.reset_unlocked unlocked
    constructor
    · exact (congrArg Effect.state cleared).trans (congrArg (fun value => { e.form.name with value }) name)
    · show (if e.form.name.reset.result then _ else _) = _
      rw [cleared]
      rfl
  case package_locked =>
    intro locked
    have kept := LockableField.reset_locked locked
    exact ⟨congrArg Effect.state kept, packages_reset_locked locked⟩
  case package_unlocked =>
    intro unlocked
    have cleared := LockableField.reset_unlocked unlocked
    have box := packages_reset_unlocked unlocked
    rw [Selection.resetToDefault, missing] at box
    exact ⟨(congrArg Effect.state cleared).trans (congrArg (fun value => { e.form.package with value }) package), box⟩
  case tags => rfl
  case result =>
    have cleared := e.form.name.result_reset
    have cleared' := e.form.package.result_reset
    show ResetReport.mk e.form.name.reset.result e.form.package.reset.result _ = _
    rw [cleared, cleared']
    rfl
  case changes =>
    have told : e.form.reset.changes = e.form.cleared.filter heard.hears := Form.changes_reset
      (congrArg Listeners.name listeners) (congrArg Listeners.package listeners) (congrArg Listeners.tags listeners)
    unfold Form.cleared at told
    rw [name, package] at told
    rw [reset_eq]
    exact told
  case rest => rfl
  case again => exact e.reset_reset

end StickerEditor
end StickerBook.Editor
