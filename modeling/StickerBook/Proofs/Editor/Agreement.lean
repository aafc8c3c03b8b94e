import StickerBook.Proofs.Editor.Reset

/-!
# What an editor holds twice

The package of an editor is a field of its form and the selection of its box, and the name is a field and the text that
was typed for it. Both copies of each agree after every run (`agrees_follow`), as long as packages are selected in the
editor and not in the box alone and nobody writes the text of the name from outside.
-/

namespace StickerBook.Editor.StickerEditor
set_option autoImplicit false
variable {e : StickerEditor}

/-- The event writes the text typed for the name from outside. -/
def Event.writesName : Event → Bool
  | .act (.writeNameInput _) => true
  | _ => false

/-- The two copies of the package agree, and so do those of the name. -/
structure Agrees (e : StickerEditor) : Prop where
  /-- The box displays the package of the form, under its plain label. -/
  package : e.packages.value = { value := e.snapshot.package, label := e.snapshot.package }
  name : e.form.nameInput = e.snapshot.name

/-- The box still displays the package of the form if both were filled in together. -/
theorem PackageStep.displayed {e' : StickerEditor} (step : PackageStep e e')
    (default : e.packages.selection.default = e.form.package.default)
    (displayed : e.packages.value = .plain e.form.package.value) : e'.packages.value = .plain e'.form.package.value := by
  unfold Combobox.value at displayed ⊢
  cases step with
  | kept selection field =>
    rw [selection, field]
    exact displayed
  | chosen v selection field =>
    rw [selection, field]
    rfl
  | cleared selection field =>
    rw [selection, field, ← default]
    rfl

/-- Supplied values bring the form in line with the box. -/
theorem displayed_setProps (p : Props) (displayed : e.packages.value = .plain e.form.package.value) :
    (e.setProps p).state.packages.value = .plain (e.setProps p).state.form.package.value := by
  rw [setProps_eq]
  show (e.packages.selection.reconcile p.package).2.current
    = .plain (e.packages.selection.reconcile p.package).2.current.value
  have shown : e.packages.selection.current = .plain e.packages.selection.current.value := by
    unfold Combobox.value at displayed
    rw [displayed]
    rfl
  rcases e.packages.selection.reconcile_cases p.package with
    ⟨-, eq⟩ | ⟨v, -, -, -, eq⟩ | ⟨v, -, -, -, eq⟩ | ⟨-, -, eq⟩
  · rw [eq]
    exact shown
  · rw [eq]
    exact shown
  · rw [eq]
    rfl
  · rw [eq]
    rfl

/-- The name and the text typed for it change together. -/
theorem typed_after {ev : Event} (inside : ev.writesName = false) (default : e.form.name.default = "")
    (typed : e.form.nameInput = e.form.name.value) :
    (e.after ev).state.form.nameInput = (e.after ev).state.form.name.value := by
  cases ev with
  | allowPins | answerPackages | answerTags | settlePackages | settleTags => exact typed
  | act action =>
    cases action with
    | writeNameInput => cases inside
    | packages | tagBox | addTag | removeTag | toggleTagPin | toggleFav | refresh | lockName | lockPackage
    | setLockedTags => exact typed
    | setName name => rfl
    | setProps p =>
      show (e.setProps p).state.form.nameInput = (e.setProps p).state.form.name.value
      rw [setProps_eq]
      show (if e.form.name.value = p.name then e.form.nameInput else p.name) = p.name
      split
      · next same => rw [typed, same]
      · rfl
    | selectPackage index =>
      show (e.selectPackage index).state.form.nameInput = (e.selectPackage index).state.form.name.value
      rw [state_selectPackage]
      exact typed
    | pickTag index =>
      show (e.pickTag index).state.form.nameInput = (e.pickTag index).state.form.name.value
      rw [state_pickTag]
      exact typed
    | writePackageInput text =>
      show (e.writePackageInput text).2.form.nameInput = (e.writePackageInput text).2.form.name.value
      rw [state_writePackageInput]
      exact typed
    | reset =>
      show (if e.form.name.reset.result then "" else e.form.nameInput) = e.form.name.reset.state.value
      cases locked : e.form.name.locked with
      | true =>
        rw [LockableField.reset_locked locked]
        exact typed
      | false =>
        rw [LockableField.reset_unlocked locked]
        exact default.symm

/-- An event keeps the copies in agreement in an editor with the usual defaults. -/
theorem agrees_after (agrees : e.Agrees) (usual : e.defaults = ⟨"", defaultPackage, defaultPackage⟩) {ev : Event}
    (joint : ev.selects = false) (inside : ev.writesName = false) : (e.after ev).state.Agrees where
  package := by
    have missing : e.packages.selection.default = defaultPackage := congrArg Defaults.missing usual
    have package : e.form.package.default = defaultPackage := congrArg Defaults.package usual
    cases supplies : ev.supplies with
    | false => exact (packageStep_after supplies joint).displayed (missing.trans package.symm) agrees.package
    | true =>
      cases ev with
      | act action =>
        cases action with
        | setProps p => exact displayed_setProps p agrees.package
        | _ => cases supplies
      | _ => cases supplies
  name := typed_after inside (congrArg Defaults.name usual) agrees.name

/-- **One package and one name**: the copies that an editor holds agree after every run in which packages are selected
in the editor alone and the text of the name is not written from outside. -/
theorem agrees_follow (variant : Variant) (heard : Listeners) (events : List Event)
    (joint : ∀ ev ∈ events, ev.selects = false) (inside : ∀ ev ∈ events, ev.writesName = false) :
    ((start variant heard).follow events).editor.Agrees := by
  -- The defaults are carried along, since a reset fills the two copies from different ones.
  refine (follow_keeps (fun e => e.Agrees ∧ e.defaults = ⟨"", defaultPackage, defaultPackage⟩) ?_
    ⟨⟨rfl, rfl⟩, rfl⟩).1
  intro e ⟨agrees, usual⟩ ev member
  constructor
  · exact agrees_after agrees usual (joint ev member) (inside ev member)
  · exact (e.defaults_after ev).trans usual

/-- A package that was to be created is selected and locked before a reset. -/
theorem agrees_created :
    let events : List Event := [.act (.setProps { name := "cat" }), .act (.packages .openList),
      .answerPackages ⟨1, .ready [.plain "Inbox", ⟨"Birds", "Create \"Birds\""⟩]⟩, .act .refresh,
      .act (.selectPackage 1), .act (.lockPackage true), .act .reset]
    let e := ((start .freeForm {}).follow events).editor
    (∀ ev ∈ events, ev.selects = false) ∧ (∀ ev ∈ events, ev.writesName = false) ∧
      e.snapshot.package = "Birds" ∧ e.Agrees :=
  ⟨by decide, by decide, by decide, agrees_follow _ _ _ (by decide) (by decide)⟩

end StickerBook.Editor.StickerEditor
