import StickerBook.Proofs.Editor.Event
import StickerBook.Proofs.Editor.Selection

/-!
# What supplying values does to an editor

Supplied values replace those of the editor, and the package is the one that its box displays after reconciling
(`setProps_eq`). A package reaches the editor unless the owner supplied the same one last time and something else is
displayed by now (`package_arrives_iff`).
-/

namespace StickerBook.Editor.StickerEditor
set_option autoImplicit false
variable {e : StickerEditor}

/-- The editor with the values of its owner, in which the form shows the package of the given box. -/
def supplied (e : StickerEditor) (p : Props) (packages : Combobox String) : StickerEditor :=
  { e with
    form := {
      name := e.form.name.sync p.name
      package := e.form.package.sync packages.value.value
      tags := e.form.tags.sync p.tags
      nameInput := if e.form.name.value = p.name then e.form.nameInput else p.name }
    packages
    fav := p.fav
    preview := p.path }

/-- What is reported when values are supplied: the default package if one is missing. -/
def reported (e : StickerEditor) : SyncOutcome String → List Change
  | .unchanged | .adopted => []
  | .fellBack default => if e.form.package.heard then [.package default] else []

theorem reported_setValue (e : StickerEditor) (default : String) :
    (((e.form.package.setValue default).changes.map Change.package).map id) = e.reported (.fellBack default) := by
  unfold LockableField.setValue LockableField.report reported
  cases e.form.package.heard <;> rfl

/-- Supplying values replaces the values. -/
theorem setProps_eq (e : StickerEditor) (p : Props) :
    e.setProps p = {
      result := ()
      changes := e.reported (e.packages.reconcile p.package).1
      state := e.supplied p (e.packages.reconcile p.package).2 } := by
  have boxed : e.packages.reconcile p.package = ((e.packages.selection.reconcile p.package).1,
    { e.packages with selection := (e.packages.selection.reconcile p.package).2 }) := rfl
  unfold setProps
  rcases e.packages.selection.reconcile_cases p.package with
    ⟨-, eq⟩ | ⟨v, -, -, -, eq⟩ | ⟨v, -, -, -, eq⟩ | ⟨-, -, eq⟩
  · simp only [boxed, eq]
    rfl
  · simp only [boxed, eq]
    rfl
  · simp only [boxed, eq]
    rfl
  · simp only [boxed, eq]
    exact congrArg (fun changes => Effect.mk () changes _) (e.reported_setValue _)

/-- The event may change the selection of the package box without the form. -/
def Event.selects : Event → Bool
  | .act (.packages action) => action.selects
  | _ => false

/-- What can happen to the package of an editor unless its owner supplies one: it stays, a choice is taken over, or it
is cleared. -/
inductive PackageStep (e e' : StickerEditor) : Prop where
  | kept (selection : e'.packages.selection = e.packages.selection)
      (field : e'.form.package.value = e.form.package.value)
  | chosen (v : String) (selection : e'.packages.selection = e.packages.selection.setCurrent v)
      (field : e'.form.package.value = v)
  | cleared (selection : e'.packages.selection = e.packages.selection.resetToDefault)
      (field : e'.form.package.value = e.form.package.default)

theorem packageStep_selectPackage (e : StickerEditor) (index : Nat) :
    PackageStep e (e.selectPackage index).state := by
  have selected := e.packages.selection_select index
  rw [state_selectPackage]
  cases chosen : (e.packages.select index).1 with
  | none => exact .kept (by rw [selected, chosen]; rfl) rfl
  | some v => exact .chosen v (by rw [selected, chosen]; rfl) rfl

theorem packageStep_reset (e : StickerEditor) : PackageStep e e.reset.state := by
  cases locked : e.form.package.locked with
  | true =>
    apply PackageStep.kept
    · rw [packages_reset_locked locked]
    · exact congrArg (·.state.value) (LockableField.reset_locked locked)
  | false =>
    apply PackageStep.cleared
    · rw [packages_reset_unlocked locked]
    · exact congrArg (·.state.value) (LockableField.reset_unlocked locked)

theorem packageStep_pickTag (e : StickerEditor) (index : Nat) : PackageStep e (e.pickTag index).state := by
  rw [state_pickTag]
  exact .kept rfl rfl

theorem selection_writePackageInput (e : StickerEditor) (text : String) :
    (e.writePackageInput text).2.packages.selection = e.packages.selection := by
  rw [state_writePackageInput]
  show (if e.variant = .freeForm then _ else _ : Combobox String).selection = _
  split <;> rfl

theorem packageStep_writePackageInput (e : StickerEditor) (text : String) :
    PackageStep e (e.writePackageInput text).2 := by
  refine .kept (e.selection_writePackageInput text) ?_
  rw [state_writePackageInput]

theorem packageStep_after {ev : Event} (own : ev.supplies = false) (joint : ev.selects = false) :
    PackageStep e (e.after ev).state := by
  cases ev with
  | allowPins | answerPackages | answerTags | settleTags => exact .kept rfl rfl
  | settlePackages => exact .kept (e.packages.selection_update _) rfl
  | act action =>
    cases action with
    | setProps => cases own
    | packages action => exact .kept (Combobox.selection_act joint) rfl
    | refresh => exact .kept (e.packages.selection_update _) rfl
    | selectPackage index => exact e.packageStep_selectPackage index
    | reset => exact e.packageStep_reset
    | pickTag index => exact e.packageStep_pickTag index
    | writePackageInput text => exact e.packageStep_writePackageInput text
    | setName | tagBox | addTag | removeTag | toggleTagPin | toggleFav | lockName | lockPackage | setLockedTags
    | writeNameInput => exact .kept rfl rfl

/-- What the owner supplies, if it supplies anything. -/
def Event.supplied? : Event → Option (Option String)
  | .act (.setProps p) => some (Selection.present p.package)
  | .act (.packages (.reconcile external)) => some (Selection.present external)
  | _ => none

theorem PackageStep.observed {e' : StickerEditor} (step : PackageStep e e') :
    e'.packages.selection.observed = e.packages.selection.observed := by
  cases step with
  | kept selection => rw [selection]
  | chosen v selection => rw [selection, Selection.setCurrent]
  | cleared selection => rw [selection, Selection.resetToDefault, Selection.setCurrent]

/-- An editor keeps what was supplied last. -/
theorem observed_after (e : StickerEditor) (ev : Event) :
    (e.after ev).state.packages.selection.observed = ev.supplied?.or e.packages.selection.observed := by
  cases ev with
  | act action =>
    cases action with
    | setProps p =>
      have taken := congrArg Effect.state (e.setProps_eq p)
      have boxed := e.packages.selection.observed_reconcile p.package
      exact (congrArg (fun s => s.packages.selection.observed) taken).trans boxed
    | packages action =>
      have boxed := e.packages.observed_act action
      cases action <;> exact boxed
    | _ => exact (packageStep_after rfl rfl).observed
  | _ => exact (packageStep_after rfl rfl).observed

/-- What the owner supplied last, if it supplied anything. -/
def lastSupplied (events : List Event) : Option (Option String) := (events.filterMap Event.supplied?).getLast?

theorem observed_follow (e : StickerEditor) (events : List Event) :
    (e.follow events).editor.packages.selection.observed
      = (lastSupplied events).or e.packages.selection.observed := by
  induction events generalizing e with
  | nil => rfl
  | cons ev rest ih =>
    rw [follow_cons]
    simp only [ih, observed_after]
    unfold lastSupplied
    cases supplied : ev.supplied? with
    | none => simp [supplied]
    | some given => simp [supplied, List.getLast?_cons]

/-- A present package is displayed once it is supplied, unless the owner supplied it last time; then the display
stays. -/
theorem package_supplied {p : Props} {name : String} (given : Selection.present p.package = some name) :
    (e.setProps p).state.packages.value.value
      = if e.packages.selection.observed = some (some name) then e.packages.value.value else name := by
  rw [setProps_eq]
  exact e.packages.selection.value_reconcile given

theorem preview_supplied (e : StickerEditor) (p : Props) : (e.setProps p).state.preview = p.path := by
  rw [setProps_eq]
  rfl

/-- The form shows the package that its box displays. -/
theorem snapshot_supplied (e : StickerEditor) (p : Props) :
    (e.setProps p).state.snapshot = { e.snapshot with
      name := p.name, package := (e.setProps p).state.packages.value.value, tags := p.tags, fav := p.fav } := by
  rw [setProps_eq]
  rfl

/-- **A package reaches the editor** exactly if the owner did not supply the same one last time or the box still
displays it. What was reported to the owner in the meantime plays no part. -/
theorem package_arrives_iff (variant : Variant) (heard : Listeners) (events : List Event) (p : Props) (name : String)
    (given : p.package = some name) (filled : name ≠ "") :
    let e := ((start variant heard).follow events).editor
    let e' := (e.setProps p).state
    (e'.snapshot.package = name ∧ e'.packages.value.value = name)
      ↔ (lastSupplied events ≠ some (some name) ∨ e.packages.value.value = name) := by
  intro e e'
  have present : Selection.present p.package = some name :=
    Selection.present_eq_some_iff.2 ⟨given, by simpa [Choosable.isBlank] using filled⟩
  have observed : e.packages.selection.observed = lastSupplied events := by
    have kept := observed_follow (start variant heard) events
    rw [kept]
    exact Option.or_none
  have shown := package_supplied (e := e) present
  rw [observed] at shown
  rw [snapshot_supplied, and_self, shown]
  by_cases seen : lastSupplied events = some (some name)
  · simp [seen]
  · simp [seen]

/-- The values of an owner whose sticker is in the package `Cats`. -/
def cats : Props := { name := "", package := some "Cats" }

theorem cats_arrives_iff :
    let given := cats
    let e := ((start .picture {}).follow [.act (.setProps given), .act .reset]).editor
    let e' := (e.setProps given).state
    given.package = some "Cats" ∧ "Cats" ≠ "" ∧
      ((e'.snapshot.package = "Cats" ∧ e'.packages.value.value = "Cats")
        ↔ (lastSupplied [.act (.setProps given), .act .reset] ≠ some (some "Cats") ∨
          e.packages.value.value = "Cats")) :=
  ⟨rfl, by decide, package_arrives_iff .picture {} [.act (.setProps cats), .act .reset] cats "Cats" rfl (by decide)⟩

/-- The owner supplied `Cats`, heard of a reset to `Inbox` and supplies `Cats` again, which does not arrive. -/
theorem cats_lost_after_reset :
    let r := (start .picture {}).follow [.act (.setProps cats), .act .reset]
    r.heard = [.name "", .package "Inbox", .tags []] ∧
      (r.editor.setProps cats).state.snapshot.package = "Inbox" ∧
      (r.editor.setProps cats).state.packages.value.value = "Inbox" := by
  decide

end StickerBook.Editor.StickerEditor
