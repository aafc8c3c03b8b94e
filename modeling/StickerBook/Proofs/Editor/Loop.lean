import StickerBook.Proofs.Editor.Candor
import StickerBook.Proofs.Editor.Reset

/-!
# An editor and an obedient owner

The owner of an editor keeps a copy of its values. It notes down every change that is reported, and it supplies its copy
after every change of the copy before anything else happens. Whatever the owner and the user do, each change settles:
the copy is supplied at most twice, nothing but the default package is reported meanwhile, and from then on the copy and
the editor agree and supplying the copy again does nothing (`comes_to_rest`).
-/

namespace StickerBook.Editor
set_option autoImplicit false

/-- The values of the owner after a reported change has been noted down. -/
def Props.hear (p : Props) : Change → Props
  | .name name => { p with name }
  | .package name => { p with package := some name }
  | .tags tags => { p with tags }
  | .fav fav => { p with fav }

namespace Values

/-- What an owner supplies that holds these values. -/
def props (v : Values) (path : Option String) : Props where
  name := v.name
  package := some v.package
  tags := v.tags
  fav := v.fav
  path := path

theorem hear_props (v : Values) (path : Option String) (c : Change) :
    (v.props path).hear c = (v.hear c).props path := by
  cases c <;> rfl

/-- A copy of the values is kept by noting down what is reported. -/
theorem hearAll_props (v : Values) (path : Option String) (changes : List Change) :
    changes.foldl Props.hear (v.props path) = (v.hearAll changes).props path := by
  induction changes generalizing v with
  | nil => rfl
  | cons c rest ih =>
    rw [List.foldl_cons, hear_props]
    exact ih (v.hear c)

end Values

/-- An editor with the copy that its owner keeps. A due copy is supplied before anything else happens. -/
structure Loop where
  copy : Props
  editor : StickerEditor
  due : Bool := false

namespace Loop
variable {l l' : Loop}

/-- The owner notes down what an effect on the editor reports. Its copy is due if that has changed it; for an eager
owner it is due if anything was reported. -/
def note {β : Type} (l : Loop) (x : Effect β Change StickerEditor) (eager : Bool) : Loop :=
  let copy := x.changes.foldl Props.hear l.copy
  { copy, editor := x.state, due := copy ≠ l.copy || eager && !x.changes.isEmpty }

/-- The owner supplies its copy. -/
def supply (l : Loop) : Loop := l.note (l.editor.setProps l.copy) false

/-- What can happen between an owner and its editor. -/
inductive Event where
  /-- The owner replaces its copy. -/
  | own (copy : Props)
  /-- Something happens to the editor, and the owner is eager this time or not. -/
  | edit (ev : StickerEditor.Event) (eager : Bool)

/-- Apart from the owner nobody supplies values, and packages are selected in the editor and not in its box alone. -/
def Event.Allowed : Event → Prop
  | .own _ => True
  | .edit ev _ => ev.supplies = false ∧ ev.selects = false

/-- What comes of an event at first. -/
def after (l : Loop) : Event → Loop
  | .own copy => { l with copy, due := true }
  | .edit ev eager => l.note (l.editor.after ev) eager

/-- The owner supplies its copy as long as it is due. The list holds what is reported each time. -/
inductive Settles : Loop → List (List Change) → Loop → Prop where
  | still {l : Loop} (quiet : l.due = false) : Settles l [] l
  | supplied {l l' : Loop} {reports : List (List Change)} (due : l.due = true) (later : Settles l.supply reports l') :
    Settles l ((l.editor.setProps l.copy).changes :: reports) l'

/-- What an owner that listens to every field can come to with its editor, from an empty editor and any copy on. -/
inductive Reachable : Loop → Prop where
  | start (variant : Variant) (copy : Props) : Reachable { copy, editor := .start variant {} }
  | step {l l' : Loop} {ev : Event} {reports : List (List Change)} (before : Reachable l) (allowed : ev.Allowed)
    (settles : Settles (l.after ev) reports l') : Reachable l'

/-- The copy and the editor agree, and supplying the copy again does nothing. -/
structure AtRest (l : Loop) : Prop where
  agree : l.copy = l.editor.values.props l.copy.path
  filled : l.editor.values.package ≠ ""
  idle : l.editor.setProps l.copy = { result := (), state := l.editor }

/-- How a loop settles after an event: the owner supplies its copy at most twice, and nothing but the default package is
reported meanwhile. Once the copy has been supplied the loop is at rest, and it stays so as long as nothing is due. -/
structure Rests (l : Loop) (ev : Event) (reports : List (List Change)) (l' : Loop) : Prop where
  settles : Settles (l.after ev) reports l'
  only : ∀ reports' l'', Settles (l.after ev) reports' l'' → reports' = reports ∧ l'' = l'
  few : reports.length ≤ 2
  heard : reports.flatten = [] ∨ reports.flatten = [.package defaultPackage]
  rest : reports ≠ [] ∨ l.AtRest → l'.AtRest

/-- There is only one way to settle. -/
theorem Settles.unique {reports reports' : List (List Change)} {l'' : Loop} (settles : Settles l reports l')
    (other : Settles l reports' l'') : reports' = reports ∧ l'' = l' := by
  induction settles generalizing reports' l'' with
  | still quiet =>
    cases other with
    | still => exact ⟨rfl, rfl⟩
    | supplied due => rw [quiet] at due; cases due
  | supplied due _ ih =>
    cases other with
    | still quiet => rw [quiet] at due; cases due
    | supplied _ later =>
      obtain ⟨same, rfl⟩ := ih later
      exact ⟨by rw [same], rfl⟩

end Loop

namespace StickerEditor
variable {e : StickerEditor}

/-- The owner listens to every field, and a missing package becomes the default one wherever it is filled in. -/
structure Tended (e : StickerEditor) : Prop where
  full : e.listeners = {}
  selection : e.packages.selection.default = defaultPackage
  field : e.form.package.default = defaultPackage

theorem tended_start (variant : Variant) : (start variant {}).Tended := ⟨rfl, rfl, rfl⟩

theorem tended_after (tended : e.Tended) (ev : Event) : (e.after ev).state.Tended where
  full := (e.listeners_after ev).trans tended.full
  selection := (congrArg Defaults.missing (e.defaults_after ev)).trans tended.selection
  field := (congrArg Defaults.package (e.defaults_after ev)).trans tended.field

/-- Unless the owner supplies its values, the picture on display stays. -/
theorem preview_after {ev : Event} (own : ev.supplies = false) : (e.after ev).state.preview = e.preview := by
  cases ev with
  | allowPins | answerPackages | answerTags | settlePackages | settleTags => rfl
  | act action =>
    cases action with
    | setProps => cases own
    | packages | tagBox | refresh | lockName | lockPackage | setLockedTags | writeNameInput | toggleTagPin | setName
      | addTag | removeTag | toggleFav | reset => rfl
    | writePackageInput text => exact (congrArg StickerEditor.preview (e.state_writePackageInput text)).trans rfl
    | selectPackage index => exact (congrArg StickerEditor.preview (e.state_selectPackage index)).trans rfl
    | pickTag index => exact (congrArg StickerEditor.preview (e.state_pickTag index)).trans rfl

/-- Its own values change nothing in an editor whose form and box show the same package. -/
theorem supplied_own (shown : e.packages.value.value = e.values.package) :
    e.supplied (e.values.props e.preview) e.packages = e := by
  have package : e.form.package.sync e.packages.value.value = e.form.package := by
    rw [shown]
    rfl
  have typed : (if e.form.name.value = e.form.name.value then e.form.nameInput else e.form.name.value)
      = e.form.nameInput := if_pos rfl
  unfold supplied
  rw [package]
  exact congrArg (fun nameInput => { e with form := { e.form with nameInput } }) typed

/-- If the owner supplied this package last time, the box still displays it. -/
def Ready (e : StickerEditor) (package : Option String) : Prop :=
  e.packages.selection.observed = some (Selection.present package) →
    Selection.present package = some e.packages.value.value

/-- A package that is supplied in time is taken over without a word. -/
theorem supplied_present {p : Props} {name : String} (given : Selection.present p.package = some name)
    (ready : e.Ready p.package) :
    (e.setProps p).changes = [] ∧ (e.setProps p).state.packages.value.value = name ∧
      (e.setProps p).state.packages.selection.observed = some (some name) := by
  refine ⟨?_, ?_, ?_⟩
  · rw [setProps_eq]
    show e.reported (e.packages.selection.reconcile p.package).1 = []
    rcases e.packages.selection.reconcile_cases p.package with
      ⟨-, eq⟩ | ⟨v, -, -, -, eq⟩ | ⟨v, -, -, -, eq⟩ | ⟨missing, -, eq⟩
    · rw [eq, reported]
    · rw [eq, reported]
    · rw [eq, reported]
    · rw [given] at missing
      cases missing
  · rw [package_supplied given]
    split
    · next seen =>
      have shown := ready (given ▸ seen)
      rw [given] at shown
      exact (Option.some.inj shown).symm
    · rfl
  · have noted := e.observed_after (.act (.setProps p))
    exact noted.trans (congrArg some given)

/-- A missing package is replaced by the default one, which is reported. -/
theorem supplied_missing (tended : e.Tended) {p : Props} (missing : Selection.present p.package = none)
    (ready : e.Ready p.package) :
    (e.setProps p).changes = [.package defaultPackage] ∧
      (e.setProps p).state.packages.selection.observed = some none := by
  have new : e.packages.selection.observed ≠ some none := by
    intro seen
    have shown := ready (missing ▸ seen)
    rw [missing] at shown
    cases shown
  refine ⟨?_, ?_⟩
  · rw [setProps_eq]
    show e.reported (e.packages.selection.reconcile p.package).1 = _
    rw [Selection.reconcile_missing missing new, tended.selection, reported, package_heard tended.full]
    rfl
  · have noted := e.observed_after (.act (.setProps p))
    exact noted.trans (congrArg some missing)

end StickerEditor

namespace Loop
open StickerEditor (Tended Ready)
variable {l l' : Loop}

/-- The editor displays and has seen what the owner holds. -/
structure Synced (l : Loop) : Prop where
  agree : l.copy = l.editor.values.props l.editor.preview
  filled : l.editor.values.package ≠ ""
  shown : l.editor.packages.value.value = l.editor.values.package
  seen : l.editor.packages.selection.observed = some (some l.editor.values.package)

theorem Synced.present (synced : l.Synced) :
    Selection.present l.copy.package = some l.editor.values.package := by
  rw [synced.agree]
  exact Selection.present_eq_some_iff.2 ⟨rfl, by simpa [Choosable.isBlank] using synced.filled⟩

theorem Synced.atRest (synced : l.Synced) : l.AtRest where
  agree := by
    have path : l.copy.path = l.editor.preview := congrArg Props.path synced.agree
    rw [path]
    exact synced.agree
  filled := synced.filled
  idle := by
    have seen : l.editor.packages.selection.observed = some (Selection.present l.copy.package) := by
      rw [synced.present, synced.seen]
    have kept : l.editor.packages.reconcile l.copy.package = (.unchanged, l.editor.packages) := by
      unfold Combobox.reconcile
      rw [Selection.reconcile_seen seen]
    rw [StickerEditor.setProps_eq, kept, synced.agree, StickerEditor.supplied_own synced.shown]
    rfl

/-- An owner and an editor at rest are in step. -/
theorem AtRest.synced (rest : l.AtRest) : l.Synced := by
  have present : Selection.present l.copy.package = some l.editor.values.package := by
    rw [rest.agree]
    exact Selection.present_eq_some_iff.2 ⟨rfl, by simpa [Choosable.isBlank] using rest.filled⟩
  have unchanged : (l.editor.setProps l.copy).state = l.editor := congrArg Effect.state rest.idle
  have preview := l.editor.preview_supplied l.copy
  have shown :
      (l.editor.setProps l.copy).state.values.package = (l.editor.setProps l.copy).state.packages.value.value :=
    congrArg Snapshot.package (l.editor.snapshot_supplied l.copy)
  have seen := l.editor.observed_after (.act (.setProps l.copy))
  change (l.editor.setProps l.copy).state.packages.selection.observed = _ at seen
  rw [unchanged] at preview shown seen
  refine ⟨?_, rest.filled, shown.symm, seen.trans (congrArg some present)⟩
  rw [preview]
  exact rest.agree

/-- What a loop keeps as long as nothing is due: the owner has supplied nothing yet, or it is in step with the
editor. -/
structure Quiet (l : Loop) : Prop where
  tended : l.editor.Tended
  still : l.due = false
  met : l.editor.packages.selection.observed = none ∨ l.Synced

/-- What a loop keeps as long as the copy is due. -/
structure Pending (l : Loop) : Prop where
  tended : l.editor.Tended
  due : l.due = true
  ready : l.editor.Ready l.copy.package

/-- A copy with a package settles at once. -/
theorem Pending.supply_present (pending : l.Pending) {name : String}
    (given : Selection.present l.copy.package = some name) :
    (l.editor.setProps l.copy).changes = [] ∧ l.supply.Quiet ∧ l.supply.Synced := by
  obtain ⟨silent, shown, seen⟩ := StickerEditor.supplied_present given pending.ready
  obtain ⟨package, filled⟩ := Selection.present_eq_some_iff.1 given
  have copied : l.supply.copy = l.copy := by simp [supply, note, silent]
  have settled : l.supply.due = false := by simp [supply, note, silent]
  have values : l.supply.editor.values = ⟨l.copy.name, name, l.copy.tags, l.copy.fav⟩ := by
    have snapshot := congrArg Snapshot.values (l.editor.snapshot_supplied l.copy)
    rw [shown] at snapshot
    exact snapshot
  have synced : l.supply.Synced := by
    refine ⟨?_, ?_, ?_, ?_⟩
    · have preview : l.supply.editor.preview = l.copy.path := l.editor.preview_supplied l.copy
      rw [copied, values, preview, Values.props, ← package]
    · rw [values]
      simpa [Choosable.isBlank] using filled
    · rw [values]
      exact shown
    · rw [values]
      exact seen
  exact ⟨silent, ⟨StickerEditor.tended_after pending.tended (.act (.setProps _)), settled, .inr synced⟩, synced⟩

/-- A copy without a package is completed by the default one and is due again. -/
theorem Pending.supply_missing (pending : l.Pending) (missing : Selection.present l.copy.package = none) :
    (l.editor.setProps l.copy).changes = [.package defaultPackage] ∧ l.supply.Pending ∧
      Selection.present l.supply.copy.package = some defaultPackage := by
  obtain ⟨told, seen⟩ := StickerEditor.supplied_missing pending.tended missing pending.ready
  have filled : Selection.present (some defaultPackage) = some defaultPackage := rfl
  have completed : l.supply.copy = { l.copy with package := some defaultPackage } := by
    simp [supply, note, told, Props.hear]
  -- The completed copy differs, so the owner supplies it once more.
  have changed : l.supply.copy ≠ l.copy := by
    intro same
    rw [← same, completed, filled] at missing
    cases missing
  have package : Selection.present l.supply.copy.package = some defaultPackage := by rw [completed, filled]
  refine ⟨told, ⟨StickerEditor.tended_after pending.tended (.act (.setProps _)), ?_, ?_⟩, package⟩
  · exact Bool.or_eq_true_iff.2 (.inl (decide_eq_true changed))
  · intro again
    have observed : l.supply.editor.packages.selection.observed = some none := seen
    rw [observed, package] at again
    cases again

/-- A due copy is supplied once or, if its package is missing, twice. -/
theorem Pending.settles (pending : l.Pending) :
    ∃ reports l', Settles l reports l' ∧ reports.length ≤ 2 ∧
      (reports.flatten = [] ∨ reports.flatten = [.package defaultPackage]) ∧ l'.Quiet ∧ l'.Synced := by
  cases given : Selection.present l.copy.package with
  | some name =>
    obtain ⟨silent, quiet, synced⟩ := pending.supply_present given
    refine ⟨[[]], l.supply, ?_, by decide, .inl rfl, quiet, synced⟩
    have once := Settles.supplied pending.due (.still quiet.still)
    rwa [silent] at once
  | none =>
    obtain ⟨told, again, package⟩ := pending.supply_missing given
    obtain ⟨silent, quiet, synced⟩ := again.supply_present package
    refine ⟨[[.package defaultPackage], []], l.supply.supply, ?_, by decide, .inr rfl, quiet, synced⟩
    have twice := Settles.supplied pending.due (.supplied again.due (.still quiet.still))
    rwa [told, silent] at twice

/-- What the box has seen and still displays is ready to be supplied again. -/
theorem ready_shown {e : StickerEditor} {p : Option String} {seen : String}
    (shown : p = some e.packages.value.value) (observed : e.packages.selection.observed = some (some seen)) :
    e.Ready p := by
  intro again
  rw [observed] at again
  have present := (Option.some.inj again).symm
  obtain ⟨given, -⟩ := Selection.present_eq_some_iff.1 present
  rw [present, ← given, shown]

theorem Quiet.own (quiet : l.Quiet) (copy : Props) : (l.after (.own copy)).Pending := by
  refine ⟨quiet.tended, rfl, ?_⟩
  intro (again : l.editor.packages.selection.observed = some (Selection.present copy.package))
  rcases quiet.met with never | synced
  · cases never.symm.trans again
  · have present := Option.some.inj (again.symm.trans synced.seen)
    exact present.trans (congrArg some synced.shown.symm)

theorem shown_step {e e' : StickerEditor} (tended : e.Tended) (step : e.PackageStep e')
    (shown : e.packages.value.value = e.values.package) : e'.packages.value.value = e'.values.package := by
  cases step with
  | kept selection field =>
    show e'.packages.selection.current.value = e'.form.package.value
    rw [selection, field]
    exact shown
  | chosen v selection field =>
    show e'.packages.selection.current.value = e'.form.package.value
    rw [selection, field]
    rfl
  | cleared selection field =>
    show e'.packages.selection.current.value = e'.form.package.value
    rw [selection, field, tended.field]
    exact tended.selection

/-- Whatever happens to the editor makes the copy due or leaves the loop quiet. -/
theorem Quiet.edit (quiet : l.Quiet) {ev : StickerEditor.Event} (eager : Bool) (own : ev.supplies = false)
    (joint : ev.selects = false) :
    (l.after (.edit ev eager)).Pending ∨
      (l.after (.edit ev eager)).Quiet ∧ (l.Synced → (l.after (.edit ev eager)).Synced) := by
  have tended : (l.editor.after ev).state.Tended := StickerEditor.tended_after quiet.tended ev
  have step := StickerEditor.packageStep_after (e := l.editor) own joint
  rcases quiet.met with never | synced
  · have unseen : (l.editor.after ev).state.packages.selection.observed = none := step.observed.trans never
    cases due : (l.after (.edit ev eager)).due with
    | true =>
      refine .inl ⟨tended, due, ?_⟩
      intro again
      cases unseen.symm.trans again
    | false =>
      refine .inr ⟨⟨tended, due, .inl unseen⟩, ?_⟩
      intro synced
      cases never.symm.trans synced.seen
  · -- The copy has followed the editor, whether it is due or not.
    have copied : (l.after (.edit ev eager)).copy
        = (l.editor.after ev).state.values.props (l.editor.after ev).state.preview := by
      show (l.editor.after ev).changes.foldl Props.hear l.copy = _
      rw [synced.agree, Values.hearAll_props, (StickerEditor.tells_after quiet.tended.full own).hearAll,
        StickerEditor.preview_after own]
    have seen := step.observed.trans synced.seen
    have shown := shown_step quiet.tended step synced.shown
    cases due : (l.after (.edit ev eager)).due with
    | true =>
      exact .inl ⟨tended, due, ready_shown ((congrArg Props.package copied).trans (congrArg some shown.symm)) seen⟩
    | false =>
      -- A copy that is not due is the one that was there before, so what the box has seen is still right.
      have kept : (l.after (.edit ev eager)).copy = l.copy :=
        Decidable.not_not.1 (of_decide_eq_false (Bool.or_eq_false_iff.1 due).1)
      have package : (l.editor.after ev).state.values.package = l.editor.values.package := by
        rw [copied, synced.agree] at kept
        exact Option.some.inj (congrArg Props.package kept)
      have synced' : (l.after (.edit ev eager)).Synced := by
        refine ⟨copied, ?_, shown, ?_⟩
        · exact package ▸ synced.filled
        · exact package ▸ seen
      exact .inr ⟨⟨tended, due, .inr synced'⟩, fun _ => synced'⟩

theorem Quiet.after (quiet : l.Quiet) {ev : Event} (allowed : ev.Allowed) :
    (l.after ev).Pending ∨ (l.after ev).Quiet ∧ (l.Synced → (l.after ev).Synced) := by
  cases ev with
  | own copy => exact .inl (quiet.own copy)
  | edit ev eager => exact quiet.edit eager allowed.1 allowed.2

/-- After each event a quiet loop settles and is quiet again. -/
theorem Quiet.settles (quiet : l.Quiet) {ev : Event} (allowed : ev.Allowed) :
    ∃ reports l', Settles (l.after ev) reports l' ∧ reports.length ≤ 2 ∧
      (reports.flatten = [] ∨ reports.flatten = [.package defaultPackage]) ∧ l'.Quiet ∧
      (reports ≠ [] ∨ l.Synced → l'.Synced) := by
  rcases quiet.after allowed with pending | ⟨still, kept⟩
  · obtain ⟨reports, l', settles, few, heard, quiet', synced⟩ := pending.settles
    exact ⟨reports, l', settles, few, heard, quiet', fun _ => synced⟩
  · refine ⟨[], _, .still still.still, by decide, .inl rfl, still, ?_⟩
    rintro (some | synced)
    · exact absurd rfl some
    · exact kept synced

theorem Reachable.quiet (reachable : Reachable l) : l.Quiet := by
  induction reachable with
  | start variant copy => exact ⟨StickerEditor.tended_start variant, rfl, .inl rfl⟩
  | step _ allowed settles quiet =>
    obtain ⟨reports, l', first, -, -, quiet', -⟩ := quiet.settles allowed
    obtain ⟨-, rfl⟩ := settles.unique first
    exact quiet'

/-- **An editor and an obedient owner come to rest** after each event. -/
theorem comes_to_rest (reachable : Reachable l) {ev : Event} (allowed : ev.Allowed) :
    ∃ reports l', Rests l ev reports l' := by
  obtain ⟨reports, l', settles, few, heard, -, synced⟩ := reachable.quiet.settles allowed
  refine ⟨reports, l', settles, fun _ _ other => settles.unique other, few, heard, ?_⟩
  rintro (some | rest)
  · exact (synced (.inl some)).atRest
  · exact (synced (.inr rest.synced)).atRest

/-- The owner has left the package out and was told of the default one; now the editor is reset. -/
theorem comes_to_rest_after_reset :
    let cat : Props := { name := "cat" }
    let l := ({ copy := cat, editor := .start .picture {} : Loop }.after (.own cat)).supply.supply
    let ev : Event := .edit (.act .reset) false
    Reachable l ∧ ev.Allowed ∧ ∃ reports l', Rests l ev reports l' := by
  intro cat l ev
  have settles : Settles (({ copy := cat, editor := .start .picture {} : Loop }).after (.own cat)) _ l :=
    .supplied rfl (.supplied (by decide) (.still (by decide)))
  have reachable : Reachable l := .step (.start .picture cat) (show (Event.own cat).Allowed from trivial) settles
  exact ⟨reachable, ⟨rfl, rfl⟩, comes_to_rest reachable ⟨rfl, rfl⟩⟩

end Loop

end StickerBook.Editor
