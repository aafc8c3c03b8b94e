import Mathlib.Data.List.Basic
import StickerBook.Proofs.Editor.Listening
import StickerBook.Proofs.Editor.Supply
import StickerBook.Proofs.Editor.TagList

/-!
# What an editor tells its owner

The owner of an editor holds four of its values as well. An editor that has to report a change of one of them reports
it exactly once and with the new value, and it reports nothing else, so an owner that notes down what it hears holds the
values of the editor (`candid_follow`).
-/

namespace StickerBook.Editor
set_option autoImplicit false

/-- The fields whose values the owner of an editor holds as well. -/
inductive Field where
  | name
  | package
  | tags
  | fav
deriving DecidableEq, Repr

/-- The field that has changed. -/
def Change.field : Change → Field
  | .name _ => .name
  | .package _ => .package
  | .tags _ => .tags
  | .fav _ => .fav

/-- The values that an owner holds as well. -/
structure Values where
  name : String
  package : String
  tags : List Tag
  fav : Bool
deriving DecidableEq, Repr

namespace Values
variable {v w : Values}

/-- The change that reports a field. -/
def report (v : Values) : Field → Change
  | .name => .name v.name
  | .package => .package v.package
  | .tags => .tags v.tags
  | .fav => .fav v.fav

/-- The values after a reported change has been noted down. -/
def hear (v : Values) : Change → Values
  | .name name => { v with name }
  | .package package => { v with package }
  | .tags tags => { v with tags }
  | .fav fav => { v with fav }

/-- The values after all reported changes have been noted down. -/
def hearAll (v : Values) (changes : List Change) : Values := changes.foldl hear v

theorem hearAll_append (v : Values) (changes more : List Change) :
    v.hearAll (changes ++ more) = (v.hearAll changes).hearAll more := List.foldl_append

theorem ext_report (same : ∀ f, v.report f = w.report f) : v = w := by
  obtain ⟨name, package, tags, fav⟩ := v
  obtain ⟨name', package', tags', fav'⟩ := w
  have name_eq := Change.name.inj (same .name)
  have package_eq := Change.package.inj (same .package)
  have tags_eq := Change.tags.inj (same .tags)
  have fav_eq := Change.fav.inj (same .fav)
  dsimp only at name_eq package_eq tags_eq fav_eq
  rw [name_eq, package_eq, tags_eq, fav_eq]

/-- A noted change replaces its own field. -/
theorem report_hear (v : Values) (c : Change) (f : Field) :
    (v.hear c).report f = if c.field = f then c else v.report f := by
  cases c <;> cases f <;> rfl

/-- Of the changes of a field the last one counts. -/
theorem report_hearAll (v : Values) (changes : List Change) (f : Field) :
    (v.hearAll changes).report f = ((changes.filter (·.field = f)).getLast?).getD (v.report f) := by
  induction changes generalizing v with
  | nil => rfl
  | cons c rest ih =>
    have later := ih (v.hear c)
    rw [report_hear] at later
    by_cases own : c.field = f
    · simpa [hearAll, own, List.getLast?_cons] using later
    · simpa [hearAll, own] using later

end Values

/-- The reports of one value tell what became of it: it is what was reported, once, or what it was before. -/
def Told {α : Type} (before after : α) (reports : List α) : Prop :=
  reports = [after] ∨ reports = [] ∧ after = before

/-- The changes tell what became of every field. -/
def Tell (changes : List Change) (before after : Values) : Prop :=
  ∀ f, Told (before.report f) (after.report f) (changes.filter (·.field = f))

namespace Told
variable {α β : Type} {a b : α} {reports : List α}

theorem same (a : α) : Told a a [] := .inr ⟨rfl, rfl⟩

theorem map (told : Told a b reports) (f : α → β) : Told (f a) (f b) (reports.map f) := by
  rcases told with once | ⟨never, kept⟩
  · exact .inl (by rw [once]; rfl)
  · exact .inr ⟨by rw [never]; rfl, by rw [kept]⟩

end Told

namespace Tell
variable {changes : List Change} {v w : Values}

/-- An owner that notes down what it hears keeps up with the values. -/
theorem hearAll (tell : Tell changes v w) : v.hearAll changes = w := by
  refine Values.ext_report fun f => ?_
  rw [Values.report_hearAll]
  rcases tell f with once | ⟨never, kept⟩
  · rw [once]
    rfl
  · rw [never, kept]
    rfl

theorem silent (same : w = v) : Tell [] v w := fun _ => .inr ⟨rfl, by rw [same]⟩

/-- Changes that are listed field by field tell what became of each field. -/
theorem ofParts {names packages : List String} {tagLists : List (List Tag)} {favs : List Bool}
    (name : Told v.name w.name names) (package : Told v.package w.package packages)
    (tags : Told v.tags w.tags tagLists) (fav : Told v.fav w.fav favs) :
    Tell (names.map .name ++ packages.map .package ++ tagLists.map .tags ++ favs.map .fav) v w := by
  intro f
  cases f with
  | name => simpa [List.filter_map, Function.comp_def, Change.field, Values.report] using name.map Change.name
  | package => simpa [List.filter_map, Function.comp_def, Change.field, Values.report] using package.map Change.package
  | tags => simpa [List.filter_map, Function.comp_def, Change.field, Values.report] using tags.map Change.tags
  | fav => simpa [List.filter_map, Function.comp_def, Change.field, Values.report] using fav.map Change.fav

end Tell

namespace LockableField
variable {α : Type} {f : LockableField α}

theorem told_setValue (heard : f.heard = true) (v : α) :
    Told f.value (f.setValue v).state.value (f.setValue v).changes := by
  refine .inl ?_
  unfold setValue report
  rw [heard]
  rfl

theorem told_reset (heard : f.heard = true) : Told f.value f.reset.state.value f.reset.changes := by
  unfold reset
  split
  · exact .same f.value
  · refine .inl ?_
    unfold report
    rw [heard]
    rfl

end LockableField

namespace TagList
variable {l : TagList}

theorem told_add (heard : l.heard = true) (t : Tag) : Told l.tags (l.add t).state.tags (l.add t).changes := by
  unfold add
  split
  · exact .same l.tags
  · exact .inl (by simp [report, heard])

theorem told_remove (heard : l.heard = true) (t : Tag) :
    Told l.tags (l.remove t).state.tags (l.remove t).changes := by
  unfold remove
  split
  · exact .inl (by simp [report, heard])
  · exact .same l.tags

theorem told_reset (heard : l.heard = true) : Told l.tags l.reset.state.tags l.reset.changes :=
  .inl (by simp [reset, report, heard])

end TagList

/-- The values of an editor that its owner holds as well. -/
def Snapshot.values (s : Snapshot) : Values where
  name := s.name
  package := s.package
  tags := s.tags
  fav := s.fav

namespace StickerEditor
variable {e : StickerEditor}

/-- The values that the owner holds as well. -/
def values (e : StickerEditor) : Values := e.snapshot.values

/-- What an event brings about is told to the owner. -/
def Tells {β : Type} (e : StickerEditor) (x : Effect β Change StickerEditor) : Prop :=
  Tell x.changes e.values x.state.values

section
variable {β : Type}

theorem tells_onName {x : Effect β String (LockableField String)}
    (told : Told e.form.name.value x.state.value x.changes) : e.Tells (e.onForm (e.form.onName x)) := by
  have parts : Tell _ e.values (e.onForm (e.form.onName x)).state.values :=
    .ofParts told (.same _) (.same _) (.same _)
  simpa [Tells, onForm, Form.onName, Effect.lift] using parts

theorem tells_onPackage {x : Effect β String (LockableField String)}
    (told : Told e.form.package.value x.state.value x.changes) : e.Tells (e.onForm (e.form.onPackage x)) := by
  have parts : Tell _ e.values (e.onForm (e.form.onPackage x)).state.values :=
    .ofParts (.same _) told (.same _) (.same _)
  simpa [Tells, onForm, Form.onPackage, Effect.lift] using parts

theorem tells_onTags {x : Effect β (List Tag) TagList}
    (told : Told e.form.tags.tags x.state.tags x.changes) : e.Tells (e.onForm (e.form.onTags x)) := by
  have parts : Tell _ e.values (e.onForm (e.form.onTags x)).state.values :=
    .ofParts (.same _) (.same _) told (.same _)
  simpa [Tells, onForm, Form.onTags, Effect.lift] using parts

end

section
variable (full : e.listeners = {})
include full

theorem name_heard : e.form.name.heard = true := congrArg Listeners.name full

theorem package_heard : e.form.package.heard = true := congrArg Listeners.package full

theorem tags_heard : e.form.tags.heard = true := congrArg Listeners.tags full

theorem tells_setName (name : String) : e.Tells (e.setName name) :=
  tells_onName (e := { e with form := { e.form with nameInput := name } })
    (LockableField.told_setValue (name_heard full) name)

theorem tells_selectPackage (index : Nat) : e.Tells (e.selectPackage index) := by
  unfold selectPackage
  split
  · exact .silent rfl
  · exact tells_onPackage (LockableField.told_setValue (package_heard full) _)

theorem tells_pickTag (index : Nat) : e.Tells (e.pickTag index) := by
  unfold pickTag
  split
  · exact .silent rfl
  · exact tells_onTags (TagList.told_add (tags_heard full) _)

theorem tells_toggleFav : e.Tells e.toggleFav := by
  have heard : e.favHeard = true := congrArg Listeners.fav full
  have told : Told e.fav (!e.fav) [!e.fav] := .inl rfl
  have parts : Tell _ e.values e.toggleFav.state.values := .ofParts (.same _) (.same _) (.same _) told
  simpa [Tells, toggleFav, heard] using parts

theorem tells_reset : e.Tells e.reset := by
  have parts : Tell _ e.values e.reset.state.values :=
    .ofParts (LockableField.told_reset (name_heard full)) (LockableField.told_reset (package_heard full))
      (TagList.told_reset (tags_heard full)) (.same _)
  simpa [Tells, reset, OpenForm.reset, Form.reset, Effect.lift] using parts

end

theorem values_toggleTagPin (e : StickerEditor) (t : Tag) : (e.toggleTagPin t).2.values = e.values := by
  simp [toggleTagPin, values, Snapshot.values, snapshot, TagList.tags_togglePin]

theorem values_writePackageInput (e : StickerEditor) (text : String) :
    (e.writePackageInput text).2.values = e.values := by
  rw [state_writePackageInput]
  rfl

/-- Unless the owner supplies its values, whatever happens to them is told to it. -/
theorem tells_after (full : e.listeners = {}) {ev : Event} (own : ev.supplies = false) : e.Tells (e.after ev) := by
  cases ev with
  | allowPins | answerPackages | answerTags | settlePackages | settleTags => exact .silent rfl
  | act action =>
    cases action with
    | setProps => cases own
    | packages | tagBox | refresh | lockName | lockPackage | setLockedTags | writeNameInput => exact .silent rfl
    | toggleTagPin t => exact .silent (e.values_toggleTagPin t)
    | writePackageInput text => exact .silent (e.values_writePackageInput text)
    | setName name => exact tells_setName full name
    | selectPackage index => exact tells_selectPackage full index
    | pickTag index => exact tells_pickTag full index
    | addTag t => exact tells_onTags (TagList.told_add (tags_heard full) t)
    | removeTag t => exact tells_onTags (TagList.told_remove (tags_heard full) t)
    | toggleFav => exact tells_toggleFav full
    | reset => exact tells_reset full

/-- An owner that notes down what it hears during a run holds the values at its end. -/
theorem hearAll_follow (full : e.listeners = {}) {events : List Event} (own : ∀ ev ∈ events, ev.supplies = false) :
    e.values.hearAll (e.follow events).heard = (e.follow events).editor.values := by
  induction events generalizing e with
  | nil => rfl
  | cons ev rest ih =>
    have first : e.values.hearAll (e.after ev).changes = (e.after ev).state.values :=
      (tells_after full (own ev List.mem_cons_self)).hearAll
    have later := ih (e := (e.after ev).state) (by rw [listeners_after, full])
      fun ev member => own ev (List.mem_cons_of_mem _ member)
    rw [follow_cons, Values.hearAll_append, first, later]

/-- Supplied values are taken over without a word, but for a package that is missing. -/
theorem changes_setProps (full : e.listeners = {}) (p : Props) :
    (e.setProps p).changes = [] ∨ (e.setProps p).changes = [.package (e.setProps p).state.values.package] := by
  rw [setProps_eq]
  show e.reported (e.packages.selection.reconcile p.package).1 = [] ∨
    e.reported (e.packages.selection.reconcile p.package).1
      = [.package (e.packages.selection.reconcile p.package).2.current.value]
  rcases e.packages.selection.reconcile_cases p.package with
    ⟨-, eq⟩ | ⟨v, -, -, -, eq⟩ | ⟨v, -, -, -, eq⟩ | ⟨-, -, eq⟩
  · exact .inl (by rw [eq, reported])
  · exact .inl (by rw [eq, reported])
  · exact .inl (by rw [eq, reported])
  · refine .inr ?_
    rw [eq, reported, package_heard full]
    rfl

/-- The event sets or lifts a lock or a pin, or allows pins. -/
def Event.locks : Event → Bool
  | .allowPins _ => true
  | .act (.toggleTagPin _) | .act (.lockName _) | .act (.lockPackage _) | .act (.setLockedTags _) => true
  | _ => false

/-- The editor changes nothing behind the back of an owner that listens to every field. -/
structure Candid (e : StickerEditor) : Prop where
  /-- Unless the owner supplies its values, each field that changes is reported once, with its new value, and what is
  reported of a field is its value. -/
  told : ∀ ev, ev.supplies = false → e.Tells (e.after ev)
  /-- The owner can follow by what it hears. -/
  followed : ∀ events, (∀ ev ∈ events, Event.supplies ev = false) →
    e.values.hearAll (e.follow events).heard = (e.follow events).editor.values
  /-- When the owner supplies its values, at most the package is reported, once. -/
  supplied : ∀ p, (e.setProps p).changes = [] ∨
    (e.setProps p).changes = [.package (e.setProps p).state.values.package]
  /-- Locks and pins are not reported. -/
  locked : ∀ ev, Event.locks ev = true → (e.after ev).changes = []
  /-- Of an owner that listens to a part of the fields, the editor takes the same way and reports this part. -/
  muted : ∀ h events, (e.listenTo h).follow events = (e.follow events).through h

/-- **No silent change**: whatever has happened to an editor whose owner listens to every field, it is candid. -/
theorem candid_follow (variant : Variant) (events : List Event) :
    ((start variant {}).follow events).editor.Candid := by
  have full : ((start variant {}).follow events).editor.listeners = {} := listeners_follow _ events
  refine ⟨fun ev own => tells_after full own, fun later own => hearAll_follow full own, changes_setProps full,
    fun ev locks => ?_, fun h later => follow_listenTo h _ full later⟩
  cases ev with
  | allowPins => rfl
  | act action =>
    cases action with
    | toggleTagPin | lockName | lockPackage | setLockedTags => rfl
    | _ => cases locks
  | answerPackages | answerTags | settlePackages | settleTags => cases locks

end StickerEditor

end StickerBook.Editor
