import StickerBook.Proofs.Editor.Combobox
import StickerBook.Proofs.Editor.Reset
import StickerBook.Proofs.Suggest.Package

/-!
# Whether an editor always has a package

A blank value stands for none. Supplied by the owner it is replaced by the default package, and typed it is not offered for
creation; but a package of the library is offered whatever it is called. So an editor is never without a package if no
package of the library is blank, and a blank package can be selected like any other (`namesPackage_follow`).
-/

namespace StickerBook.Editor
set_option autoImplicit false
open Lookup (Widget)

theorem Selection.filled_reconcile {s : Selection String} (external : Option String) (default : s.default ≠ "")
    (filled : s.current.value ≠ "") : (s.reconcile external).2.current.value ≠ "" := by
  rcases s.reconcile_cases external with
    ⟨-, eq⟩ | ⟨v, -, -, -, eq⟩ | ⟨v, supplied, -, -, eq⟩ | ⟨-, -, eq⟩
  · rw [eq]
    exact filled
  · rw [eq]
    exact filled
  · rw [eq]
    show v ≠ ""
    rintro rfl
    cases (present_eq_some_iff.1 supplied).2
  · rw [eq]
    exact default

namespace Combobox
variable {b : Combobox String}

theorem filled_select {index : Nat} (filled : b.value.value ≠ "")
    (picked : ∀ c, b.candidates[index]? = some c → c.value ≠ "") : (b.select index).2.value.value ≠ "" := by
  unfold select
  split
  · exact filled
  · next c place => exact picked c place

/-- Looking things up shows nothing that the source did not answer. -/
theorem only_act {p : Choice String → Prop} (only : b.service.Only p) (action : Action String) :
    (b.act action).2.service.Only p := by
  cases looks : action.looksUp b with
  | true =>
    obtain ⟨-, service, -⟩ := act_looksUp looks
    rw [service]
    exact ⟨only.shown, only.waiting⟩
  | false =>
    rcases service_silent looks with same | drained
    · rw [same]
      exact only
    · rw [drained]
      exact only.takes (e := .drain) rfl

end Combobox

namespace StickerEditor
variable {e : StickerEditor} {l : Library} {ev : Event}

/-- Lookups in the package box are answered by the library, and nobody has the box display a blank value past it. -/
def Event.ServedBy (l : Library) : Event → Prop
  | .answerPackages r => ∃ text page, r.outcome = (packageSuggestions l.findPackages).answer text page
  | .act (.packages (.setCurrent v)) => v ≠ ""
  | _ => True

/-- The place of the package that the event selects. -/
def Event.picked? (e : StickerEditor) : Event → Option Nat
  | .act (.selectPackage index) | .act (.packages (.select index)) => some index
  | .act (.packages .selectHighlighted) => e.packages.highlighted
  | _ => none

/-- Neither the package in the box nor the one in the form is blank. -/
structure Named (e : StickerEditor) : Prop where
  shown : e.packages.value.value ≠ ""
  field : e.snapshot.package ≠ ""

theorem named_start (variant : Variant) (heard : Listeners) : (start variant heard).Named := by
  have filled : defaultPackage ≠ "" := by decide
  exact ⟨filled, filled⟩

theorem Named.of_same {e' : StickerEditor} (named : e.Named) (selection : e'.packages.selection = e.packages.selection)
    (field : e'.form.package = e.form.package) : e'.Named := by
  constructor
  · show e'.packages.selection.current.value ≠ ""
    rw [selection]
    exact named.shown
  · show e'.form.package.value ≠ ""
    rw [field]
    exact named.field

theorem Named.packages (named : e.Named) {action : Combobox.Action String} (default : e.packages.selection.default ≠ "")
    (served : Event.ServedBy l (.act (.packages action)))
    (picked : ∀ i c, Event.picked? e (.act (.packages action)) = some i → e.packages.candidates[i]? = some c →
      c.value ≠ "") : (e.packages.act action).2.value.value ≠ "" := by
  cases action with
  | openList | closeList | setInput | writeInput | refresh | moveHighlight | isSelected =>
    show (e.packages.act _).2.selection.current.value ≠ ""
    rw [Combobox.selection_act rfl]
    exact named.shown
  | select index => exact Combobox.filled_select named.shown fun c => picked index c rfl
  | selectHighlighted =>
    show e.packages.selectHighlighted.2.value.value ≠ ""
    unfold Combobox.selectHighlighted
    split
    · exact named.shown
    · next index highlighted => exact Combobox.filled_select named.shown fun c => picked index c highlighted
  | setCurrent v => exact served
  | resetToDefault => exact default
  | reconcile external => exact e.packages.selection.filled_reconcile external default named.shown

theorem Named.setProps (named : e.Named) (p : Props) (default : e.packages.selection.default ≠ "") :
    (e.setProps p).state.Named := by
  have filled := e.packages.selection.filled_reconcile p.package default named.shown
  rw [setProps_eq]
  exact ⟨filled, filled⟩

theorem Named.selectPackage (named : e.Named) {index : Nat}
    (picked : ∀ c, e.packages.candidates[index]? = some c → c.value ≠ "") : (e.selectPackage index).state.Named := by
  rw [state_selectPackage]
  constructor
  · exact Combobox.filled_select named.shown picked
  · show ((e.packages.select index).1.getD e.form.package.value) ≠ ""
    unfold Combobox.select
    split
    · exact named.field
    · next c place => exact picked c place

theorem Named.reset (named : e.Named) (default : e.packages.selection.default ≠ "")
    (field : e.form.package.default ≠ "") : e.reset.state.Named := by
  cases locked : e.form.package.locked with
  | true =>
    have kept : e.reset.state.form.package = e.form.package := congrArg Effect.state (LockableField.reset_locked locked)
    exact named.of_same (congrArg Combobox.selection (packages_reset_locked locked)) kept
  | false =>
    constructor
    · rw [packages_reset_unlocked locked]
      exact default
    · have cleared : e.reset.state.form.package = { e.form.package with value := e.form.package.default } :=
        congrArg Effect.state (LockableField.reset_unlocked locked)
      show e.reset.state.form.package.value ≠ ""
      rw [cleared]
      exact field

/-- An event leaves an editor with a package unless it selects a blank one. -/
theorem Named.after (named : e.Named) (usual : e.defaults = ⟨"", defaultPackage, defaultPackage⟩)
    (served : ev.ServedBy l)
    (picked : ∀ i c, ev.picked? e = some i → e.packages.candidates[i]? = some c → c.value ≠ "") :
    (e.after ev).state.Named := by
  have default : e.packages.selection.default ≠ "" := by
    rw [show e.packages.selection.default = defaultPackage from congrArg Defaults.missing usual]
    decide
  have field : e.form.package.default ≠ "" := by
    rw [show e.form.package.default = defaultPackage from congrArg Defaults.package usual]
    decide
  cases ev with
  | allowPins | answerPackages | answerTags | settleTags => exact named.of_same rfl rfl
  | settlePackages => exact named.of_same (e.packages.selection_update _) rfl
  | act action =>
    cases action with
    | setName | tagBox | addTag | removeTag | toggleTagPin | toggleFav | lockName | lockPackage | setLockedTags
    | writeNameInput => exact ⟨named.shown, named.field⟩
    | refresh => exact named.of_same (e.packages.selection_update _) rfl
    | setProps p => exact named.setProps p default
    | packages action => exact ⟨named.packages default served picked, named.field⟩
    | selectPackage index => exact named.selectPackage fun c => picked index c rfl
    | reset => exact named.reset default field
    | pickTag index =>
      show (e.pickTag index).state.Named
      rw [state_pickTag]
      exact ⟨named.shown, named.field⟩
    | writePackageInput text =>
      show (e.writePackageInput text).2.Named
      refine named.of_same (e.selection_writePackageInput text) ?_
      rw [state_writePackageInput]

/-- The library offers a blank package only if it has one. -/
theorem filled_of_served {r : Lookup.Response (Choice String)} (packages : "" ∉ l.packages.names)
    (served : Event.ServedBy l (.answerPackages r)) : ∀ c ∈ r.outcome.items, c.value ≠ "" := by
  obtain ⟨text, page, answered⟩ := served
  rw [answered, Library.answer_packageSuggestions]
  intro c (member : c ∈ packageChoices _ _)
  unfold packageChoices at member
  rcases List.mem_append.1 member with first | listed
  · rcases List.mem_cons.1 first with rfl | created
    · decide
    · split at created
      · cases created
      · next new =>
        rw [List.mem_singleton.1 created]
        intro (blank : Text.trimString text = "")
        simp [blank] at new
  · obtain ⟨name, found, rfl⟩ := List.mem_map.1 listed
    rintro (rfl : name = "")
    exact packages (Library.mem_searchPackages_iff.1 (List.mem_filter.1 found).1).1

/-- The package box shows what the library answered. -/
theorem only_after {p : Choice String → Prop} (only : e.packages.service.Only p)
    (answers : ∀ r, ev = .answerPackages r → ∀ c ∈ r.outcome.items, p c) :
    (e.after ev).state.packages.service.Only p := by
  cases ev with
  | allowPins | answerTags | settleTags => exact only
  | answerPackages r => exact only.deliver (answers r rfl)
  | settlePackages =>
    show (Widget.update e.packages e.packages.service.settle).2.service.Only p
    rw [Combobox.update_eq]
    exact only.takes (e := .settle) rfl
  | act action =>
    cases action with
    | setName | tagBox | addTag | removeTag | toggleTagPin | toggleFav | lockName | lockPackage | setLockedTags
    | writeNameInput => exact only
    | refresh => exact Combobox.only_act only .refresh
    | packages action => exact Combobox.only_act only action
    | setProps p =>
      show (e.setProps p).state.packages.service.Only _
      rw [setProps_eq]
      exact only
    | selectPackage index =>
      show (e.selectPackage index).state.packages.service.Only p
      rw [state_selectPackage]
      exact Combobox.only_act only (.select index)
    | pickTag index =>
      show (e.pickTag index).state.packages.service.Only p
      rw [state_pickTag]
      exact only
    | writePackageInput text =>
      show (e.writePackageInput text).2.packages.service.Only p
      rw [state_writePackageInput]
      dsimp only
      split <;> exact only
    | reset =>
      show e.reset.state.packages.service.Only p
      cases locked : e.form.package.locked with
      | true =>
        rw [packages_reset_locked locked]
        exact only
      | false =>
        rw [packages_reset_unlocked locked]
        exact only

/-- When an editor whose packages come from the library has none. -/
structure NamesPackage (l : Library) (variant : Variant) (heard : Listeners) : Prop where
  /-- If no package of the library is blank, never. -/
  named : "" ∉ l.packages.names → ∀ events : List Event, (∀ ev ∈ events, ev.ServedBy l) →
    ((start variant heard).follow events).editor.Named
  /-- In any library only the selection of a blank package leads there. -/
  picked : ∀ (events : List Event) (ev : Event), ev.ServedBy l →
    let e := ((start variant heard).follow events).editor
    e.Named → ¬(e.after ev).state.Named →
      ∃ i c, ev.picked? e = some i ∧ e.packages.candidates[i]? = some c ∧ c.value = ""
  /-- A blank package of the library can be selected. -/
  blank : "" ∈ l.packages.names → ∃ events : List Event, (∀ ev ∈ events, ev.ServedBy l) ∧
    let e := ((start variant heard).follow events).editor
    e.packages.value.value = "" ∧ e.snapshot.package = ""

/-- Every package that is found for the empty text can be selected. -/
theorem selected_of_offered (variant : Variant) (heard : Listeners) {c : Choice String}
    (offered : c ∈ l.offeredPackages "") : ∃ events : List Event, (∀ ev ∈ events, ev.ServedBy l) ∧
      let e := ((start variant heard).follow events).editor
      e.packages.value.value = c.value ∧ e.snapshot.package = c.value := by
  obtain ⟨index, place⟩ := List.mem_iff_getElem?.1 offered
  let answer : Event := .answerPackages { seq := 1, outcome := .ready (l.offeredPackages "") }
  let shown := ((start variant heard).follow [.act (.packages .openList), answer, .act .refresh]).editor
  have selected := Combobox.select_of_place (b := shown.packages) place
  refine ⟨[.act (.packages .openList), answer, .act .refresh, .act (.selectPackage index)], ?_, ?_⟩
  · simp only [List.forall_mem_cons, List.not_mem_nil, false_imp_iff, implies_true, and_true]
    exact ⟨trivial, ⟨"", 0, rfl⟩, trivial, trivial⟩
  · show (shown.selectPackage index).state.packages.value.value = c.value ∧
      (shown.selectPackage index).state.snapshot.package = c.value
    rw [state_selectPackage, selected]
    exact ⟨rfl, rfl⟩

/-- A package without a name is found for the empty text. -/
theorem blank_mem_offeredPackages (blank : "" ∈ l.packages.names) : Choice.plain "" ∈ l.offeredPackages "" := by
  have found : "" ∈ l.searchPackages (Text.trimString "") := Library.mem_searchPackages_self_iff.2 blank
  refine List.mem_append_right _ (List.mem_map.2 ⟨"", List.mem_filter.2 ⟨found, ?_⟩, rfl⟩)
  decide

/-- **An editor always has a package unless its library has a blank one.** -/
theorem namesPackage_follow (l : Library) (variant : Variant) (heard : Listeners) : NamesPackage l variant heard where
  named packages events served := by
    refine (follow_keeps (fun e => (e.Named ∧ e.packages.service.Only fun c => c.value ≠ "") ∧
      e.defaults = ⟨"", defaultPackage, defaultPackage⟩) ?_ ⟨⟨named_start variant heard, nofun, nofun⟩, rfl⟩).1.1
    rintro e ⟨⟨named, only⟩, usual⟩ ev member
    refine ⟨⟨named.after usual (served ev member) ?_, only_after only ?_⟩, (e.defaults_after ev).trans usual⟩
    · exact fun i c _ place => only.shown c (List.mem_of_getElem? place)
    · rintro r rfl
      exact filled_of_served packages (served _ member)
  picked events ev served := by
    intro e named unnamed
    have usual : e.defaults = ⟨"", defaultPackage, defaultPackage⟩ := defaults_follow _ events
    by_contra none
    push Not at none
    exact unnamed (named.after usual served none)
  blank packages := selected_of_offered variant heard (blank_mem_offeredPackages packages)

/-- A library file with a package that has no name, and an editor that selects it. -/
theorem blank_selected :
    let l := Library.ofContents [""] []
    let events : List Event := [.act (.packages .openList),
      .answerPackages { seq := 1, outcome := (packageSuggestions l.findPackages).answer "" 0 }, .act .refresh,
      .act (.selectPackage 1)]
    let e := ((start .picture {}).follow events).editor
    Library.ofJson "\x7b\"packages\":[\"\"]\x7d" = .ok l ∧ (∀ ev ∈ events, ev.ServedBy l) ∧
      e.packages.value.value = "" ∧ e.snapshot.package = "" := by
  refine ⟨by cbv, ?_, by decide +kernel, by decide +kernel⟩
  simp only [List.forall_mem_cons, List.not_mem_nil, false_imp_iff, implies_true, and_true]
  exact ⟨trivial, ⟨"", 0, rfl⟩, trivial, trivial⟩

end StickerEditor

end StickerBook.Editor
