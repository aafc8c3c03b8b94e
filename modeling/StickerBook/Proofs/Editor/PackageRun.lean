import StickerBook.Proofs.Editor.Combobox
import StickerBook.Proofs.Editor.Supply
import StickerBook.Suggest.Package

/-!
# What an editor looks up in its package box

To the package box of an editor, every event of the editor is a few events of a combobox (`box_after`), so that a run of
the editor is one of the box. The editor writes the text in the box past it in one case. A reset of a free-form sticker
clears the text with the package and looks nothing up, even while the list is open. Until the next lookup the choices
are then those for the text that was cleared (`cat_offered_after_reset`). In every other case they are those for the text
in the box (`fits_unless_cleared`).
-/

namespace StickerBook.Editor
set_option autoImplicit false
open Lookup (Exchange Outcome Request SourceError Widget)

namespace StickerEditor

/-- The request for packages that an action issued. -/
def Reply.packageRequest? : Reply → Option Request
  | .packages reply => reply.request?
  | _ => none

/-- The event clears the text in the package box. -/
def Event.clears (e : StickerEditor) : Event → Bool
  | .act .reset => e.variant = .freeForm && !e.form.package.locked
  | _ => false

/-- The event writes the text in the package box from outside, or answers past the lookups in flight. -/
def Event.foreign : Event → Bool
  | .act (.packages (.writeInput _)) | .act (.writePackageInput _) | .answerPackages _ => true
  | _ => false

/-- What a reset of an editor is to its package box. -/
def resetsOnPackages (e : StickerEditor) : List (Combobox.Event String) :=
  if e.form.package.locked then []
  else (if e.variant = .freeForm then [.act (.writeInput "")] else []) ++ [.act .resetToDefault]

/-- What an event of an editor is to its package box. -/
def Event.onPackages (e : StickerEditor) : Event → List (Combobox.Event String)
  | .act (.setProps p) => [.act (.reconcile p.package)]
  | .act (.packages action) => [.act action]
  | .act (.selectPackage index) => [.act (.select index)]
  | .act .refresh => [.act .refresh]
  | .act .reset => e.resetsOnPackages
  | .settlePackages => [.settle]
  | _ => []

/-- An editor stays a picture or a free-form sticker. -/
theorem variant_after (e : StickerEditor) (ev : Event) : (e.after ev).state.variant = e.variant := by
  cases ev with
  | allowPins | answerPackages | answerTags | settlePackages | settleTags => rfl
  | act action =>
    cases action with
    | selectPackage index => exact (congrArg variant (e.state_selectPackage index)).trans rfl
    | pickTag index => exact (congrArg variant (e.state_pickTag index)).trans rfl
    | writePackageInput text => exact (congrArg variant (e.state_writePackageInput text)).trans rfl
    | setProps p => exact (congrArg (·.state.variant) (e.setProps_eq p)).trans rfl
    | _ => rfl

theorem Event.freeForm_of_clears {e : StickerEditor} {ev : Event} (clears : ev.clears e = true) :
    e.variant = .freeForm := by
  unfold Event.clears at clears
  split at clears
  · simp only [Bool.and_eq_true, decide_eq_true_eq] at clears
    exact clears.1
  · cases clears

end StickerEditor

/-- An editor at work, and what has passed between its package box and the source of packages. `cleared` says that the
text in the box was cleared since the newest request. -/
structure PackageRun where
  editor : StickerEditor
  exchange : Exchange (Choice String) := {}
  cleared : Bool := false

namespace PackageRun

/-- What can happen. The source of packages finds some names for a request in flight, or fails. -/
inductive Event where
  | edit (ev : StickerEditor.Event)
  | answer (index : Nat) (found : Except SourceError (List String))

/-- The choices for a request, given what was found for it. -/
def choices (q : Request) (found : Except SourceError (List String)) : Except SourceError (List (Choice String)) :=
  found.map (packageChoices (Text.trimString q.query))

/-- The run after an event. -/
def after (s : PackageRun) : Event → PackageRun
  | .edit ev =>
    let request? := (s.editor.after ev).result.packageRequest?
    { editor := (s.editor.after ev).state
      exchange := s.exchange.issue s.editor.packages.candidates request?
      cleared := !request?.isSome && (s.cleared || ev.clears s.editor) }
  | .answer index found =>
    match s.exchange.inFlight[index]? with
    | none => s
    | some q => { s with
        editor := (s.editor.after (.answerPackages { seq := q.seq, outcome := .ofAnswer (choices q found) })).state
        exchange := s.exchange.reply q (.ofAnswer (choices q found)) }

/-- The run of some events from the empty editor on. -/
def ofEvents (variant : Variant) (heard : Listeners) (events : List Event) : PackageRun :=
  events.foldl after { editor := .start variant heard }

/-- The run as one of the package box. -/
def box (s : PackageRun) : Combobox.Run String where
  box := s.editor.packages
  exchange := s.exchange
  written := if s.cleared then some "" else none

/-- Nobody but the editor and its user writes the text in the package box. -/
def Event.own : Event → Bool
  | .edit ev => !ev.foreign
  | .answer _ _ => true

/-- What an event is to the package box. -/
def Event.onPackages (s : PackageRun) : Event → List (Combobox.Event String)
  | .edit ev => ev.onPackages s.editor
  | .answer index found => s.exchange.inFlight[index]?.toList.map fun q => .answer index (choices q found)

variable {s : PackageRun}

/-- What looks nothing up and clears nothing changes the box alone. -/
theorem box_edit {ev : StickerEditor.Event} (silent : (s.editor.after ev).result.packageRequest? = none)
    (kept : ev.clears s.editor = false) :
    (s.after (.edit ev)).box = { s.box with box := (s.editor.after ev).state.packages } := by
  unfold after box
  simp only [silent, kept, Option.isSome_none, Bool.not_false, Bool.true_and, Bool.or_false]
  rfl

/-- An action on the package box is the same action to a run of the box. -/
theorem box_packages {action : Combobox.Action String} (inside : action.written? = none) :
    (s.after (.edit (.act (.packages action)))).box = s.box.after (.act action) := by
  have written : (if !(s.editor.packages.act action).1.request?.isSome && (s.cleared || false) then some "" else none)
      = if (s.editor.packages.act action).1.request?.isSome then none
        else action.written?.or (if s.cleared then some "" else none) := by
    rw [inside]
    cases (s.editor.packages.act action).1.request? <;> simp
  exact congrArg (Combobox.Run.mk _ _) written

/-- A reset of an editor writes the text of its package box, or leaves it alone, and brings back the default. -/
theorem box_reset (s : PackageRun) :
    (s.after (.edit (.act .reset))).box = s.editor.resetsOnPackages.foldl Combobox.Run.after s.box := by
  have after : (s.after (.edit (.act .reset))).box = {
      box := s.editor.reset.state.packages
      exchange := s.exchange
      written := if s.cleared || StickerEditor.Event.clears s.editor (.act .reset) then some "" else none } := rfl
  rw [after]
  unfold StickerEditor.Event.clears StickerEditor.resetsOnPackages
  cases locked : s.editor.form.package.locked with
  | true =>
    rw [StickerEditor.packages_reset_locked locked]
    simp only [Bool.not_true, Bool.and_false, Bool.or_false]
    rfl
  | false =>
    rw [StickerEditor.packages_reset_unlocked locked]
    cases variant : s.editor.variant with
    | picture =>
      simp only [reduceCtorEq, decide_false, Bool.false_and, Bool.or_false, if_false]
      rfl
    | freeForm =>
      -- the box takes no part: the empty text is written past it
      simp only [decide_true, Bool.not_false, Bool.and_true, Bool.or_true, if_true]
      rfl

/-- What an editor does to its package box are events of a combobox. -/
theorem box_after {ev : Event} (own : ev.own = true) :
    (s.after ev).box = (ev.onPackages s).foldl Combobox.Run.after s.box := by
  cases ev with
  | answer index found =>
    cases place : s.exchange.inFlight[index]? with
    | none => simp [after, Event.onPackages, place]
    | some q =>
      have answered : (s.after (.answer index found)).box = s.box.after (.answer index (choices q found)) := by
        simp only [after, Combobox.Run.after, box, place]
        rfl
      rw [answered]
      simp only [Event.onPackages, place]
      rfl
  | edit ev =>
    cases ev with
    | answerPackages => cases own
    | allowPins | answerTags | settleTags | settlePackages => exact box_edit rfl rfl
    | act action =>
      cases action with
      | setName | tagBox | addTag | removeTag | toggleTagPin | toggleFav | lockName | lockPackage | setLockedTags
      | writeNameInput | refresh => exact box_edit rfl rfl
      | writePackageInput => cases own
      | packages action =>
        refine box_packages ?_
        cases action with
        | writeInput => cases own
        | _ => rfl
      | setProps p =>
        have box := congrArg (·.state.packages) (s.editor.setProps_eq p)
        exact (box_edit rfl rfl).trans (congrArg (fun packages => { s.box with box := packages }) box)
      | selectPackage index =>
        have box := congrArg StickerEditor.packages (s.editor.state_selectPackage index)
        exact (box_edit rfl rfl).trans (congrArg (fun packages => { s.box with box := packages }) box)
      | pickTag index =>
        have box := congrArg StickerEditor.packages (s.editor.state_pickTag index)
        exact (box_edit rfl rfl).trans (congrArg (fun packages => { s.box with box := packages }) box)
      | reset => exact s.box_reset

/-- The text in an open package box, and the choices on show, compared with the newest lookup. -/
structure FitsUnlessCleared (s : PackageRun) : Prop where
  /-- The text is that of the newest lookup, unless it was cleared since and is empty. -/
  newest : s.editor.packages.isOpen = true → ∃ q, s.editor.packages.service.lastRequest = some q ∧
    s.exchange.requests.getLast? = some q ∧ s.editor.packages.input = if s.cleared then "" else q.query
  /-- Only the text for a free-form sticker is ever cleared. -/
  freeForm : s.cleared = true → s.editor.variant = .freeForm
  /-- Once the newest lookup is settled, the choices are those for its text. A failure leaves none. -/
  settled : s.editor.packages.isOpen = true → s.editor.packages.service.isPending = false → ∃ q found,
    s.editor.packages.service.lastRequest = some q ∧ (q, .ofAnswer (choices q found)) ∈ s.exchange.replies ∧
    s.editor.packages.candidates = (choices q found).toOption.getD []

/-- What every event preserves. -/
structure Sound (s : PackageRun) : Prop where
  box : s.box.Sound
  asks : s.box.Asks
  freeForm : s.cleared = true → s.editor.variant = .freeForm
  /-- Every reply has the choices for the text of its request. -/
  offered : ∀ q outcome, (q, outcome) ∈ s.exchange.replies → ∃ found, outcome = .ofAnswer (choices q found)

/-- Requests are never forgotten. -/
theorem length_requests_le (s : PackageRun) (ev : Event) :
    s.exchange.requests.length ≤ (s.after ev).exchange.requests.length := by
  cases ev with
  | answer index found =>
    unfold after
    dsimp only
    split <;> exact Nat.le_refl _
  | edit ev => exact s.exchange.length_issue_le _ _

theorem offered_after (sound : s.Sound) (ev : Event) {q : Request} {outcome : Outcome (Choice String)}
    (replied : (q, outcome) ∈ (s.after ev).exchange.replies) : ∃ found, outcome = .ofAnswer (choices q found) := by
  cases ev with
  | edit ev =>
    have old : (s.after (.edit ev)).exchange.replies = s.exchange.replies := s.exchange.replies_issue _ _
    rw [old] at replied
    exact sound.offered q outcome replied
  | answer index found =>
    cases place : s.exchange.inFlight[index]? with
    | none =>
      simp only [after, place] at replied
      exact sound.offered q outcome replied
    | some p =>
      simp only [after, place] at replied
      rcases List.mem_append.1 replied with old | new
      · exact sound.offered q outcome old
      · obtain ⟨rfl, rfl⟩ := Prod.mk.inj (List.mem_singleton.1 new)
        exact ⟨found, rfl⟩

theorem freeForm_after (sound : s.Sound) {ev : Event} (cleared : (s.after ev).cleared = true) :
    (s.after ev).editor.variant = .freeForm := by
  cases ev with
  | answer index found =>
    unfold after at cleared ⊢
    dsimp only at cleared ⊢
    split at cleared
    · exact sound.freeForm cleared
    · exact sound.freeForm cleared
  | edit ev =>
    have either : s.cleared = true ∨ ev.clears s.editor = true := by
      simp only [after, Bool.and_eq_true, Bool.or_eq_true] at cleared
      exact cleared.2
    show (s.editor.after ev).state.variant = .freeForm
    rw [StickerEditor.variant_after]
    rcases either with before | now
    · exact sound.freeForm before
    · exact StickerEditor.Event.freeForm_of_clears now

/-- An event keeps a run sound as long as the request numbers do not wrap around. -/
theorem Sound.after (sound : s.Sound) {ev : Event} (own : ev.own = true)
    (bound : (s.after ev).exchange.requests.length < UInt64.size) : (s.after ev).Sound where
  box := by
    -- the requests are the same in both runs, and so is the bound
    change (s.after ev).box.exchange.requests.length < UInt64.size at bound
    rw [box_after own] at bound ⊢
    exact sound.box.foldl _ bound
  asks := by
    rw [box_after own]
    exact sound.asks.foldl _
  freeForm := freeForm_after sound
  offered _ _ := offered_after sound ev

theorem Sound.ofEvents (variant : Variant) (heard : Listeners) (events : List Event)
    (own : ∀ ev ∈ events, ev.own = true)
    (bound : (ofEvents variant heard events).exchange.requests.length < UInt64.size) :
    (ofEvents variant heard events).Sound := by
  have start : Sound { editor := .start variant heard } := by
    constructor
    case box => exact .start _ .interactive rfl
    case asks =>
      intro opened
      cases opened
    case freeForm =>
      intro cleared
      cases cleared
    case offered => simp
  exact foldl_keeps (fun s => s.exchange.requests.length) length_requests_le events
    (fun _ ev member sound now => sound.after (own ev member) now) _ start bound

/-- **The choices fit the text in the package box unless it was cleared**, after every run with fewer than 2^64 requests
in which the text is not written from outside. -/
theorem fits_unless_cleared (variant : Variant) (heard : Listeners) (events : List Event)
    (own : ∀ ev ∈ events, ev.own = true)
    (bound : (ofEvents variant heard events).exchange.requests.length < UInt64.size) :
    (ofEvents variant heard events).FitsUnlessCleared := by
  have sound := Sound.ofEvents variant heard events own bound
  generalize ofEvents variant heard events = s at sound
  have last : s.editor.packages.service.lastRequest = s.exchange.requests.getLast? := sound.box.explained.tracks.last
  constructor
  case newest =>
    intro opened
    obtain ⟨q, newest, text⟩ := sound.asks opened
    refine ⟨q, last.trans newest, newest, text.trans ?_⟩
    show (if s.cleared then some "" else none).getD q.query = _
    split <;> rfl
  case freeForm => exact sound.freeForm
  case settled =>
    intro opened settled
    obtain ⟨q, newest, -⟩ := sound.asks opened
    obtain ⟨outcome, replied, shown⟩ := sound.box.explained.answered q settled newest
    obtain ⟨found, rfl⟩ := sound.offered q outcome replied
    rw [Outcome.onto_ofAnswer] at shown
    exact ⟨q, found, last.trans newest, replied, shown⟩

/-- After a reset of the open box a name is typed again, and its answer comes before the superseded one. -/
theorem fits_unless_cleared_cats :
    let events : List Event := [.edit (.act (.packages .openList)), .edit (.act (.packages (.setInput "Cat"))),
      .edit (.act .reset), .edit (.act (.packages (.setInput "Cats"))), .answer 2 (.ok ["Cats"]),
      .answer 1 (.error (.unavailable "offline")), .edit (.act .refresh), .edit .settlePackages]
    let s := ofEvents .freeForm {} events
    (∀ ev ∈ events, ev.own = true) ∧ s.exchange.requests.length < UInt64.size ∧ s.FitsUnlessCleared :=
  ⟨by decide, by decide, fits_unless_cleared _ _ _ (by decide) (by decide)⟩

/-- The text is cleared while the list is open. The settled box still offers to create the name that was typed. -/
theorem cat_offered_after_reset :
    let events : List Event := [.edit (.act (.packages (.setInput "Cat"))), .edit (.act (.packages .openList)),
      .edit (.act .reset), .answer 0 (.ok ["Cats"]), .edit .settlePackages]
    let s := ofEvents .freeForm {} events
    (∀ ev ∈ events, ev.own = true) ∧ s.editor.packages.isOpen = true ∧ s.editor.packages.input = "" ∧
      s.editor.packages.service.lastRequest.map Request.query = some "Cat" ∧
      s.editor.packages.service.isPending = false ∧
      s.editor.packages.candidates = [⟨"Inbox", "Inbox"⟩, ⟨"Cat", "Create \"Cat\""⟩, ⟨"Cats", "Cats"⟩] := by
  decide

end PackageRun

end StickerBook.Editor
