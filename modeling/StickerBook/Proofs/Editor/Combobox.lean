import StickerBook.Proofs.Editor.Selection
import StickerBook.Proofs.Lookup.Exchange
import StickerBook.Proofs.Run

/-!
# What a combobox looks up

A run of a combobox is any order of actions on it, of answers to its lookups, and of taking answers in. Opening a closed
list and typing into an open one look the text up, and nothing else does. As long as nobody writes the text from outside,
the newest lookup of an open box is for the text in it, and once that lookup is settled the candidates are what it found
(`fits_run`).
-/

namespace StickerBook
set_option autoImplicit false

/-- What a source of suggestions says to a request. It has choices or fails; it is never merely not ready. -/
def Lookup.Outcome.ofAnswer {β : Type} : Except Lookup.SourceError (List β) → Lookup.Outcome β
  | .ok items => .ready items
  | .error error => .failed error

theorem Lookup.Outcome.onto_ofAnswer {β : Type} (answer : Except Lookup.SourceError (List β)) (shown : List β) :
    (ofAnswer answer).onto shown = answer.toOption.getD [] := by
  cases answer <;> rfl

end StickerBook

namespace StickerBook.Editor.Combobox
open Lookup (Exchange Outcome Request Service SourceError Widget)
variable {α : Type} {b : Combobox α}

/-- The action looks the text up. -/
def Action.looksUp (b : Combobox α) : Action α → Bool
  | .openList => !b.isOpen
  | .setInput _ => b.isOpen
  | _ => false

/-- The text that the action writes while it says nothing of it. -/
def Action.written? : Action α → Option String
  | .writeInput text => some text
  | _ => none

/-- Taking answers in changes the service, and the highlight with it. -/
theorem update_eq (b : Combobox α) (result : Bool × Service (Choice α)) :
    (Widget.update b result).2 =
      { b with service := result.2, highlighted := (Widget.update b result).2.highlighted } := by
  unfold Widget.update
  dsimp only
  split <;> rfl

theorem openList_closed (closed : b.isOpen = false) :
    b.openList = (some (b.service.issue b.input 0).1, { b with
      service := (b.service.issue b.input 0).2
      isOpen := true
      highlighted := b.syncHighlight.highlighted }) := by
  unfold openList
  rw [closed]
  rfl

theorem openList_open (opened : b.isOpen = true) : b.openList = (none, b) := by
  unfold openList
  rw [if_pos opened]

theorem setInput_open (opened : b.isOpen = true) (text : String) :
    b.setInput text = (some (b.service.issue text 0).1, { b with
      input := text
      service := (b.service.issue text 0).2 }) := by
  unfold setInput writeInput
  dsimp only
  rw [if_pos opened]
  rfl

theorem setInput_closed (closed : b.isOpen = false) (text : String) :
    b.setInput text = (none, { b with input := text }) := by
  unfold setInput writeInput
  dsimp only
  rw [closed]
  rfl

/-- From one state of a box to the next nothing is looked up, and the text in an open list stays. -/
structure Still (b b' : Combobox α) : Prop where
  service : b'.service = b.service ∨ b'.service = b.service.drain.2
  text : b'.isOpen = true → b.isOpen = true ∧ b'.input = b.input

theorem Still.of_input {b' : Combobox α} (service : b'.service = b.service ∨ b'.service = b.service.drain.2)
    (list : b'.isOpen = b.isOpen) (input : b'.input = b.input) : Still b b' := by
  constructor
  · exact service
  · intro opened
    rw [list] at opened
    exact ⟨opened, input⟩

theorem Still.of_closed {b' : Combobox α} (service : b'.service = b.service) (closed : b'.isOpen = false) :
    Still b b' := by
  constructor
  · exact .inl service
  · intro opened
    simp [closed] at opened

theorem Still.refl (b : Combobox α) : Still b b := .of_input (.inl rfl) rfl rfl

section
variable [Choosable α] [DecidableEq α] {action : Action α}

/-- An action that looks something up issues one request, for the text that it leaves in an open box. -/
theorem act_looksUp (looks : action.looksUp b = true) :
    (b.act action).1.request? = some (b.service.issue (b.act action).2.input 0).1 ∧
      (b.act action).2.service = (b.service.issue (b.act action).2.input 0).2 ∧ (b.act action).2.isOpen = true := by
  cases action with
  | openList =>
    have issues := openList_closed (b := b) (by simpa [Action.looksUp] using looks)
    simp only [act, issues]
    exact ⟨rfl, rfl, rfl⟩
  | setInput text =>
    have issues := setInput_open (b := b) looks text
    simp only [act, issues]
    exact ⟨rfl, rfl, looks⟩
  | _ => cases looks

omit [DecidableEq α] in
theorem still_select (b : Combobox α) (index : Nat) : Still b (b.select index).2 := by
  unfold select
  split
  · exact .refl b
  · exact .of_closed rfl rfl

/-- An action that neither looks the text up nor writes it leaves what is looked up alone. -/
theorem still_act (silent : action.looksUp b = false) (inside : action.written? = none) : Still b (b.act action).2 := by
  cases action with
  | writeInput => cases inside
  | setCurrent | resetToDefault | isSelected | reconcile => exact .of_input (.inl rfl) rfl rfl
  | closeList => exact .of_closed rfl rfl
  | openList =>
    show Still b b.openList.2
    rw [openList_open (by simpa [Action.looksUp] using silent)]
    exact .refl b
  | setInput text =>
    -- the text does change, but in a closed list
    show Still b (b.setInput text).2
    rw [setInput_closed silent]
    exact .of_closed rfl silent
  | refresh =>
    show Still b (Widget.update b b.service.drain).2
    rw [update_eq]
    exact .of_input (.inr rfl) rfl rfl
  | moveHighlight delta =>
    show Still b (b.moveHighlight delta)
    unfold moveHighlight
    dsimp only
    split
    · exact .refl b
    · exact .of_input (.inl rfl) rfl rfl
  | select index => exact b.still_select index
  | selectHighlighted =>
    show Still b b.selectHighlighted.2
    unfold selectHighlighted
    split
    · exact .refl b
    · exact b.still_select _

/-- An action that looks nothing up issues nothing. -/
theorem request_silent (silent : action.looksUp b = false) : (b.act action).1.request? = none := by
  cases action with
  | openList =>
    show (b.openList.map Reply.issued id).1.request? = none
    rw [openList_open (by simpa [Action.looksUp] using silent)]
    rfl
  | setInput text =>
    show ((b.setInput text).map Reply.issued id).1.request? = none
    rw [setInput_closed silent]
    rfl
  | _ => rfl

theorem service_silent (silent : action.looksUp b = false) :
    (b.act action).2.service = b.service ∨ (b.act action).2.service = b.service.drain.2 := by
  cases written : action.written? with
  | none => exact (still_act silent written).service
  | some text =>
    cases action with
    | writeInput => exact .inl rfl
    | _ => cases written

end

/-- What can happen to a combobox. The source answers the lookups in flight in any order. A box that still waits after
it settled settles again after the next answer. -/
inductive Event (α : Type) where
  | act (action : Action α)
  | answer (index : Nat) (answer : Except SourceError (List (Choice α)))
  | settle

/-- The event looks the text up. -/
def Event.looksUp (b : Combobox α) : Event α → Bool
  | .act action => action.looksUp b
  | _ => false

/-- The text that the event writes while it says nothing of it. -/
def Event.written? : Event α → Option String
  | .act action => action.written?
  | _ => none

/-- A combobox at work, what has passed between it and its source, and the text that was written from outside since the
newest request. -/
structure Run (α : Type) where
  box : Combobox α
  exchange : Exchange (Choice α) := {}
  written : Option String := none

namespace Run

/-- From one run to the next exactly one request is issued, for the given text, and the list is open then. -/
def IssuesOne (r r' : Run α) (text : String) : Prop :=
  ∃ q, r'.exchange.requests = r.exchange.requests ++ [q] ∧ q.query = text ∧ q.page = 0 ∧
    r'.box.service.coordinator.issued = r.box.service.coordinator.issued + 1 ∧
    r'.box.isOpen = true ∧ r'.box.input = text

/-- The text in an open box is that of the newest lookup unless another one was written since. -/
def Asks (r : Run α) : Prop :=
  r.box.isOpen = true → ∃ q, r.exchange.requests.getLast? = some q ∧ r.box.input = r.written.getD q.query

variable [Choosable α] [DecidableEq α]

/-- The run after an event. -/
def after (r : Run α) : Event α → Run α
  | .act action => {
      box := (r.box.act action).2
      exchange := r.exchange.issue r.box.candidates (r.box.act action).1.request?
      written := if (r.box.act action).1.request?.isSome then none else action.written?.or r.written }
  | .answer index answer =>
    match r.exchange.inFlight[index]? with
    | none => r
    | some q => { r with
        box := Widget.deliver r.box { seq := q.seq, outcome := .ofAnswer answer }
        exchange := r.exchange.reply q (.ofAnswer answer) }
  | .settle => { r with box := (Widget.settle r.box).2 }

/-- The run of some events from a given default and key on. -/
def ofEvents (default : α) (key : α → String) (events : List (Event α)) : Run α :=
  events.foldl after { box := { Combobox.start default with key } }

/-- The candidates of a box fit the text in it. -/
structure Fits (r : Run α) : Prop where
  opening : r.box.isOpen = false → r.IssuesOne (r.after (.act .openList)) r.box.input
  typing : ∀ text, r.box.isOpen = true → r.IssuesOne (r.after (.act (.setInput text))) text
  /-- Nothing else issues a request. -/
  silent : ∀ ev : Event α, ev.looksUp r.box = false →
    (r.after ev).exchange.requests = r.exchange.requests ∧
      (r.after ev).box.service.coordinator.issued = r.box.service.coordinator.issued
  /-- The newest request of an open box is for the text in it. -/
  newest : r.box.isOpen = true → ∃ q, r.box.service.lastRequest = some q ∧
    r.exchange.requests.getLast? = some q ∧ q.query = r.box.input
  /-- Once it is settled, the candidates are what the source found for it. A failure leaves none. -/
  settled : r.box.isOpen = true → r.box.service.isPending = false → ∃ q answer,
    r.box.service.lastRequest = some q ∧ q.query = r.box.input ∧
    (q, .ofAnswer answer) ∈ r.exchange.replies ∧
    (∀ other, (q, other) ∈ r.exchange.replies → other = .ofAnswer answer) ∧
    r.box.candidates = answer.toOption.getD []

/-- What every event preserves. -/
structure Sound (r : Run α) : Prop where
  explained : r.exchange.Explains r.box.service
  /-- The source has choices or fails. -/
  definite : ∀ q outcome, (q, outcome) ∈ r.exchange.replies → ∃ answer, outcome = .ofAnswer answer

variable {r : Run α}

/-- An event that looks the text up issues one request, for the text that it leaves. -/
theorem after_looksUp {ev : Event α} (looks : ev.looksUp r.box = true) :
    r.IssuesOne (r.after ev) (r.after ev).box.input ∧ (r.after ev).written = none := by
  cases ev with
  | answer | settle => cases looks
  | act action =>
    obtain ⟨request, service, opened⟩ := act_looksUp looks
    refine ⟨⟨(r.box.service.issue (r.box.act action).2.input 0).1, ?_, rfl, rfl, ?_, opened, rfl⟩, ?_⟩
    · show (r.exchange.issue r.box.candidates (r.box.act action).1.request?).requests = _
      rw [request]
      rfl
    · show (r.box.act action).2.service.coordinator.issued = _
      rw [service]
      rfl
    · show (if (r.box.act action).1.request?.isSome then none else action.written?.or r.written) = none
      rw [request]
      rfl

theorem requests_silent {ev : Event α} (silent : ev.looksUp r.box = false) :
    (r.after ev).exchange.requests = r.exchange.requests := by
  cases ev with
  | act action =>
    show (r.exchange.issue r.box.candidates (r.box.act action).1.request?).requests = _
    rw [request_silent silent]
    rfl
  | answer index answer =>
    unfold after
    dsimp only
    split <;> rfl
  | settle => rfl

/-- Requests are never forgotten. -/
theorem length_requests_le (r : Run α) (ev : Event α) :
    r.exchange.requests.length ≤ (r.after ev).exchange.requests.length := by
  cases ev with
  | act action => exact r.exchange.length_issue_le _ _
  | answer index answer =>
    unfold after
    dsimp only
    split <;> exact Nat.le_refl _
  | settle => exact Nat.le_refl _

namespace Sound

omit [Choosable α] [DecidableEq α] in
theorem start (box : Combobox α) (priority : Lookup.Priority) (fresh : box.service = { priority }) :
    ({ box } : Run α).Sound where
  explained := by
    rw [fresh]
    exact .start priority
  definite := by simp

omit [Choosable α] [DecidableEq α] in
/-- A box that exchanges nothing stays explained. -/
theorem takeIn (sound : r.Sound) {r' : Run α} (exchange : r'.exchange = r.exchange)
    (service : r'.box.service = r.box.service ∨ r'.box.service = r.box.service.drain.2) : r'.Sound where
  explained := by
    rw [exchange]
    rcases service with same | drained
    · rw [same]
      exact sound.explained
    · rw [drained]
      exact sound.explained.act (e := .drain) rfl
  definite := exchange ▸ sound.definite

/-- An event keeps a run sound as long as the request numbers do not wrap around. -/
theorem after (sound : r.Sound) (ev : Event α) (bound : (r.after ev).exchange.requests.length < UInt64.size) :
    (r.after ev).Sound := by
  cases ev with
  | act action =>
    cases looks : action.looksUp r.box with
    | false =>
      refine sound.takeIn ?_ (service_silent looks)
      show r.exchange.issue r.box.candidates (r.box.act action).1.request? = r.exchange
      rw [request_silent looks]
      rfl
    | true =>
      -- what goes out is what the service issued, while the old candidates are on show
      obtain ⟨request, service, -⟩ := act_looksUp looks
      have issues : Event.looksUp r.box (.act action) = true := looks
      obtain ⟨⟨q, requests, -⟩, -⟩ := after_looksUp issues
      rw [requests, List.length_append, List.length_singleton] at bound
      have issued := sound.explained.issue (r.box.act action).2.input 0 bound
      show Sound { box := _, exchange := r.exchange.issue r.box.candidates (r.box.act action).1.request?, written := _ }
      rw [request]
      refine ⟨?_, sound.definite⟩
      rw [service]
      exact issued
  | answer index answer =>
    cases place : r.exchange.inFlight[index]? with
    | none =>
      rw [show r.after (.answer index answer) = r by simp only [Run.after, place]]
      exact sound
    | some q =>
      simp only [Run.after, place]
      refine ⟨sound.explained.reply (List.mem_of_getElem? place) _, fun p outcome member => ?_⟩
      rcases List.mem_append.1 member with old | new
      · exact sound.definite p outcome old
      · exact ⟨answer, congrArg Prod.snd (List.mem_singleton.1 new)⟩
  | settle =>
    have settled := sound.explained.act (e := .settle) rfl
    refine ⟨?_, sound.definite⟩
    show r.exchange.Explains (Widget.update r.box r.box.service.settle).2.service
    rw [update_eq]
    exact settled

/-- Events keep a run sound if the request numbers have not wrapped around at the end. -/
theorem foldl (sound : r.Sound) (events : List (Event α))
    (bound : (events.foldl Run.after r).exchange.requests.length < UInt64.size) : (events.foldl Run.after r).Sound :=
  foldl_keeps (fun r => r.exchange.requests.length) length_requests_le events (fun _ ev _ sound now => sound.after ev now)
    r sound bound

omit [Choosable α] [DecidableEq α] in
/-- A settled box shows what the source has answered to the newest request. -/
theorem answered (sound : r.Sound) {q : Request} (newest : r.exchange.requests.getLast? = some q)
    (settled : r.box.service.isPending = false) : ∃ answer,
      (q, .ofAnswer answer) ∈ r.exchange.replies ∧
      (∀ other, (q, other) ∈ r.exchange.replies → other = .ofAnswer answer) ∧
      r.box.candidates = answer.toOption.getD [] := by
  obtain ⟨outcome, replied, shown⟩ := sound.explained.answered q settled newest
  obtain ⟨answer, rfl⟩ := sound.definite q outcome replied
  refine ⟨answer, replied, fun other also => sound.explained.reply_unique also replied, ?_⟩
  show r.box.service.results = _
  rw [shown, Outcome.onto_ofAnswer]

omit [Choosable α] [DecidableEq α] in
/-- The issued number counts the requests. -/
theorem issued_eq (sound : r.Sound) {r' : Run α} (sound' : r'.Sound)
    (same : r'.exchange.requests = r.exchange.requests) :
    r'.box.service.coordinator.issued = r.box.service.coordinator.issued := by
  apply UInt64.toNat_inj.1
  rw [sound'.explained.tracks.issued, sound.explained.tracks.issued, same]

end Sound

/-- After an event that looks nothing up, the text in an open box is the one written, or else the one of before. -/
theorem text_after {ev : Event α} (silent : ev.looksUp r.box = false) (opened : (r.after ev).box.isOpen = true) :
    r.box.isOpen = true ∧ (r.after ev).box.input = ev.written?.getD r.box.input := by
  cases ev with
  | act action =>
    cases written : action.written? with
    | none =>
      show _ ∧ _ = action.written?.getD r.box.input
      rw [written]
      exact (still_act silent written).text opened
    | some text =>
      cases action with
      | writeInput text' => exact ⟨opened, rfl⟩
      | _ => cases written
  | answer index answer =>
    revert opened
    unfold after
    dsimp only
    split
    · intro opened
      exact ⟨opened, rfl⟩
    · intro opened
      exact ⟨opened, rfl⟩
  | settle =>
    have settled := update_eq r.box r.box.service.settle
    have text : (r.after .settle).box.input = r.box.input := congrArg (·.input) settled
    have list : (r.after .settle).box.isOpen = r.box.isOpen := congrArg (·.isOpen) settled
    exact ⟨list.symm.trans opened, text⟩

theorem written_silent {ev : Event α} (silent : ev.looksUp r.box = false) :
    (r.after ev).written = ev.written?.or r.written := by
  cases ev with
  | act action =>
    show (if (r.box.act action).1.request?.isSome then none else action.written?.or r.written) = _
    rw [request_silent silent]
    rfl
  | answer index answer =>
    unfold after
    dsimp only
    split <;> rfl
  | settle => rfl

/-- The newest lookup and what was written since account for the text in an open box, after every event. -/
theorem Asks.after (asks : r.Asks) (ev : Event α) : (r.after ev).Asks := by
  intro opened
  cases looks : ev.looksUp r.box with
  | true =>
    obtain ⟨⟨q, requests, query, -⟩, written⟩ := after_looksUp looks
    refine ⟨q, by rw [requests, List.getLast?_concat], ?_⟩
    rw [written]
    exact query.symm
  | false =>
    obtain ⟨before, text⟩ := text_after looks opened
    obtain ⟨q, newest, same⟩ := asks before
    refine ⟨q, by rw [requests_silent looks, newest], ?_⟩
    rw [text, written_silent looks, same]
    cases ev.written? <;> rfl

theorem Asks.foldl (asks : r.Asks) (events : List (Event α)) : (events.foldl Run.after r).Asks := by
  induction events generalizing r with
  | nil => exact asks
  | cons ev rest ih => exact ih (asks.after ev)

/-- Nothing is written if no event writes. -/
theorem written_foldl {events : List (Event α)} (inside : ∀ ev ∈ events, ev.written? = none)
    (nothing : r.written = none) : (events.foldl after r).written = none := by
  induction events generalizing r with
  | nil => exact nothing
  | cons ev rest ih =>
    apply ih fun ev' member => inside ev' (List.mem_cons_of_mem _ member)
    cases looks : ev.looksUp r.box with
    | false => rw [written_silent looks, inside ev List.mem_cons_self, nothing]; rfl
    | true => exact (after_looksUp looks).2

/-- **The candidates fit the text** of a combobox, after every run with fewer than 2^64 requests in which the text is not
written from outside. -/
theorem fits_run (default : α) (key : α → String) (events : List (Event α))
    (inside : ∀ ev ∈ events, ev.written? = none)
    (bound : (ofEvents default key events).exchange.requests.length < UInt64.size) :
    (ofEvents default key events).Fits := by
  have sound : (ofEvents default key events).Sound := (Sound.start _ .interactive rfl).foldl events bound
  have asks : (ofEvents default key events).Asks := by
    apply Asks.foldl
    intro opened
    cases opened
  -- since nothing is written, the text can only be that of the newest lookup
  have unwritten : (ofEvents default key events).written = none := written_foldl inside rfl
  generalize ofEvents default key events = r at bound sound asks unwritten
  rw [Asks, unwritten] at asks
  constructor
  case opening =>
    intro closed
    have looks : Event.looksUp r.box (.act .openList) = true := by simp [Event.looksUp, Action.looksUp, closed]
    have text : (r.after (.act .openList)).box.input = r.box.input := by simp [Run.after, act, openList_closed closed]
    have issues := (after_looksUp looks).1
    rw [text] at issues
    exact issues
  case typing =>
    intro text opened
    have looks : Event.looksUp r.box (.act (.setInput text)) = true := opened
    have typed : (r.after (.act (.setInput text))).box.input = text := by simp [Run.after, act, setInput_open opened]
    have issues := (after_looksUp looks).1
    rw [typed] at issues
    exact issues
  case silent =>
    intro ev silent
    have requests := requests_silent silent
    have sound' := sound.after ev (by rw [requests]; exact bound)
    exact ⟨requests, sound.issued_eq sound' requests⟩
  case newest =>
    intro opened
    obtain ⟨q, newest, query⟩ := asks opened
    exact ⟨q, by rw [sound.explained.tracks.last, newest], newest, query.symm⟩
  case settled =>
    intro opened settled
    obtain ⟨q, newest, query⟩ := asks opened
    obtain ⟨answer, replied, only, shown⟩ := sound.answered newest settled
    exact ⟨q, answer, by rw [sound.explained.tracks.last, newest], query.symm, replied, only, shown⟩

/-- A text is typed into a closed box, and another into the open one. The answers come in the wrong order, the newest one
is a failure, and the box is opened again. -/
theorem fits_race :
    let events : List (Event String) := [.act (.setInput "C"), .act .openList, .act (.setInput "Ca"),
      .answer 1 (.ok [⟨"Cats", "Cats"⟩]), .act .refresh, .act (.setInput "Cat"), .answer 0 (.ok []),
      .answer 0 (.error (.unavailable "offline")), .settle]
    let r := ofEvents "Inbox" id events
    (∀ ev ∈ events, ev.written? = none) ∧ r.exchange.requests.length < UInt64.size ∧ r.Fits :=
  ⟨by decide, by decide, fits_run _ _ _ (by decide) (by decide)⟩

end Run

end StickerBook.Editor.Combobox
