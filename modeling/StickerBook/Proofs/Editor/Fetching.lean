import StickerBook.Proofs.Editor.SearchPage
import StickerBook.Proofs.Lookup.Session

/-!
# Search pages that are answered

A source that answers as `find` does leaves a search page no choice. Whatever order the answers come in, the page shows
what is found for its text and page number once the newest request is answered (`shows_of_ready`). A session at work on
a search page is one such run, in which the requests are answered in the order of the queue (`Follows.settle`).
-/

namespace StickerBook.Editor.SearchPage
set_option autoImplicit false
open Lookup (Exchange Outcome Request Session Source Widget queueEntry)

/-- The event changes what the page displays. -/
def Event.changes : Event → Bool
  | .setInput _ | .setPage _ => true
  | _ => false

/-- The text and the page number on display after an event. -/
def Event.display (shown : String × Nat) : Event → String × Nat
  | .setInput text => (text, shown.2)
  | .setPage page => (shown.1, page)
  | _ => shown

/-- The other events leave what is on display alone. -/
theorem foldl_display_filter (events : List Event) (shown : String × Nat) :
    (events.filter Event.changes).foldl Event.display shown = events.foldl Event.display shown := by
  rw [List.foldl_filter]
  congr 1
  funext shown e
  cases e <;> rfl

namespace Run
variable {r : Run} {find : String → Nat → Outcome Thumb} {rows : List Thumb} {events : List Event}

theorem after_refresh (r : Run) :
    r.after .refresh = { r with page := { r.page with service := r.page.service.drain.2 } } := by
  unfold after Widget.refresh
  rw [update_eq]
  rfl

theorem after_settle (r : Run) :
    r.after .settle = { r with page := { r.page with service := r.page.service.settle.2 } } := by
  unfold after Widget.settle
  rw [update_eq]
  rfl

/-- The text and the page number on display. -/
def display (r : Run) : String × Nat := (r.page.input, r.page.page)

theorem display_after (r : Run) (e : Event) : (r.after e).display = e.display r.display := by
  cases e with
  | setInput text =>
    by_cases same : text = r.page.input
    · rw [after, same, setInput_same]
      rfl
    · rw [after, setInput_other same]
      rfl
  | setPage page =>
    by_cases same : page = r.page.page
    · rw [after, same, setPage_same]
      rfl
    · rw [after, setPage_other same]
      rfl
  | reply index outcome =>
    unfold after
    dsimp only
    split <;> rfl
  | refresh =>
    rw [after_refresh]
    rfl
  | settle =>
    rw [after_settle]
    rfl

/-- What is on display is what was put in last. -/
theorem display_foldl (events : List Event) (r : Run) :
    (events.foldl after r).display = (events.filter Event.changes).foldl Event.display r.display := by
  rw [foldl_display_filter]
  induction events generalizing r with
  | nil => rfl
  | cons e rest ih =>
    rw [List.foldl_cons, List.foldl_cons, ih, display_after]

/-- Only a change of what is on display issues a request, and then only one. -/
theorem length_requests_after_le (r : Run) (e : Event) :
    (r.after e).exchange.requests.length ≤ r.exchange.requests.length + if e.changes then 1 else 0 := by
  have issues (request? : Option Request) (page : SearchPage) :
      (r.change (request?, page)).exchange.requests.length ≤ r.exchange.requests.length + 1 := by
    cases request? with
    | none => exact Nat.le_succ _
    | some q => simp [change, Exchange.issue]
  cases e with
  | setInput | setPage => exact issues _ _
  | reply index outcome =>
    unfold after
    dsimp only
    split <;> exact Nat.le_refl _
  | refresh | settle => exact Nat.le_refl _

theorem length_requests_foldl_le (events : List Event) (r : Run) :
    (events.foldl after r).exchange.requests.length
      ≤ r.exchange.requests.length + (events.filter Event.changes).length := by
  induction events generalizing r with
  | nil => exact Nat.le_refl _
  | cons e rest ih =>
    have first := r.length_requests_after_le e
    have later := ih (r.after e)
    rw [List.foldl_cons]
    cases changes : e.changes with
    | true =>
      rw [List.filter_cons_of_pos changes, List.length_cons]
      rw [changes, if_pos rfl] at first
      omega
    | false =>
      rw [List.filter_cons_of_neg (by simp [changes])]
      rw [changes, if_neg Bool.false_ne_true] at first
      omega

/-- Every reply is what the source answers to its request. -/
def AnsweredBy (r : Run) (find : String → Nat → Outcome Thumb) : Prop :=
  ∀ q outcome, (q, outcome) ∈ r.exchange.replies → outcome = find q.query q.page

/-- A page that waits for nothing shows the given rows. It waits for nothing once it has settled with its newest
request answered. -/
structure Shows (r : Run) (rows : List Thumb) : Prop where
  settled : r.page.service.isPending = false → r.page.rows = rows
  settles : (∀ q ∈ r.exchange.requests.getLast?, q ∉ r.exchange.inFlight) →
    (r.after .settle).page.service.isPending = false ∧ (r.after .settle).page.rows = rows

/-- No event loses the reply to the newest request. -/
theorem holds_after (sound : r.Sound) (holds : r.exchange.Holds r.page.service) (e : Event) :
    (r.after e).exchange.Holds (r.after e).page.service := by
  cases e with
  | setInput text =>
    by_cases same : text = r.page.input
    · rw [after, same, setInput_same]
      exact holds
    · rw [after, setInput_other same]
      exact Exchange.Holds.issue text r.page.page
  | setPage page =>
    by_cases same : page = r.page.page
    · rw [after, same, setPage_same]
      exact holds
    · rw [after, setPage_other same]
      exact Exchange.Holds.issue r.page.input page
  | reply index outcome =>
    cases place : r.exchange.inFlight[index]? with
    | none =>
      rw [show r.after (.reply index outcome) = r by simp only [after, place]]
      exact holds
    | some q =>
      simp only [after, place]
      exact holds.reply q outcome
  | refresh =>
    rw [after_refresh]
    exact holds.act sound.explained (e := .drain) rfl
  | settle =>
    rw [after_settle]
    exact holds.act sound.explained (e := .settle) rfl

/-- A settled page shows what is found for its text and page number. -/
theorem rows_of_settled (sound : r.Sound) (answered : r.AnsweredBy find)
    (ready : find r.page.input r.page.page = .ready rows) (settled : r.page.service.isPending = false) :
    r.page.rows = rows := by
  obtain ⟨q, outcome, -, query, page, replied, -, shown⟩ := sound.faithful.settled settled
  have found := answered q outcome replied
  rw [query, page, ready] at found
  rw [shown, found]

/-- Until a first reply comes, a page waits. -/
theorem isPending_of_unanswered (sound : r.Sound) (unanswered : r.exchange.replies = []) :
    r.page.service.isPending = true := by
  by_contra settled
  rw [Bool.not_eq_true] at settled
  obtain ⟨q, outcome, -, -, -, replied, -⟩ := sound.faithful.settled settled
  rw [unanswered] at replied
  cases replied

/-- A run with few changes of what is on display is sound and has lost no reply that matters. -/
theorem kept_ofEvents (few : (events.filter Event.changes).length + 1 < UInt64.size) :
    (ofEvents events).Sound ∧ (ofEvents events).exchange.Holds (ofEvents events).page.service := by
  have bound : (ofEvents events).exchange.requests.length < UInt64.size := by
    have requests := length_requests_foldl_le events start
    have first : start.exchange.requests.length = 1 := rfl
    unfold ofEvents
    omega
  have keeps : ∀ r : Run, ∀ e ∈ events, r.Sound ∧ r.exchange.Holds r.page.service →
      (r.after e).exchange.requests.length < UInt64.size →
      (r.after e).Sound ∧ (r.after e).exchange.Holds (r.after e).page.service := by
    intro r e _ ⟨sound, holds⟩ now
    exact ⟨sound.after e now, holds_after sound holds e⟩
  exact foldl_keeps (fun r => r.exchange.requests.length) length_requests_le events keeps start
    ⟨Sound.start, Exchange.Holds.issue "" 0⟩ bound

/-- **The order of the answers does not matter**: once its newest request is answered, a page shows what is found for
its text and page number. -/
theorem shows_of_ready (few : (events.filter Event.changes).length + 1 < UInt64.size)
    (answered : (ofEvents events).AnsweredBy find)
    (ready : find (ofEvents events).page.input (ofEvents events).page.page = .ready rows) :
    (ofEvents events).Shows rows := by
  obtain ⟨sound, holds⟩ := kept_ofEvents few
  constructor
  · exact rows_of_settled sound answered ready
  · intro arrived
    obtain ⟨q, newest, -⟩ := sound.newest
    rw [after_settle]
    have settled := holds.isPending_settle sound.explained newest (arrived q newest)
    refine ⟨settled, rows_of_settled ?_ answered ready settled⟩
    exact sound.takeIn (sound.explained.act (e := .settle) rfl)

/-- A text and then a page number are put in, while answers come in before, between and after. -/
theorem shows_of_changes {query : String} {page : Nat}
    (changes : events.filter Event.changes = [.setInput query, .setPage page])
    (answered : (ofEvents events).AnsweredBy find) (ready : find query page = .ready rows) :
    (ofEvents events).exchange.requests.length ≤ 3 ∧ (ofEvents events).Shows rows := by
  have displayed := display_foldl events start
  rw [changes] at displayed
  have input : (ofEvents events).page.input = query := congrArg Prod.fst displayed
  have number : (ofEvents events).page.page = page := congrArg Prod.snd displayed
  constructor
  · have requests := length_requests_foldl_le events start
    rw [changes] at requests
    exact requests
  · apply shows_of_ready
    · rw [changes]
      show 3 < UInt64.size
      decide
    · exact answered
    · rw [input, number, ready]

/-- The replies to all requests in flight, oldest first. -/
def answers (find : String → Nat → Outcome Thumb) (requests : List Request) : List Event :=
  requests.map fun q => .reply 0 (find q.query q.page)

/-- With the answers to all its requests delivered, a page waits for no further ones. -/
theorem foldl_answers {requests : List Request} (flying : r.exchange.inFlight = requests) :
    (answers find requests).foldl after r = {
      page := requests.foldl (fun p q => Widget.deliver p ((Source.direct find).response q)) r.page
      exchange := { r.exchange with
        inFlight := []
        replies := r.exchange.replies ++ requests.map fun q => (q, find q.query q.page) } } := by
  induction requests generalizing r with
  | nil =>
    obtain ⟨page, asked, inFlight, replies, shownBefore⟩ := r
    obtain rfl : inFlight = [] := flying
    simp [answers]
  | cons q rest ih =>
    have first : r.after (.reply 0 (find q.query q.page)) = {
        page := Widget.deliver r.page ((Source.direct find).response q)
        exchange := { r.exchange with
          inFlight := rest
          replies := r.exchange.replies ++ [(q, find q.query q.page)] } } := by
      simp only [after, flying, List.getElem?_cons_zero, Exchange.reply, List.erase_cons_head,
        Source.response_direct]
    show (answers find rest).foldl after (r.after (.reply 0 (find q.query q.page))) = _
    rw [first, ih rfl]
    simp

/-- Replies change nothing on display. -/
theorem filter_answers (find : String → Nat → Outcome Thumb) (requests : List Request) :
    (answers find requests).filter Event.changes = [] := by
  simp [answers, Event.changes]

/-- A session at work on a search page is at the same point as a run. The requests in flight wait in its queue. -/
structure Follows (s : Session SearchPage Thumb Thumb) (find : String → Nat → Outcome Thumb) (r : Run) : Prop where
  widget : s.widget = r.page
  queue : s.queue = r.exchange.inFlight.map (queueEntry .background)
  source : s.backend.source = .direct find
  unplanned : s.backend.plans = []
  idle : r.page.service.inbox = []
  priority : r.page.service.priority = .background

namespace Follows
variable {s : Session SearchPage Thumb Thumb}

theorem start (find : String → Nat → Outcome Thumb) :
    Follows (({ widget := SearchPage.start.2, backend := { source := .direct find } } :
      Session SearchPage Thumb Thumb).enqueue (some SearchPage.start.1)) find Run.start :=
  ⟨rfl, rfl, rfl, rfl, rfl, rfl⟩

/-- A change of the page puts its request into the queue. -/
theorem change (follows : Follows s find r) {result : Option Request × SearchPage}
    (idle : result.2.service.inbox = []) (priority : result.2.service.priority = .background) :
    Follows ((s.update result).2.enqueue (s.update result).1) find (r.change result) := by
  obtain ⟨request?, page⟩ := result
  cases request? with
  | none => exact ⟨rfl, follows.queue, follows.source, follows.unplanned, idle, priority⟩
  | some q =>
    refine ⟨rfl, ?_, follows.source, follows.unplanned, idle, priority⟩
    show s.queue ++ [queueEntry page.service.priority q] = (r.exchange.inFlight ++ [q]).map (queueEntry .background)
    rw [follows.queue, List.map_append, show page.service.priority = .background from priority]
    rfl

theorem setInput (follows : Follows s find r) (text : String) :
    Follows ((s.update (s.widget.setInput text)).2.enqueue (s.update (s.widget.setInput text)).1) find
      (r.after (.setInput text)) := by
  rw [follows.widget]
  by_cases same : text = r.page.input
  · rw [after, same, setInput_same]
    exact follows.change follows.idle follows.priority
  · rw [after, setInput_other same]
    exact follows.change follows.idle follows.priority

theorem setPage (follows : Follows s find r) (page : Nat) :
    Follows ((s.update (s.widget.setPage page)).2.enqueue (s.update (s.widget.setPage page)).1) find
      (r.after (.setPage page)) := by
  rw [follows.widget]
  by_cases same : page = r.page.page
  · rw [after, same, setPage_same]
    exact follows.change follows.idle follows.priority
  · rw [after, setPage_other same]
    exact follows.change follows.idle follows.priority

/-- A session that settles answers the requests in flight, oldest first. -/
theorem settle (follows : Follows s find r) (waits : r.page.service.isPending = true) :
    s.settle.2.widget = (((answers find r.exchange.inFlight).foldl Run.after r).after .settle).page := by
  have idle : Widget.settle r.page = (false, r.page) := by
    show Widget.update r.page (r.page.service.applyUntilSettled r.page.service.inbox) = _
    have empty : { r.page.service with inbox := [] } = r.page.service := by
      rw [← follows.idle]
    rw [follows.idle, Lookup.Service.applyUntilSettled, empty]
    rfl
  rw [Session.widget_settle follows.unplanned follows.queue (by rw [follows.widget]; exact idle)
    (by rw [follows.widget]; exact waits), foldl_answers rfl, follows.widget, follows.source]
  rfl

end Follows

end Run

end StickerBook.Editor.SearchPage
