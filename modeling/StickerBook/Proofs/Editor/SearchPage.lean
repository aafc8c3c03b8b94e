import StickerBook.Editor.SearchPage
import StickerBook.Proofs.Lookup.Exchange
import StickerBook.Proofs.Run

/-!
# What a search page shows

A run of a search page is any order of changes of its text and page number, of replies of the source, and of
taking replies in. Its newest request is always for the text and the page number that it displays, and once
that request is settled the rows are the reply to it (`faithful_run`).
-/

namespace StickerBook.Editor.SearchPage
set_option autoImplicit false
open Lookup (Coordinator Exchange Outcome Request Service Widget)

/-- What can happen to a search page. The source replies to the requests in flight in any order. A page that
still waits after it settled settles again after the next reply. -/
inductive Event where
  | setInput (text : String)
  | setPage (page : Nat)
  | reply (index : Nat) (outcome : Outcome Thumb)
  | refresh
  | settle

/-- A search page at work, and what has passed between it and its source. -/
structure Run where
  page : SearchPage
  exchange : Exchange Thumb

namespace Run

/-- A change of the page, with the request that it issues. -/
def change (r : Run) (result : Option Request × SearchPage) : Run where
  page := result.2
  exchange := r.exchange.issue r.page.rows result.1

/-- The run after an event. -/
def after (r : Run) : Event → Run
  | .setInput text => r.change (r.page.setInput text)
  | .setPage page => r.change (r.page.setPage page)
  | .reply index outcome =>
    match r.exchange.inFlight[index]? with
    | none => r
    | some q => {
        page := Widget.deliver r.page { seq := q.seq, outcome }
        exchange := r.exchange.reply q outcome }
  | .refresh => { r with page := (Widget.refresh r.page).2 }
  | .settle => { r with page := (Widget.settle r.page).2 }

/-- A new page has looked its blank text up. -/
def start : Run where
  page := SearchPage.start.2
  exchange := ({} : Exchange Thumb).issue [] (some SearchPage.start.1)

/-- The run of some events. -/
def ofEvents (events : List Event) : Run := events.foldl after start

/-- From one run to the next exactly one request is issued, for the given query and page. -/
def IssuesOne (r r' : Run) (query : String) (page : Nat) : Prop :=
  ∃ q, r'.exchange.requests = r.exchange.requests ++ [q] ∧ q.query = query ∧ q.page = page ∧
    r'.page.service.coordinator.issued = r.page.service.coordinator.issued + 1 ∧
    r'.page.input = query ∧ r'.page.page = page

/-- The page displays what it asked for. -/
structure Faithful (r : Run) : Prop where
  /-- The newest request is for the text and the page number on display. -/
  newest : ∃ q, r.page.service.lastRequest = some q ∧ r.exchange.requests.getLast? = some q ∧
    q.query = r.page.input ∧ q.page = r.page.page
  /-- No request is issued apart from those listed. -/
  issued : r.page.service.coordinator.issued.toNat = r.exchange.requests.length
  setInput_same : r.after (.setInput r.page.input) = r
  setInput_other : ∀ text, text ≠ r.page.input → r.IssuesOne (r.after (.setInput text)) text r.page.page
  setPage_same : r.after (.setPage r.page.page) = r
  setPage_other : ∀ page, page ≠ r.page.page → r.IssuesOne (r.after (.setPage page)) r.page.input page
  /-- Until the newest request is settled, the rows stay what they were when it was issued. -/
  waiting : r.page.service.isPending = true → r.page.rows = r.exchange.shownBefore
  /-- Then they are what the source replied to it. A failure clears them, and only a source that is not ready
  leaves them alone. -/
  settled : r.page.service.isPending = false → ∃ q outcome,
    r.page.service.lastRequest = some q ∧ q.query = r.page.input ∧ q.page = r.page.page ∧
    (q, outcome) ∈ r.exchange.replies ∧ (∀ other, (q, other) ∈ r.exchange.replies → other = outcome) ∧
    r.page.rows = match outcome with
      | .ready rows => rows
      | .failed _ => []
      | .notReady => r.exchange.shownBefore

end Run

theorem setInput_same (p : SearchPage) : p.setInput p.input = (none, p) := by
  simp [setInput]

theorem setInput_other {p : SearchPage} {text : String} (other : text ≠ p.input) :
    p.setInput text = (some (p.service.issue text p.page).1,
      { p with input := text, service := (p.service.issue text p.page).2 }) := by
  simp [setInput, other, lookUp, Prod.map]

theorem setPage_same (p : SearchPage) : p.setPage p.page = (none, p) := by
  simp [setPage]

theorem setPage_other {p : SearchPage} {page : Nat} (other : page ≠ p.page) :
    p.setPage page = (some (p.service.issue p.input page).1,
      { p with page, service := (p.service.issue p.input page).2 }) := by
  simp [setPage, other, lookUp, Prod.map]

/-- Taking replies in changes the service alone. -/
theorem update_eq (p : SearchPage) (result : Bool × Service Thumb) :
    (Widget.update p result).2 = { p with service := result.2 } := by
  unfold Widget.update
  split <;> rfl

namespace Run

/-- What every event preserves. -/
structure Sound (r : Run) : Prop where
  explained : r.exchange.Explains r.page.service
  newest : ∃ q, r.exchange.requests.getLast? = some q ∧ q.query = r.page.input ∧ q.page = r.page.page

namespace Sound
variable {r : Run}

theorem start : Run.start.Sound where
  explained := (Exchange.Explains.start .background).issue "" 0 (by decide)
  newest := ⟨SearchPage.start.1, rfl, rfl, rfl⟩

/-- A change that looks the text and the page number up leads to a request for them. -/
theorem change (sound : r.Sound) (p : SearchPage)
    (bound : r.exchange.requests.length + 1 < UInt64.size) (service : p.service = r.page.service) :
    (r.change (some p.lookUp.1, p.lookUp.2)).Sound := by
  have issued := sound.explained.issue p.input p.page bound
  refine ⟨?_, p.lookUp.1, ?_, rfl, rfl⟩
  · unfold Run.change SearchPage.lookUp
    rw [service]
    exact issued
  · exact List.getLast?_concat

theorem takeIn (sound : r.Sound) {service : Service Thumb} (explained : r.exchange.Explains service) :
    Sound { r with page := { r.page with service } } :=
  ⟨explained, sound.newest⟩

/-- An event keeps a run sound as long as the request numbers do not wrap around. -/
theorem after (sound : r.Sound) (e : Event) (bound : (r.after e).exchange.requests.length < UInt64.size) :
    (r.after e).Sound := by
  cases e with
  | setInput text =>
    by_cases same : text = r.page.input
    · rw [Run.after, same, setInput_same]
      exact sound
    · have issues := setInput_other same
      rw [Run.after, issues] at bound ⊢
      exact sound.change { r.page with input := text } (by simpa [Run.change, Exchange.issue] using bound) rfl
  | setPage page =>
    by_cases same : page = r.page.page
    · rw [Run.after, same, setPage_same]
      exact sound
    · have issues := setPage_other same
      rw [Run.after, issues] at bound ⊢
      exact sound.change { r.page with page } (by simpa [Run.change, Exchange.issue] using bound) rfl
  | reply index outcome =>
    cases place : r.exchange.inFlight[index]? with
    | none =>
      rw [show r.after (.reply index outcome) = r by simp only [Run.after, place]]
      exact sound
    | some q =>
      simp only [Run.after, place]
      exact ⟨sound.explained.reply (List.mem_of_getElem? place) outcome, sound.newest⟩
  | refresh =>
    unfold Run.after Widget.refresh
    rw [update_eq]
    exact sound.takeIn (sound.explained.act (e := .drain) rfl)
  | settle =>
    unfold Run.after Widget.settle
    rw [update_eq]
    exact sound.takeIn (sound.explained.act (e := .settle) rfl)

/-- A sound run is faithful. -/
theorem faithful (sound : r.Sound) : r.Faithful := by
  have explained := sound.explained
  obtain ⟨q, newest, query, page⟩ := sound.newest
  have last : r.page.service.lastRequest = some q := by rw [explained.tracks.last, newest]
  refine ⟨⟨q, last, newest, query, page⟩, explained.tracks.issued, ?_, fun text other => ?_, ?_,
    fun number other => ?_, explained.waiting, fun settled => ?_⟩
  · rw [Run.after, setInput_same]
    rfl
  · rw [Run.after, setInput_other other]
    exact ⟨_, rfl, rfl, rfl, rfl, rfl, rfl⟩
  · rw [Run.after, setPage_same]
    rfl
  · rw [Run.after, setPage_other other]
    exact ⟨_, rfl, rfl, rfl, rfl, rfl, rfl⟩
  · obtain ⟨outcome, replied, rows⟩ := explained.answered q settled newest
    refine ⟨q, outcome, last, query, page, replied, fun other also => ?_, ?_⟩
    · exact explained.reply_unique also replied
    · rw [SearchPage.rows, rows]
      cases outcome <;> rfl

end Sound

/-- Requests are never forgotten. -/
theorem length_requests_le (r : Run) (e : Event) :
    r.exchange.requests.length ≤ (r.after e).exchange.requests.length := by
  cases e with
  | setInput | setPage => exact r.exchange.length_issue_le _ _
  | reply index outcome =>
    rw [after]
    split <;> exact Nat.le_refl _
  | refresh | settle => exact Nat.le_refl _

theorem Sound.ofEvents (events : List Event)
    (bound : (ofEvents events).exchange.requests.length < UInt64.size) : (ofEvents events).Sound :=
  foldl_keeps (fun r => r.exchange.requests.length) length_requests_le events (fun _ e _ sound now => sound.after e now)
    Run.start Sound.start bound

/-- **A search page shows the reply to what it displays**, after every run with fewer than 2^64 requests. -/
theorem faithful_run (events : List Event) (bound : (ofEvents events).exchange.requests.length < UInt64.size) :
    (ofEvents events).Faithful :=
  (Sound.ofEvents events bound).faithful

/-- Typing and paging overtake each other's replies, and a text is typed again. -/
theorem faithful_race :
    let cat : Thumb := { id := 31, name := "cat", package := "Inbox", kind := .pic }
    let r := ofEvents [.setInput "cat", .setPage 1, .reply 2 (.ready [cat]), .reply 1 .notReady, .settle,
      .reply 0 (.ready []), .refresh, .setInput "", .reply 0 .notReady, .settle, .setInput "cat"]
    r.exchange.requests.length < UInt64.size ∧ r.page.rows = [cat] ∧ r.Faithful :=
  ⟨by decide, by rfl, faithful_run _ (by decide)⟩

end Run

end StickerBook.Editor.SearchPage
