import StickerBook.Lookup.Session
import StickerBook.Proofs.Lookup.RunQueue

/-!
# Sessions without a script

All lookups of a session give way equally often, so they are served in the order in which they were queued
(`runQueue_map`). A session for which nothing is planned delivers to each of its requests what the source itself answers, and
a widget that waits takes these answers in (`Session.widget_settle`).
-/

namespace StickerBook.Lookup
set_option autoImplicit false
variable {ω ρ α : Type}

/-- What a source answers to a request. -/
def Source.response (s : Source ρ α) (q : Request) : Response α where
  seq := q.seq
  outcome := s.answer q.query q.page

/-- All requests of one priority give way equally often. -/
theorem exists_turns (priority : Priority) :
    ∃ turns, ∀ q, queueEntry priority q = { job := .ask q, yields := turns } := by
  cases priority with
  | interactive => exact ⟨0, fun _ => rfl⟩
  | background => exact ⟨1, fun _ => rfl⟩

/-- A direct source presents what it finds as it is. -/
theorem Source.response_direct (find : String → Nat → Outcome α) (q : Request) :
    (Source.direct find).response q = { seq := q.seq, outcome := find q.query q.page } := by
  have same (outcome : Outcome α) : outcome.mapItems (fun items => items) = outcome := by
    cases outcome <;> rfl
  exact congrArg (Response.mk q.seq) (same (find q.query q.page))

namespace Session
variable [Widget ω α] {s : Session ω ρ α}

theorem serve_unplanned (unplanned : s.backend.plans = []) (q : Request) :
    s.serve (.ask q) = { s with
      widget := Widget.deliver s.widget (s.backend.source.response q)
      backend := { s.backend with asked := s.backend.asked ++ [(q.query, q.page)] } } := by
  unfold serve
  rw [ScriptedSource.serve_ask unplanned]
  rfl

/-- Each request is answered in its turn. -/
theorem widget_foldl_serve (unplanned : s.backend.plans = []) (requests : List Request) :
    ((requests.map Job.ask).foldl serve s).widget
      = requests.foldl (fun w q => Widget.deliver w (s.backend.source.response q)) s.widget := by
  induction requests generalizing s with
  | nil => rfl
  | cons q rest ih =>
    rw [List.map_cons, List.foldl_cons, serve_unplanned unplanned]
    exact ih unplanned

/-- The widget of a session that settles takes in the answers to all queued requests. -/
theorem widget_settle {priority : Priority} {requests : List Request} (unplanned : s.backend.plans = [])
    (queued : s.queue = requests.map (queueEntry priority)) (idle : Widget.settle s.widget = (false, s.widget))
    (waits : Widget.isPending s.widget = true) :
    s.settle.2.widget = (Widget.settle
      (requests.foldl (fun w q => Widget.deliver w (s.backend.source.response q)) s.widget)).2 := by
  obtain ⟨turns, entry⟩ := exists_turns priority
  have entries : s.queue = (requests.map Job.ask).map fun job => { job, yields := turns } := by
    rw [queued, List.map_map]
    exact List.map_congr_left fun q _ => entry q
  have ticked : s.tick.widget
      = requests.foldl (fun w q => Widget.deliver w (s.backend.source.response q)) s.widget := by
    unfold tick
    rw [entries, runQueue_map]
    exact widget_foldl_serve (s := { s with queue := [] }) unplanned requests
  unfold settle
  simp only [update, idle, waits, if_true]
  rw [← ticked]

end Session

end StickerBook.Lookup
