import StickerBook.Lookup.Source

/-!
# Sessions

A session is a widget at work: the widget, the source that its lookups go to, and the run queue that
they wait in. Issuing a request only queues it; nothing is asked before the queue runs.
-/

namespace StickerBook.Lookup
set_option autoImplicit false
variable {ω ρ α : Type}

/-- A widget with a service. `refreshed` is what the widget does once its items have been replaced. -/
class Widget (ω : Type) (α : outParam Type) where
  service : ω → Service α
  withService : ω → Service α → ω
  refreshed : ω → ω

instance : Widget (Service α) α where
  service s := s
  withService _ s := s
  refreshed s := s

namespace Widget
variable [Widget ω α]

/-- The newest request of the widget still waits for its response. -/
def isPending (w : ω) : Bool := (service w).isPending

/-- Puts a response into the inbox of the widget. -/
def deliver (w : ω) (r : Response α) : ω := withService w ((service w).deliver r)

/-- Stores a changed service and says whether its items were replaced. -/
def update (w : ω) (changedService : Bool × Service α) : Bool × ω :=
  let w := withService w changedService.2
  (changedService.1, if changedService.1 then refreshed w else w)

/-- Applies everything in the inbox. -/
def refresh (w : ω) : Bool × ω := update w (service w).drain

/-- Takes responses out of the inbox as long as the newest request waits for its own. -/
def settle (w : ω) : Bool × ω := update w (service w).settle

/-- Applies the first response of the inbox, if there is one. -/
def receive (w : ω) : Option (Bool × ω) := (service w).receive.map (update w)

end Widget

/-- The queue entry of a request: a background lookup gives one turn away. -/
def queueEntry (priority : Priority) (r : Request) : Queued Job where
  job := .ask r
  yields := match priority with
    | .interactive => 0
    | .background => 1

/-- A widget at work. -/
structure Session (ω ρ α : Type) where
  widget : ω
  backend : ScriptedSource ρ α
  queue : List (Queued Job) := []

namespace Session
variable [Widget ω α]

/-- Queues a request, if there is one. -/
def enqueue (s : Session ω ρ α) : Option Request → Session ω ρ α
  | none => s
  | some r => { s with queue := s.queue ++ [queueEntry (Widget.service s.widget).priority r] }

/-- Takes one lookup through its turn and delivers its response. -/
def serve (s : Session ω ρ α) (job : Job) : Session ω ρ α :=
  match s.backend.serve job with
  | (none, backend) => { s with backend }
  | (some r, backend) => { s with backend, widget := Widget.deliver s.widget r }

/-- Runs the queue until it is empty. -/
def tick (s : Session ω ρ α) : Session ω ρ α := runQueue serve s.queue { s with queue := [] }

/-- Adds a plan. -/
def plan (s : Session ω ρ α) (p : Plan ρ) : Session ω ρ α := { s with backend := s.backend.plan p }

/-- Goes on with lookups that a gate has let through. -/
def resume (s : Session ω ρ α) (passed : List Job × ScriptedSource ρ α) : Session ω ρ α :=
  { s with backend := passed.2, queue := s.queue ++ passed.1.map ({ job := · }) }

/-- Opens a gate. -/
def openGate (s : Session ω ρ α) (gate : String) (outcome : Outcome ρ) : Session ω ρ α :=
  s.resume (s.backend.openGate gate outcome)

/-- Drops a gate. -/
def dropGate (s : Session ω ρ α) (gate : String) : Session ω ρ α :=
  s.resume (s.backend.dropGate gate)

/-- Stores a changed widget. -/
def update {β : Type} (s : Session ω ρ α) (result : β × ω) : β × Session ω ρ α :=
  (result.1, { s with widget := result.2 })

/-- Applies everything that has been delivered. -/
def refresh (s : Session ω ρ α) : Bool × Session ω ρ α := s.update (Widget.refresh s.widget)

/-- Waits for one response and applies it. The result is `none` if none can come. -/
def receive (s : Session ω ρ α) : Option Bool × Session ω ρ α :=
  match Widget.receive s.widget with
  | some result => s.update (result.map some id)
  | none =>
    let s := s.tick
    match Widget.receive s.widget with
    | some result => s.update (result.map some id)
    | none => (none, s)

/-- Waits until the newest request has its response. The result is `none` if it cannot come. -/
def settle (s : Session ω ρ α) : Option Bool × Session ω ρ α :=
  let (changed, s) := s.update (Widget.settle s.widget)
  if Widget.isPending s.widget then
    let (changed', s) := s.tick.update (Widget.settle s.tick.widget)
    (if Widget.isPending s.widget then none else some (changed || changed'), s)
  else (some changed, s)

end Session

end StickerBook.Lookup
