import Mathlib.Data.List.Perm.Basic
import Mathlib.Logic.Function.Basic
import StickerBook.Lookup.Session
import StickerBook.Proofs.Lookup.Acceptance
import StickerBook.Proofs.Lookup.RunQueue
import StickerBook.Proofs.Lookup.Session

/-!
# Services that share a run queue

A `Team` is some services at work on one run queue, each with a source of its own. `Session.Event` lists what can happen to a
service between two runs of the queue. Whatever happens to the members of a team, its queue then holds a lookup for each
request that was issued, and it gives way once if the service is a background one (`Team.Holds.follow`). So the next run asks
the sources for all interactive requests first, and for the background requests after them (`Team.overtakes_tick`). What a
source is asked is read off its own record (`ScriptedSource.asked`), and what it says comes back to the member that asked.
-/

namespace StickerBook.Lookup
set_option autoImplicit false

/-- What a request asks a source. -/
def Request.question (r : Request) : String × Nat := (r.query, r.page)

/-- The request for which a job asks its source. A lookup that goes on behind a gate has asked before. -/
def Job.asks : Job → Option Request
  | .ask r => some r
  | .resume _ _ => none

namespace Service
variable {α : Type}

theorem priority_apply (s : Service α) (r : Response α) : (s.apply r).2.priority = s.priority := by
  rcases s.apply_cases r with dropped | ⟨-, -, accepted⟩
  · rw [dropped]
  · rw [accepted]

theorem priority_applyAll (s : Service α) (rs : List (Response α)) : (s.applyAll rs).2.priority = s.priority := by
  induction rs generalizing s with
  | nil => rfl
  | cons r rest ih => exact (ih (s.apply r).2).trans (s.priority_apply r)

end Service

namespace ScriptedSource
variable {ρ α : Type}

/-- Behind a gate nothing is asked anew. -/
theorem asks_openGate (s : ScriptedSource ρ α) (gate : String) (outcome : Outcome ρ) :
    ∀ job ∈ (s.openGate gate outcome).1, job.asks = none := by
  unfold openGate
  split
  · simp
  · intro job passed
    obtain ⟨parked, -, rfl⟩ := List.mem_map.1 passed
    rfl

theorem asked_passGate (s : ScriptedSource ρ α) (r : Request) (gate : String) :
    (s.passGate r gate).2.asked = s.asked := by
  unfold passGate
  split <;> rfl

theorem asked_takePlan (s : ScriptedSource ρ α) (query : String) (page : Nat) :
    (s.takePlan query page).2.asked = s.asked ++ [(query, page)] := by
  unfold takePlan
  dsimp only
  split <;> rfl

/-- A turn asks for its request, if it has one, and for nothing else. -/
theorem asked_serve (s : ScriptedSource ρ α) (job : Job) :
    (s.serve job).2.asked = s.asked ++ (job.asks.map Request.question).toList := by
  cases job with
  | resume r gate => exact (asked_passGate s r gate).trans (List.append_nil _).symm
  | ask r =>
    have taken := asked_takePlan s r.query r.page
    unfold serve
    dsimp only
    split
    · next outcome s' planned =>
      rw [planned] at taken
      exact taken
    · next gate s' planned =>
      rw [planned] at taken
      exact (asked_passGate s' r gate).trans taken

end ScriptedSource

namespace Session
variable {ρ α : Type} {s : Session (Service α) ρ α}

/-- What can happen to the session of a service between two runs of the queue. -/
inductive Event (ρ α : Type) where
  | issue (query : String) (page : Nat)
  | apply (r : Response α)
  | refresh
  | plan (p : Plan ρ)
  | openGate (gate : String) (outcome : Outcome ρ)
  | dropGate (gate : String)

/-- The session after an event. -/
def after (s : Session (Service α) ρ α) : Event ρ α → Session (Service α) ρ α
  | .issue query page =>
    let (request, s) := s.update (s.widget.issue query page)
    s.enqueue (some request)
  | .apply r => (s.update (s.widget.apply r)).2
  | .refresh => s.refresh.2
  | .plan p => s.plan p
  | .openGate gate outcome => s.openGate gate outcome
  | .dropGate gate => s.dropGate gate

/-- The requests that an event issues. -/
def issued (s : Session (Service α) ρ α) : Event ρ α → List Request
  | .issue query page => [(s.widget.issue query page).1]
  | _ => []

/-- A service does not change its priority. -/
theorem priority_after (s : Session (Service α) ρ α) (ev : Event ρ α) :
    (s.after ev).widget.priority = s.widget.priority := by
  cases ev with
  | issue | plan | openGate | dropGate => rfl
  | apply r => exact s.widget.priority_apply r
  | refresh =>
    have drained : (Widget.refresh s.widget).2 = s.widget.drain.2 := ite_self _
    show (Widget.refresh s.widget).2.priority = s.widget.priority
    rw [drained]
    exact Service.priority_applyAll { s.widget with inbox := [] } s.widget.inbox

/-- An event queues a lookup for each request that it issues, or it queues lookups that have asked before. -/
theorem queue_after (s : Session (Service α) ρ α) (ev : Event ρ α) :
    (s.after ev).queue = s.queue ++ (s.issued ev).map (queueEntry s.widget.priority) ∨
      s.issued ev = [] ∧ ∃ jobs : List Job, (∀ job ∈ jobs, job.asks = none) ∧
        (s.after ev).queue = s.queue ++ jobs.map ({ job := · }) := by
  cases ev with
  | issue => exact .inl rfl
  | apply | refresh | plan => exact .inl (List.append_nil _).symm
  | openGate gate outcome => exact .inr ⟨rfl, _, s.backend.asks_openGate gate outcome, rfl⟩
  | dropGate gate => exact .inr ⟨rfl, _, s.backend.asks_openGate gate _, rfl⟩

/-- A turn does not touch the queue, and the source changes as if it were alone. -/
theorem serve_frame (s : Session (Service α) ρ α) (job : Job) :
    (s.serve job).queue = s.queue ∧ (s.serve job).backend = (s.backend.serve job).2 := by
  unfold serve
  split
  · next served => exact ⟨rfl, by rw [served]⟩
  · next served => exact ⟨rfl, by rw [served]⟩

theorem asked_foldl_serve (jobs : List Job) (s : Session (Service α) ρ α) :
    (jobs.foldl serve s).backend.asked = s.backend.asked ++ (jobs.filterMap Job.asks).map Request.question := by
  induction jobs generalizing s with
  | nil => exact (List.append_nil _).symm
  | cons job rest ih =>
    rw [List.foldl_cons, ih, (s.serve_frame job).2, ScriptedSource.asked_serve]
    cases asks : job.asks <;> simp [asks]

/-- A source for which nothing is planned answers the requests in the order in which it is asked. -/
theorem inbox_foldl_serve (unplanned : s.backend.plans = []) (requests : List Request) :
    ((requests.map Job.ask).foldl serve s).widget.inbox
      = s.widget.inbox ++ requests.map s.backend.source.response := by
  rw [widget_foldl_serve unplanned]
  generalize s.widget = service
  induction requests generalizing service with
  | nil => exact (List.append_nil _).symm
  | cons q rest ih =>
    rw [List.foldl_cons, ih]
    exact List.append_assoc _ _ _

end Session

/-- Services at work on one run queue, each with a source of its own. -/
structure Team (ι : Type) (ρ α : ι → Type) where
  service : (i : ι) → Service (α i)
  backend : (i : ι) → ScriptedSource (ρ i) (α i)
  queue : List (Queued (ι × Job)) := []

namespace Team
variable {ι : Type} {ρ α : ι → Type}

/-- The session of one member, with nothing queued. -/
def session (t : Team ι ρ α) (i : ι) : Session (Service (α i)) (ρ i) (α i) where
  widget := t.service i
  backend := t.backend i

/-- The place of a member's lookup in the common queue. -/
def place (i : ι) (e : Queued Job) : Queued (ι × Job) := { job := (i, e.job), yields := e.yields }

/-- The lookups of a member are served first. -/
def urgent (t : Team ι ρ α) (i : ι) : Bool := (t.service i).priority = .interactive

/-- The request for which a member's job asks the member's source. -/
def asks (job : ι × Job) : Option (ι × Request) := job.2.asks.map (job.1, ·)

/-- The requests of one member. -/
def requestsOf [DecidableEq ι] (i : ι) (requests : List (ι × Request)) : List Request :=
  (requests.filter fun q => q.1 = i).map Prod.snd

/-- What a member's request asks the member's source. -/
def question (q : ι × Request) : ι × String × Nat := (q.1, q.2.question)

/-- The entries hold the lookups of the given requests. Those of urgent members do not give way, and the others give way
once. -/
structure Holds (urgent : ι → Bool) (entries : List (Queued (ι × Job))) (requests : List (ι × Request)) : Prop where
  once : ∀ e ∈ entries, e.yields ≤ 1
  prompt : (promptJobs entries).filterMap asks = requests.filter fun q => urgent q.1
  patient : (patientJobs entries).filterMap asks = requests.filter fun q => !urgent q.1

namespace Holds
variable {urgent : ι → Bool} {entries more : List (Queued (ι × Job))} {requests later : List (ι × Request)}

theorem nil : Holds urgent [] [] := ⟨by simp, rfl, rfl⟩

theorem append (first : Holds urgent entries requests) (second : Holds urgent more later) :
    Holds urgent (entries ++ more) (requests ++ later) where
  once e member := (List.mem_append.1 member).elim (first.once e) (second.once e)
  prompt := by rw [promptJobs_append, List.filterMap_append, first.prompt, second.prompt, List.filter_append]
  patient := by rw [patientJobs_append, List.filterMap_append, first.patient, second.patient, List.filter_append]

/-- Lookups that have asked before ask for nothing. -/
theorem resumed (i : ι) {jobs : List Job} (silent : ∀ job ∈ jobs, job.asks = none) :
    Holds urgent ((jobs.map ({ job := · })).map (place i)) [] := by
  induction jobs with
  | nil => exact nil
  | cons job rest ih =>
    have quiet := silent job List.mem_cons_self
    have one : Holds urgent [place i { job }] [] := by
      constructor <;> simp [place, promptJobs, patientJobs, asks, quiet]
    exact one.append (ih fun job later => silent job (List.mem_cons_of_mem _ later))

/-- The lookups of one member's requests. -/
theorem queued (t : Team ι ρ α) (i : ι) (rs : List Request) :
    Holds t.urgent ((rs.map (queueEntry (t.service i).priority)).map (place i)) (rs.map (i, ·)) := by
  induction rs with
  | nil => exact nil
  | cons r rest ih =>
    have one : Holds t.urgent [place i (queueEntry (t.service i).priority r)] [(i, r)] := by
      cases priority : (t.service i).priority <;> constructor <;>
        simp [place, queueEntry, promptJobs, patientJobs, asks, Job.asks, Team.urgent, priority]
    exact one.append ih

end Holds

variable [DecidableEq ι] {t : Team ι ρ α}

/-- One member takes a step. What it queues goes to the end of the common queue. -/
def step (t : Team ι ρ α) (i : ι)
    (f : Session (Service (α i)) (ρ i) (α i) → Session (Service (α i)) (ρ i) (α i)) : Team ι ρ α where
  service := Function.update t.service i (f (t.session i)).widget
  backend := Function.update t.backend i (f (t.session i)).backend
  queue := t.queue ++ (f (t.session i)).queue.map (place i)

/-- Takes one lookup through its turn. -/
def serve (t : Team ι ρ α) (job : ι × Job) : Team ι ρ α := t.step job.1 (·.serve job.2)

/-- Runs the queue until it is empty. -/
def tick (t : Team ι ρ α) : Team ι ρ α := runQueue serve t.queue { t with queue := [] }

/-- The team after something has happened to one of its members. -/
def after (t : Team ι ρ α) (ev : (i : ι) × Session.Event (ρ i) (α i)) : Team ι ρ α := t.step ev.1 (·.after ev.2)

/-- The team after some events. -/
def follow (t : Team ι ρ α) (events : List ((i : ι) × Session.Event (ρ i) (α i))) : Team ι ρ α := events.foldl after t

/-- The requests that events issue, each with its member, in the order in which they are issued. -/
def issued (t : Team ι ρ α) : List ((i : ι) × Session.Event (ρ i) (α i)) → List (ι × Request)
  | [] => []
  | ev :: rest => ((t.session ev.1).issued ev.2).map (ev.1, ·) ++ (t.after ev).issued rest

/-- A team, and what its sources have been asked since some point, oldest first. -/
structure Watched (ι : Type) (ρ α : ι → Type) where
  team : Team ι ρ α
  asked : List (ι × String × Nat) := []

/-- Takes one lookup through its turn, and reads off the record of the member's source what it was asked meanwhile. -/
def Watched.serve (w : Watched ι ρ α) (job : ι × Job) : Watched ι ρ α :=
  let known := (w.team.backend job.1).asked.length
  let team := w.team.serve job
  { team, asked := w.asked ++ ((team.backend job.1).asked.drop known).map (job.1, ·) }

/-- Runs the queue, and notes down what the sources are asked. -/
def watch (t : Team ι ρ α) : Watched ι ρ α := runQueue Watched.serve t.queue { team := { t with queue := [] } }

/-- Nothing is planned for the source of a member, and no lookup of the member goes on behind a gate. -/
structure Unscripted (t : Team ι ρ α) (i : ι) : Prop where
  plans : (t.backend i).plans = []
  asking : ∀ e ∈ t.queue, e.job.1 = i → e.job.2.asks.isSome

/-- The next run of the queue asks the sources for the given requests. -/
structure Overtakes (t : Team ι ρ α) (requests : List (ι × Request)) : Prop where
  /-- The interactive requests come first, then the background requests, both in the order in which they were issued. -/
  order : t.watch.asked = (requests.filter (fun q => (t.service q.1).priority = .interactive) ++
    requests.filter fun q => (t.service q.1).priority = .background).map question
  /-- No request is left out, and none comes twice. -/
  once : t.watch.asked.Perm (requests.map question)
  /-- A source is asked for the requests of its own member and for nothing else. -/
  own : ∀ i, (t.tick.backend i).asked
    = (t.backend i).asked ++ (requestsOf i requests).map Request.question
  /-- What a source itself answers to a request is delivered to the member that issued it. -/
  answered : ∀ i, t.Unscripted i → (t.tick.service i).inbox
    = (t.service i).inbox ++ (requestsOf i requests).map (t.backend i).source.response
  /-- Noting down what is asked does not change the run. -/
  same : t.watch.team = t.tick

/-- The member that takes a step does so by itself. -/
theorem session_step_self (t : Team ι ρ α) (i : ι)
    (f : Session (Service (α i)) (ρ i) (α i) → Session (Service (α i)) (ρ i) (α i)) :
    (t.step i f).session i = { f (t.session i) with queue := [] } := by
  simp [session, step]

/-- The others do nothing meanwhile. -/
theorem session_step_of_ne {i j : ι} (other : j ≠ i)
    (f : Session (Service (α i)) (ρ i) (α i) → Session (Service (α i)) (ρ i) (α i)) :
    (t.step i f).session j = t.session j := by
  simp [session, step, other]

/-- Services do not change their priorities. -/
theorem urgent_after (t : Team ι ρ α) (ev : (i : ι) × Session.Event (ρ i) (α i)) : (t.after ev).urgent = t.urgent := by
  funext j
  have kept : ((t.after ev).session j).widget.priority = (t.session j).widget.priority := by
    by_cases same : j = ev.1
    · subst same
      unfold after
      rw [session_step_self]
      exact (t.session ev.1).priority_after ev.2
    · unfold after
      rw [session_step_of_ne same]
  exact congrArg (fun priority => decide (priority = .interactive)) kept

/-- What an event adds to the queue holds the requests that it issues. -/
theorem exists_arrivals (t : Team ι ρ α) (ev : (i : ι) × Session.Event (ρ i) (α i)) :
    ∃ arrivals, (t.after ev).queue = t.queue ++ arrivals ∧
      Holds t.urgent arrivals (((t.session ev.1).issued ev.2).map (ev.1, ·)) := by
  refine ⟨((t.session ev.1).after ev.2).queue.map (place ev.1), rfl, ?_⟩
  rcases (t.session ev.1).queue_after ev.2 with queue | ⟨none, jobs, silent, queue⟩
  · rw [queue]
    exact .queued t ev.1 _
  · rw [queue, none]
    exact .resumed ev.1 silent

/-- Whatever happens to a team, its queue holds the lookups of the requests that were issued. -/
theorem Holds.follow {requests : List (ι × Request)} (holds : Holds t.urgent t.queue requests)
    (events : List ((i : ι) × Session.Event (ρ i) (α i))) :
    Holds (t.follow events).urgent (t.follow events).queue (requests ++ t.issued events) := by
  induction events generalizing t requests with
  | nil => simpa [Team.follow, issued] using holds
  | cons ev rest ih =>
    obtain ⟨arrivals, queue, arrived⟩ := t.exists_arrivals ev
    have next : Holds (t.after ev).urgent (t.after ev).queue
        (requests ++ ((t.session ev.1).issued ev.2).map (ev.1, ·)) := by
      rw [urgent_after, queue]
      exact holds.append arrived
    have later := ih next
    rw [List.append_assoc] at later
    exact later

theorem queue_serve (t : Team ι ρ α) (job : ι × Job) : (t.serve job).queue = t.queue := by
  unfold serve step
  rw [(Session.serve_frame _ _).1]
  exact List.append_nil _

/-- A run leaves the queue empty. -/
theorem queue_tick (t : Team ι ρ α) : t.tick.queue = [] :=
  runQueue_keeps (fun t : Team ι ρ α => t.queue = []) (fun t job empty => (t.queue_serve job).trans empty) t.queue rfl

/-- The jobs of one member. -/
def jobsOf (i : ι) (jobs : List (ι × Job)) : List Job := (jobs.filter fun job => job.1 = i).map Prod.snd

theorem asks_jobsOf (i : ι) (jobs : List (ι × Job)) :
    (jobsOf i jobs).filterMap Job.asks = requestsOf i (jobs.filterMap asks) := by
  induction jobs with
  | nil => rfl
  | cons job rest ih =>
    obtain ⟨j, job⟩ := job
    by_cases own : j = i <;> cases asked : job.asks <;> simp_all [jobsOf, requestsOf, asks]

/-- A member whose jobs all ask has a job for each of its requests. -/
theorem jobsOf_eq_map {i : ι} {jobs : List (ι × Job)} (asking : ∀ job ∈ jobsOf i jobs, job.asks.isSome) :
    jobsOf i jobs = (requestsOf i (jobs.filterMap asks)).map Job.ask := by
  rw [← asks_jobsOf]
  generalize jobsOf i jobs = own at asking
  induction own with
  | nil => rfl
  | cons job rest ih =>
    obtain ⟨first, later⟩ := List.forall_mem_cons.1 asking
    cases job with
    | ask r => exact congrArg (Job.ask r :: ·) (ih later)
    | resume r gate => cases first

theorem requestsOf_append (i : ι) (requests later : List (ι × Request)) :
    requestsOf i (requests ++ later) = requestsOf i requests ++ requestsOf i later := by
  simp [requestsOf]

/-- To select requests by their members is to keep all of those of a member, or none. -/
theorem requestsOf_filter (p : ι → Bool) (i : ι) (requests : List (ι × Request)) :
    requestsOf i (requests.filter fun q => p q.1) = if p i then requestsOf i requests else [] := by
  induction requests with
  | nil => simp [requestsOf]
  | cons q rest ih =>
    unfold requestsOf at ih ⊢
    by_cases own : q.1 = i <;> cases kept : p i <;> cases first : p q.1 <;> simp_all

/-- The requests of a member all have its priority, so to put some priority first does not change their order. -/
theorem requestsOf_urgent_first (urgent : ι → Bool) (i : ι) (requests : List (ι × Request)) :
    requestsOf i ((requests.filter fun q => urgent q.1) ++ requests.filter fun q => !urgent q.1)
      = requestsOf i requests := by
  rw [requestsOf_append, requestsOf_filter urgent, requestsOf_filter fun j => !urgent j]
  cases urgent i <;> simp

/-- A member comes out of its turn as it would without the others. -/
theorem session_serve_self (t : Team ι ρ α) (i : ι) (job : Job) :
    (t.serve (i, job)).session i = (t.session i).serve job := by
  have empty : ((t.session i).serve job).queue = [] := ((t.session i).serve_frame job).1
  show (t.step i (·.serve job)).session i = _
  rw [session_step_self]
  generalize (t.session i).serve job = s at empty ⊢
  obtain ⟨widget, backend, entries⟩ := s
  obtain rfl : entries = [] := empty
  rfl

theorem session_foldl_serve (jobs : List (ι × Job)) (t : Team ι ρ α) (i : ι) :
    (jobs.foldl serve t).session i = (jobsOf i jobs).foldl Session.serve (t.session i) := by
  induction jobs generalizing t with
  | nil => rfl
  | cons job rest ih =>
    obtain ⟨j, job⟩ := job
    rw [List.foldl_cons, ih]
    by_cases own : j = i
    · subst own
      simp [jobsOf, session_serve_self]
    · have others : (t.serve (j, job)).session i = t.session i := session_step_of_ne (Ne.symm own) _
      simp [jobsOf, own, others]

/-- Turns that are watched are taken as they would have been, and what is noted down is what their jobs ask. -/
theorem foldl_watched (jobs : List (ι × Job)) (w : Watched ι ρ α) : jobs.foldl Watched.serve w
    = { team := jobs.foldl serve w.team, asked := w.asked ++ (jobs.filterMap asks).map question } := by
  induction jobs generalizing w with
  | nil => simp
  | cons job rest ih =>
    have asked : ((w.team.serve job).backend job.1).asked
        = (w.team.backend job.1).asked ++ (job.2.asks.map Request.question).toList := by
      show ((w.team.serve (job.1, job.2)).session job.1).backend.asked = _
      rw [session_serve_self, (Session.serve_frame _ _).2]
      exact ScriptedSource.asked_serve _ _
    rw [List.foldl_cons, ih]
    unfold Watched.serve
    dsimp only
    rw [asked, List.drop_left]
    cases request : job.2.asks <;> simp [asks, request, question]

/-- A queue is run with the lookups of urgent members first. -/
theorem Holds.overtakes {requests : List (ι × Request)} (holds : Holds t.urgent t.queue requests) :
    t.Overtakes requests := by
  let jobs := promptJobs t.queue ++ patientJobs t.queue
  have ticked : t.tick = jobs.foldl serve { t with queue := [] } := runQueue_once serve holds.once _
  have member (i : ι) : t.tick.session i = (jobsOf i jobs).foldl Session.serve (t.session i) := by
    rw [ticked]
    exact session_foldl_serve jobs _ i
  have asked : jobs.filterMap asks = (requests.filter fun q => t.urgent q.1) ++ requests.filter fun q => !t.urgent q.1 := by
    rw [List.filterMap_append, holds.prompt, holds.patient]
  have watched : t.watch = { team := t.tick, asked := (jobs.filterMap asks).map question } := by
    unfold watch
    rw [runQueue_once _ holds.once, foldl_watched, ticked, List.nil_append]
  have background : (fun q : ι × Request => !t.urgent q.1) = fun q => decide ((t.service q.1).priority = .background) := by
    funext q
    unfold urgent
    cases (t.service q.1).priority <;> rfl
  constructor
  case order =>
    rw [watched, asked, background]
    rfl
  case once =>
    rw [watched, asked]
    exact (List.filter_append_perm _ requests).map question
  case own =>
    intro i
    have record := Session.asked_foldl_serve (jobsOf i jobs) (t.session i)
    rw [← member, asks_jobsOf, asked, requestsOf_urgent_first] at record
    exact record
  case answered =>
    intro i unscripted
    have asking : ∀ job ∈ jobsOf i jobs, job.asks.isSome := by
      intro job listed
      obtain ⟨⟨j, _⟩, there, rfl⟩ := List.mem_map.1 listed
      obtain ⟨inside, own⟩ := List.mem_filter.1 there
      obtain ⟨e, queued, same⟩ := exists_entry_of_mem inside
      have asks := unscripted.asking e queued (same ▸ of_decide_eq_true own)
      rw [same] at asks
      exact asks
    have inbox := Session.inbox_foldl_serve (s := t.session i) unscripted.plans (requestsOf i requests)
    rw [← requestsOf_urgent_first t.urgent, ← asked, ← jobsOf_eq_map asking, ← member, asked,
      requestsOf_urgent_first] at inbox
    exact inbox
  case same => rw [watched]

/-- **Interactive lookups overtake background lookups.** Whatever happens to a team between two runs of its queue, the second
run asks the sources for the interactive requests first and for the background requests afterwards, once for each. -/
theorem overtakes_tick (t : Team ι ρ α) (events : List ((i : ι) × Session.Event (ρ i) (α i))) :
    (t.tick.follow events).Overtakes (t.tick.issued events) := by
  have empty : Holds t.tick.urgent t.tick.queue [] := by
    rw [queue_tick]
    exact .nil
  exact (empty.follow events).overtakes

/-- A background search and interactive suggestions that are typed between its pages. -/
theorem overtakes_tick_cats :
    let t : Team Bool (fun _ => String) (fun _ => String) := {
      service := fun interactive => { priority := if interactive then .interactive else .background }
      backend := fun _ => { source := .direct fun query _ => .ready [query, "cat"] } }
    let events : List ((_ : Bool) × Session.Event String String) :=
      [⟨false, .issue "wildcat" 0⟩, ⟨true, .issue "c" 0⟩, ⟨false, .issue "wildcat" 1⟩, ⟨true, .issue "ca" 0⟩]
    let later := t.tick.follow events
    later.watch.asked = [(true, "c", 0), (true, "ca", 0), (false, "wildcat", 0), (false, "wildcat", 1)] ∧
      (later.tick.backend true).asked = [("c", 0), ("ca", 0)] ∧ later.Unscripted true ∧
      (later.tick.service true).inbox = [⟨1, .ready ["c", "cat"]⟩, ⟨2, .ready ["ca", "cat"]⟩] := by
  intro t events
  have fresh : t.tick = t := by
    unfold tick
    rw [runQueue]
  have overtakes := overtakes_tick t events
  rw [fresh] at overtakes ⊢
  intro later
  have unscripted : later.Unscripted true := ⟨rfl, by decide⟩
  exact ⟨overtakes.order, overtakes.own true, unscripted, overtakes.answered true unscripted⟩

end Team

end StickerBook.Lookup
