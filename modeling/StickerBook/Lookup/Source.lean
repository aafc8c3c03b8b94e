import StickerBook.Lookup.Service
import StickerBook.Lookup.RunQueue

/-!
# Sources and scripts

A source answers requests. With a script, chosen lookups get a reply that was planned for them, at
once or when a gate is opened; a gate that is dropped instead makes its lookup fail. All other
lookups get the answer of the source.
-/

namespace StickerBook.Lookup
set_option autoImplicit false
variable {ρ α : Type}

/-- A source. It finds values of type `ρ` under a key, and presents them as the items of a query. -/
structure Source (ρ α : Type) where
  key : String → Nat → String × Nat
  find : String → Nat → Outcome ρ
  present : String → List ρ → List α

namespace Source

/-- The source whose items are what it finds for the query and page themselves. -/
def direct (find : String → Nat → Outcome α) : Source α α where
  key query page := (query, page)
  find := find
  present _ items := items

/-- The source whose items are what it finds for the query itself. It has one page, the first. -/
def unpaged (find : String → Nat → Outcome α) : Source α α where
  key query _ := (query, 0)
  find := find
  present _ items := items

/-- What a source itself answers to a query. -/
def answer (s : Source ρ α) (query : String) (page : Nat) : Outcome α :=
  let (key, keyPage) := s.key query page
  (s.find key keyPage).mapItems (s.present query)

end Source

/-- How a planned lookup ends. -/
inductive Planned (ρ : Type) where
  | reply (outcome : Outcome ρ)
  | gate (name : String)

/-- A plan for one lookup of a key. -/
structure Plan (ρ : Type) where
  query : String
  page : Nat
  ending : Planned ρ

/-- What a lookup does at its turn: ask the source, or go on behind an opened gate. -/
inductive Job where
  | ask (request : Request)
  | resume (request : Request) (gate : String)
deriving DecidableEq, Repr

/-- A source with its script. `opened` holds what was decided at each gate, `parked` the lookups that wait at gates, and
`asked` the queries and pages that the source has been asked for. -/
structure ScriptedSource (ρ α : Type) where
  source : Source ρ α
  plans : List (Plan ρ) := []
  opened : List (String × Outcome ρ) := []
  parked : List (String × Request) := []
  asked : List (String × Nat) := []

namespace ScriptedSource

/-- How often the source has been asked. -/
def fetched (s : ScriptedSource ρ α) : Nat := s.asked.length

/-- Adds a plan behind the others. -/
def plan (s : ScriptedSource ρ α) (p : Plan ρ) : ScriptedSource ρ α :=
  { s with plans := s.plans ++ [p] }

/-- What was decided at a gate. -/
def opened? (s : ScriptedSource ρ α) (gate : String) : Option (Outcome ρ) :=
  (s.opened.find? (·.1 = gate)).map Prod.snd

/-- Decides what comes through a gate, once, and says which lookups can go on. -/
def openGate (s : ScriptedSource ρ α) (gate : String) (outcome : Outcome ρ) :
    List Job × ScriptedSource ρ α :=
  if (s.opened? gate).isSome then ([], s)
  else
    let (ready, parked) := s.parked.partition (·.1 = gate)
    (ready.map fun (gate, request) => .resume request gate,
      { s with opened := s.opened ++ [(gate, outcome)], parked })

/-- Drops a gate that is still shut: what waits there fails. -/
def dropGate (s : ScriptedSource ρ α) (gate : String) : List Job × ScriptedSource ρ α :=
  s.openGate gate (.failed (.unavailable "gate dropped"))

/-- Asks for a page of a query. The lookup ends as its first plan says, which is used up, or else with the answer of the
source. -/
def takePlan (s : ScriptedSource ρ α) (query : String) (page : Nat) :
    Planned ρ × ScriptedSource ρ α :=
  let s := { s with asked := s.asked ++ [(query, page)] }
  let (query, page) := s.source.key query page
  match s.plans.find? fun p => p.query = query ∧ p.page = page with
  | none => (.reply (s.source.find query page), s)
  | some p => (p.ending, { s with
      plans := s.plans.eraseP fun p => decide (p.query = query ∧ p.page = page) })

/-- The response to a request, given what was found. -/
def respond (s : ScriptedSource ρ α) (r : Request) (outcome : Outcome ρ) : Response α where
  seq := r.seq
  outcome := outcome.mapItems (s.source.present r.query)

/-- Goes through a gate or waits at it. -/
def passGate (s : ScriptedSource ρ α) (r : Request) (gate : String) :
    Option (Response α) × ScriptedSource ρ α :=
  match s.opened? gate with
  | some outcome => (some (s.respond r outcome), s)
  | none => (none, { s with parked := s.parked ++ [(gate, r)] })

/-- Takes a lookup through its turn. It ends with a response unless it has to wait at a gate. -/
def serve (s : ScriptedSource ρ α) : Job → Option (Response α) × ScriptedSource ρ α
  | .ask r =>
    match s.takePlan r.query r.page with
    | (.reply outcome, s) => (some (s.respond r outcome), s)
    | (.gate gate, s) => s.passGate r gate
  | .resume r gate => s.passGate r gate

/-- A lookup for which nothing is planned ends with the answer of the source. -/
theorem serve_ask {s : ScriptedSource ρ α} {r : Request} (unplanned : s.plans = []) :
    s.serve (.ask r) = (some { seq := r.seq, outcome := s.source.answer r.query r.page },
      { s with asked := s.asked ++ [(r.query, r.page)] }) := by
  simp [serve, takePlan, unplanned, respond, Source.answer]

end ScriptedSource

end StickerBook.Lookup
