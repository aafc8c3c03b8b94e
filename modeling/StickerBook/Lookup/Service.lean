import StickerBook.Lookup.Coordinator

/-!
# Lookup services

A service issues the requests of one widget and keeps the items on show. Responses wait in an inbox
until the widget takes them out, one by one or all at once.
-/

namespace StickerBook.Lookup
set_option autoImplicit false
variable {α : Type}

/-- How urgent the lookups of a service are. Background lookups let others go first. -/
inductive Priority where
  | interactive
  | background
deriving DecidableEq, Repr

/-- The state of a service. `resultQuery` is the request that the items on show answer. -/
structure Service (α : Type) where
  priority : Priority
  coordinator : Coordinator := {}
  inbox : List (Response α) := []
  results : List α := []
  resultQuery : Option Request := none
  lastRequest : Option Request := none
deriving DecidableEq, Repr

namespace Service

/-- The newest request still waits for its response. -/
def isPending (s : Service α) : Bool := s.coordinator.isPending

/-- Issues a request, which supersedes all earlier ones. -/
def issue (s : Service α) (query : String) (page : Nat) : Request × Service α :=
  let (request, coordinator) := s.coordinator.issue query page
  (request, { s with coordinator, lastRequest := some request })

/-- Puts a response into the inbox. -/
def deliver (s : Service α) (r : Response α) : Service α := { s with inbox := s.inbox ++ [r] }

/-- Applies a response and says whether the items on show were replaced. -/
def apply (s : Service α) (r : Response α) : Bool × Service α :=
  match s.coordinator.accept r with
  | (.apply items, coordinator) =>
    (true, { s with coordinator, results := items, resultQuery := s.lastRequest })
  | (_, coordinator) => (false, { s with coordinator })

/-- Applies responses in order and says whether one of them replaced the items on show. -/
def applyAll (s : Service α) : List (Response α) → Bool × Service α
  | [] => (false, s)
  | r :: rest =>
    let (changed, s) := s.apply r
    let (more, s) := s.applyAll rest
    (changed || more, s)

/-- Applies everything in the inbox. -/
def drain (s : Service α) : Bool × Service α := { s with inbox := [] }.applyAll s.inbox

/-- Applies the first response of the inbox; without one, nothing happens. -/
def receive (s : Service α) : Option (Bool × Service α) :=
  match s.inbox with
  | [] => none
  | r :: rest => some ({ s with inbox := rest }.apply r)

/-- Applies responses in order until the newest request has its response; the others stay in the inbox. -/
def applyUntilSettled (s : Service α) : List (Response α) → Bool × Service α
  | [] => (false, { s with inbox := [] })
  | r :: rest =>
    if s.isPending then
      let (changed, s) := s.apply r
      let (more, s) := s.applyUntilSettled rest
      (changed || more, s)
    else (false, { s with inbox := r :: rest })

/-- Takes responses out of the inbox as long as the newest request waits for its own. -/
def settle (s : Service α) : Bool × Service α := s.applyUntilSettled s.inbox

end Service

end StickerBook.Lookup
