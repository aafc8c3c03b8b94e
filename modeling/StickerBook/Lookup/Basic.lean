/-!
# Lookups

A widget asks a source by numbered requests and gets one response to each. A response that is not
ready differs from one with no items: the former leaves what is shown alone, the latter clears it.
-/

namespace StickerBook.Lookup
set_option autoImplicit false

/-- Why a source has no answer. -/
inductive SourceError where
  | unavailable (text : String)
  | invalidQuery (text : String)
  | backend (text : String)
deriving DecidableEq, Repr

/-- The wording of a source error. -/
def SourceError.message : SourceError → String
  | .unavailable text => "source unavailable: " ++ text
  | .invalidQuery text => "invalid query: " ++ text
  | .backend text => "source backend error: " ++ text

/-- A request for one page of what a query finds. Its number identifies it. -/
structure Request where
  seq : UInt64
  query : String
  page : Nat
deriving DecidableEq, Repr

/-- What a source says to a request. -/
inductive Outcome (α : Type) where
  | ready (items : List α)
  | notReady
  | failed (error : SourceError)
deriving DecidableEq, Repr

/-- The outcome with its items replaced. -/
def Outcome.mapItems {α β : Type} (f : List α → List β) : Outcome α → Outcome β
  | .ready items => .ready (f items)
  | .notReady => .notReady
  | .failed error => .failed error

/-- The outcome of the request with the number `seq`. -/
structure Response (α : Type) where
  seq : UInt64
  outcome : Outcome α
deriving DecidableEq, Repr

end StickerBook.Lookup
