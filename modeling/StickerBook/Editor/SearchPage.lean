import StickerBook.Lookup.Session
import StickerBook.Sticker

/-!
# Search pages

A search page shows one page of what a search text finds. A change of the text or of the page number
issues one request for both; a change of the text keeps the page number.
-/

namespace StickerBook.Editor
set_option autoImplicit false
open Lookup (Request Service Widget)

/-- The state of a search page. -/
structure SearchPage where
  service : Service Thumb := { priority := .background }
  input : String := ""
  page : Nat := 0
deriving DecidableEq, Repr

namespace SearchPage

/-- Issues a request for the text and the page number. -/
def lookUp (p : SearchPage) : Request × SearchPage :=
  let (request, service) := p.service.issue p.input p.page
  (request, { p with service })

/-- The page with an empty text, and its first request. -/
def start : Request × SearchPage := lookUp {}

/-- Replaces the text. -/
def setInput (p : SearchPage) (text : String) : Option Request × SearchPage :=
  if text = p.input then (none, p) else { p with input := text }.lookUp.map some id

/-- Replaces the page number. -/
def setPage (p : SearchPage) (page : Nat) : Option Request × SearchPage :=
  if page = p.page then (none, p) else { p with page }.lookUp.map some id

/-- The rows on show. -/
def rows (p : SearchPage) : List Thumb := p.service.results

instance : Widget SearchPage Thumb where
  service := SearchPage.service
  withService p service := { p with service }
  refreshed p := p

end SearchPage

end StickerBook.Editor
