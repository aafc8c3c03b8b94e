import StickerBook.Editor.Effect
import StickerBook.Tag

/-!
# Tag lists

A tag list holds the tags of the edited sticker and the pinned tags, to which a reset brings it back.
Changes of the tags are reported to an owner that listens; pins are never reported. Tags can be
pinned by hand only in a lockable list.
-/

namespace StickerBook.Editor
set_option autoImplicit false

/-- A list of tags with its pins. `heard` says whether the owner listens to it. -/
structure TagList where
  tags : List Tag := []
  pinned : List Tag := []
  lockable : Bool := false
  heard : Bool := true
deriving DecidableEq, Repr

namespace TagList

/-- What the owner hears of the tags. -/
def report (l : TagList) : List (List Tag) := if l.heard then [l.tags] else []

/-- Takes over the tags of the owner. -/
def sync (l : TagList) (tags : List Tag) : TagList := { l with tags }

/-- Allows or forbids pinning. -/
def setLockable (l : TagList) (lockable : Bool) : TagList := { l with lockable }

/-- Appends a tag that does not occur yet. -/
def appendNew (tags : List Tag) (t : Tag) : List Tag := if t ∈ tags then tags else tags ++ [t]

/-- Replaces the pins; a repeated one counts once. -/
def setPinned (l : TagList) (pinned : List Tag) : TagList :=
  { l with pinned := pinned.foldl appendNew [] }

/-- A tag is pinned. -/
def isPinned (l : TagList) (t : Tag) : Bool := t ∈ l.pinned

/-- Adds a tag unless it is there. -/
def add (l : TagList) (t : Tag) : Effect Bool (List Tag) TagList :=
  if t ∈ l.tags then { result := false, state := l }
  else
    let l := { l with tags := l.tags ++ [t] }
    { result := true, changes := l.report, state := l }

/-- Removes the first occurrence of a tag and all its pins. -/
def remove (l : TagList) (t : Tag) : Effect Bool (List Tag) TagList :=
  if t ∈ l.tags then
    let l := { l with tags := l.tags.erase t, pinned := l.pinned.filter (· ≠ t) }
    { result := true, changes := l.report, state := l }
  else { result := false, state := l }

/-- Pins or unpins a listed tag, if the list is lockable. -/
def togglePin (l : TagList) (t : Tag) : Bool × TagList :=
  if l.lockable ∧ t ∈ l.tags then
    (true, { l with pinned := if t ∈ l.pinned then l.pinned.erase t else l.pinned ++ [t] })
  else (false, l)

/-- Brings the tags back to the pinned ones. -/
def reset (l : TagList) : Effect (List Tag) (List Tag) TagList :=
  let l := { l with tags := l.pinned }
  { result := l.pinned, changes := l.report, state := l }

end TagList

end StickerBook.Editor
