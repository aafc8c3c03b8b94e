import StickerBook.Editor.StickerEditor
import StickerBook.Suggest.Package
import StickerBook.Suggest.Tag

/-!
# Editor sessions

An editor at work, with a source for its packages and one for its tags. The lookups of both boxes
wait in one run queue. What can be done with a box is said once (`Box`), and each box does it in its own place.
-/

namespace StickerBook.Editor
set_option autoImplicit false
open Lookup (Job Outcome Plan Queued ScriptedSource Widget queueEntry runQueue)

/-- A lookup of one of the two boxes. -/
inductive BoxJob where
  | packages (job : Job)
  | tagBox (job : Job)
deriving DecidableEq, Repr

/-- An editor at work. -/
structure EditorSession where
  editor : StickerEditor
  packageBackend : ScriptedSource String (Choice String)
  tagBackend : ScriptedSource Tag (Choice Tag)
  queue : List (Queued BoxJob) := []

/-- One of the two boxes: where the editor keeps it, where its source is, and what its lookups are in the queue. -/
structure Box (β : Type) where
  widget : StickerEditor → Combobox β
  withWidget : StickerEditor → Combobox β → StickerEditor
  backend : EditorSession → ScriptedSource β (Choice β)
  withBackend : EditorSession → ScriptedSource β (Choice β) → EditorSession
  job : Job → BoxJob

namespace Box
variable {β : Type}

/-- The box for packages. -/
def packages : Box String where
  widget e := e.packages
  withWidget e packages := { e with packages }
  backend s := s.packageBackend
  withBackend s packageBackend := { s with packageBackend }
  job := .packages

/-- The box for tags. -/
def tags : Box Tag where
  widget e := e.tagBox
  withWidget e tagBox := { e with tagBox }
  backend s := s.tagBackend
  withBackend s tagBackend := { s with tagBackend }
  job := .tagBox

/-- Queues the request of a box, if there is one. -/
def enqueue (box : Box β) (s : EditorSession) (request : Option Lookup.Request) : EditorSession :=
  let entries := request.toList.map (queueEntry (box.widget s.editor).service.priority)
  { s with queue := s.queue ++ entries.map fun t => { job := box.job t.job, yields := t.yields } }

/-- Takes one lookup through its turn and delivers its response. -/
def serve (box : Box β) (s : EditorSession) (job : Job) : EditorSession :=
  let (response, backend) := (box.backend s).serve job
  let widget := box.widget s.editor
  box.withBackend { s with editor := box.withWidget s.editor (response.elim widget (Widget.deliver widget)) } backend

/-- Takes responses out of the inbox of a box as long as its newest request waits for its own. -/
def settleInbox (box : Box β) (s : EditorSession) : Bool × EditorSession :=
  (Widget.settle (box.widget s.editor)).map id fun widget => { s with editor := box.withWidget s.editor widget }

/-- Adds a plan. -/
def plan (box : Box β) (s : EditorSession) (p : Plan β) : EditorSession := box.withBackend s ((box.backend s).plan p)

/-- Goes on with lookups that a gate has let through. -/
def resume (box : Box β) (s : EditorSession) (passed : List Job × ScriptedSource β (Choice β)) : EditorSession :=
  box.withBackend { s with queue := s.queue ++ passed.1.map ({ job := box.job · }) } passed.2

/-- Opens a gate. -/
def openGate (box : Box β) (s : EditorSession) (gate : String) (outcome : Outcome β) : EditorSession :=
  box.resume s ((box.backend s).openGate gate outcome)

/-- Drops a gate. -/
def dropGate (box : Box β) (s : EditorSession) (gate : String) : EditorSession :=
  box.resume s ((box.backend s).dropGate gate)

end Box

namespace EditorSession

/-- Queues the request of a reply, if it has issued one. -/
def enqueue (s : EditorSession) : StickerEditor.Reply → EditorSession
  | .packages reply => Box.packages.enqueue s reply.request?
  | .tagBox reply => Box.tags.enqueue s reply.request?
  | _ => s

/-- Takes an action, and queues the lookup that it issues. -/
def act (s : EditorSession) (action : StickerEditor.Action) :
    Effect StickerEditor.Reply Change EditorSession :=
  let e := s.editor.act action
  e.lift id fun editor => enqueue { s with editor } e.result

/-- Takes one lookup through its turn and delivers its response. -/
def serve (s : EditorSession) : BoxJob → EditorSession
  | .packages job => Box.packages.serve s job
  | .tagBox job => Box.tags.serve s job

/-- Runs the queue until it is empty. -/
def tick (s : EditorSession) : EditorSession := runQueue serve s.queue { s with queue := [] }

/-- Waits until the newest request of a box has its response. The result is `none` if it cannot come. -/
def settle {β : Type} (s : EditorSession) (box : Box β) : Option Bool × EditorSession :=
  let (changed, s) := box.settleInbox s
  if Widget.isPending (box.widget s.editor) then
    let (changed', s) := box.settleInbox s.tick
    (if Widget.isPending (box.widget s.editor) then none else some (changed || changed'), s)
  else (some changed, s)

/-- Waits for the package box. -/
def settlePackages (s : EditorSession) : Option Bool × EditorSession := s.settle .packages

/-- Waits for the tag box. -/
def settleTags (s : EditorSession) : Option Bool × EditorSession := s.settle .tags

/-- Adds a plan for the packages. -/
def planPackages (s : EditorSession) (p : Plan String) : EditorSession := Box.packages.plan s p

/-- Adds a plan for the tags. -/
def planTags (s : EditorSession) (p : Plan Tag) : EditorSession := Box.tags.plan s p

/-- Opens a gate of the packages. -/
def openPackageGate (s : EditorSession) (gate : String) (outcome : Outcome String) : EditorSession :=
  Box.packages.openGate s gate outcome

/-- Opens a gate of the tags. -/
def openTagGate (s : EditorSession) (gate : String) (outcome : Outcome Tag) : EditorSession :=
  Box.tags.openGate s gate outcome

/-- Drops a gate of the packages. -/
def dropPackageGate (s : EditorSession) (gate : String) : EditorSession :=
  Box.packages.dropGate s gate

/-- Drops a gate of the tags. -/
def dropTagGate (s : EditorSession) (gate : String) : EditorSession :=
  Box.tags.dropGate s gate

end EditorSession

end StickerBook.Editor
