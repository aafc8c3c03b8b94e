import StickerBook.Proofs.Editor.Event

/-!
# Owners that do not listen to every field

Whether an owner listens to a field settles what it hears and nothing else: an editor whose owner listens to a part of
the fields goes through the same states as one whose owner listens to all of them, and its owner hears the changes of
that part (`follow_listenTo`).
-/

namespace StickerBook.Editor
set_option autoImplicit false

/-- The owner listens to what has changed. -/
def Listeners.hears (h : Listeners) : Change → Bool
  | .name _ => h.name
  | .package _ => h.package
  | .tags _ => h.tags
  | .fav _ => h.fav

namespace Effect
variable {β ε ε' σ τ : Type}

/-- The effect as an owner sees it that hears only some of the changes. `mark` notes in the state which ones. -/
def through (x : Effect β ε σ) (keep : ε → Bool) (mark : σ → σ) : Effect β ε σ where
  result := x.result
  changes := x.changes.filter keep
  state := mark x.state

/-- A change of a part is heard exactly if the change of the whole is. -/
theorem lift_through {keep : ε → Bool} {keep' : ε' → Bool} {mark : σ → σ} {mark' : τ → τ} {change : ε → ε'}
    {put put' : σ → τ} (kept : ∀ c, keep' (change c) = keep c) (marked : ∀ s, put' (mark s) = mark' (put s))
    (x : Effect β ε σ) : (x.through keep mark).lift change put' = (x.lift change put).through keep' mark' := by
  have same : keep' ∘ change = keep := funext kept
  unfold through lift
  rw [List.filter_map, same, marked]

end Effect

namespace LockableField
variable {α : Type}

/-- The field of an owner that listens to it, or does not. -/
def listen (heard : Bool) (f : LockableField α) : LockableField α := { f with heard }

theorem setValue_listen (f : LockableField α) (heard : Bool) (v : α) :
    (f.listen heard).setValue v = ((f.listen true).setValue v).through (fun _ => heard) (listen heard) := by
  cases heard <;> rfl

theorem reset_listen (f : LockableField α) (heard : Bool) :
    (f.listen heard).reset = (f.listen true).reset.through (fun _ => heard) (listen heard) := by
  unfold reset listen
  cases f.locked <;> cases heard <;> rfl

end LockableField

namespace TagList

/-- The list of an owner that listens to it, or does not. -/
def listen (heard : Bool) (l : TagList) : TagList := { l with heard }

theorem add_listen (l : TagList) (heard : Bool) (t : Tag) :
    (l.listen heard).add t = ((l.listen true).add t).through (fun _ => heard) (listen heard) := by
  by_cases present : t ∈ l.tags
  · simp [add, listen, present, Effect.through]
  · cases heard <;> simp [add, listen, present, report, Effect.through]

theorem remove_listen (l : TagList) (heard : Bool) (t : Tag) :
    (l.listen heard).remove t = ((l.listen true).remove t).through (fun _ => heard) (listen heard) := by
  by_cases present : t ∈ l.tags
  · cases heard <;> simp [remove, listen, present, report, Effect.through]
  · simp [remove, listen, present, Effect.through]

theorem togglePin_listen (l : TagList) (heard : Bool) (t : Tag) :
    (l.listen heard).togglePin t = (l.togglePin t).map id (listen heard) := by
  unfold togglePin listen
  split <;> rfl

theorem reset_listen (l : TagList) (heard : Bool) :
    (l.listen heard).reset = (l.listen true).reset.through (fun _ => heard) (listen heard) := by
  cases heard <;> rfl

end TagList

namespace Form
variable {β : Type} (h : Listeners) (f : Form)

/-- The form of an owner that listens to the given fields. -/
def listenTo : Form where
  name := f.name.listen h.name
  package := f.package.listen h.package
  tags := f.tags.listen h.tags
  nameInput := f.nameInput

theorem onName_listenTo (edit : LockableField String → Effect β String (LockableField String))
    (edited : ∀ g b, edit (.listen b g) = (edit (.listen true g)).through (fun _ => b) (.listen b)) :
    (f.listenTo h).onName (edit (f.listenTo h).name)
      = ((f.listenTo {}).onName (edit (f.listenTo {}).name)).through h.hears (listenTo h) := by
  have name := edited f.name h.name
  unfold onName listenTo
  rw [name]
  refine Effect.lift_through ?_ ?_ _ <;> exact fun _ => rfl

theorem onPackage_listenTo (edit : LockableField String → Effect β String (LockableField String))
    (edited : ∀ g b, edit (.listen b g) = (edit (.listen true g)).through (fun _ => b) (.listen b)) :
    (f.listenTo h).onPackage (edit (f.listenTo h).package)
      = ((f.listenTo {}).onPackage (edit (f.listenTo {}).package)).through h.hears (listenTo h) := by
  have package := edited f.package h.package
  unfold onPackage listenTo
  rw [package]
  refine Effect.lift_through ?_ ?_ _ <;> exact fun _ => rfl

theorem onTags_listenTo (edit : TagList → Effect β (List Tag) TagList)
    (edited : ∀ l b, edit (.listen b l) = (edit (.listen true l)).through (fun _ => b) (.listen b)) :
    (f.listenTo h).onTags (edit (f.listenTo h).tags)
      = ((f.listenTo {}).onTags (edit (f.listenTo {}).tags)).through h.hears (listenTo h) := by
  have tags := edited f.tags h.tags
  unfold onTags listenTo
  rw [tags]
  refine Effect.lift_through ?_ ?_ _ <;> exact fun _ => rfl

theorem reset_listenTo : (f.listenTo h).reset = (f.listenTo {}).reset.through h.hears (listenTo h) := by
  have name := f.name.reset_listen h.name
  have package := f.package.reset_listen h.package
  have tags := f.tags.reset_listen h.tags
  unfold Form.reset listenTo
  simp only [name, package, tags, Effect.through, List.filter_append, List.filter_map]
  rfl

end Form

namespace StickerEditor
variable {β : Type} (h : Listeners) (e : StickerEditor)

/-- The editor of an owner that listens to the given fields. -/
def listenTo : StickerEditor := { e with form := e.form.listenTo h, favHeard := h.fav }

theorem onForm_listenTo (edit : Form → Effect β Change Form)
    (edited : ∀ f, edit (.listenTo h f) = (edit (.listenTo {} f)).through h.hears (.listenTo h)) :
    (e.listenTo h).onForm (edit (e.listenTo h).form)
      = ((e.listenTo {}).onForm (edit (e.listenTo {}).form)).through h.hears (listenTo h) := by
  have form := edited e.form
  unfold onForm listenTo
  rw [form]
  refine Effect.lift_through ?_ ?_ _ <;> exact fun _ => rfl

theorem setName_listenTo (name : String) :
    (e.listenTo h).setName name = ((e.listenTo {}).setName name).through h.hears (listenTo h) :=
  onForm_listenTo h { e with form := { e.form with nameInput := name } } (fun f => f.onName (f.name.setValue name))
    fun f => f.onName_listenTo h (·.setValue name) fun g b => g.setValue_listen b name

theorem setPackage_listenTo (package : String) :
    (e.listenTo h).onForm ((e.listenTo h).form.onPackage ((e.listenTo h).form.package.setValue package))
      = ((e.listenTo {}).onForm
          ((e.listenTo {}).form.onPackage ((e.listenTo {}).form.package.setValue package))).through h.hears
        (listenTo h) :=
  onForm_listenTo h e (fun f => f.onPackage (f.package.setValue package))
    fun f => f.onPackage_listenTo h (·.setValue package) fun g b => g.setValue_listen b package

theorem addTag_listenTo (t : Tag) :
    (e.listenTo h).addTag t = ((e.listenTo {}).addTag t).through h.hears (listenTo h) :=
  onForm_listenTo h e (fun f => f.onTags (f.tags.add t))
    fun f => f.onTags_listenTo h (·.add t) fun l b => l.add_listen b t

theorem removeTag_listenTo (t : Tag) :
    (e.listenTo h).removeTag t = ((e.listenTo {}).removeTag t).through h.hears (listenTo h) :=
  onForm_listenTo h e (fun f => f.onTags (f.tags.remove t))
    fun f => f.onTags_listenTo h (·.remove t) fun l b => l.remove_listen b t

theorem setProps_listenTo (p : Props) :
    (e.listenTo h).setProps p = ((e.listenTo {}).setProps p).through h.hears (listenTo h) := by
  cases synced : e.packages.reconcile p.package with
  | mk outcome packages =>
    have same (h : Listeners) : (e.listenTo h).packages.reconcile p.package = (outcome, packages) := synced
    unfold setProps
    simp only [same]
    cases outcome with
    | unchanged | adopted => rfl
    | fellBack default =>
      -- The default package is set in a form that shows the other supplied values already.
      let form : Form := { e.form with
        nameInput := if e.form.name.value = p.name then e.form.nameInput else p.name
        name := e.form.name.sync p.name
        tags := e.form.tags.sync p.tags }
      exact setPackage_listenTo h { e with packages, fav := p.fav, preview := p.path, form } default

theorem selectPackage_listenTo (index : Nat) :
    (e.listenTo h).selectPackage index = ((e.listenTo {}).selectPackage index).through h.hears (listenTo h) := by
  cases selected : e.packages.select index with
  | mk chosen packages =>
    have same (h : Listeners) : (e.listenTo h).packages.select index = (chosen, packages) := selected
    unfold selectPackage
    simp only [same]
    cases chosen with
    | none => rfl
    | some name =>
      exact congrArg (Effect.map fun _ => some name) (setPackage_listenTo h { e with packages } name)

theorem pickTag_listenTo (index : Nat) :
    (e.listenTo h).pickTag index = ((e.listenTo {}).pickTag index).through h.hears (listenTo h) := by
  cases selected : e.tagBox.select index with
  | mk chosen tagBox =>
    have same (h : Listeners) : (e.listenTo h).tagBox.select index = (chosen, tagBox) := selected
    unfold pickTag
    simp only [same]
    cases chosen with
    | none => rfl
    | some t =>
      exact congrArg (Effect.map fun _ => some t) (addTag_listenTo h { e with tagBox := tagBox.writeInput "" } t)

theorem toggleFav_listenTo :
    (e.listenTo h).toggleFav = (e.listenTo {}).toggleFav.through h.hears (listenTo h) := by
  obtain ⟨name, package, tags, fav⟩ := h
  cases fav <;> rfl

theorem reset_listenTo : (e.listenTo h).reset = (e.listenTo {}).reset.through h.hears (listenTo h) := by
  have form := e.form.reset_listenTo h
  unfold reset OpenForm.reset listenTo Effect.lift
  simp only [form, List.map_id_fun, id_eq]
  rfl

theorem toggleTagPin_listenTo (t : Tag) :
    (e.listenTo h).toggleTagPin t = ((e.listenTo {}).toggleTagPin t).map id (listenTo h) := by
  have pins (h : Listeners) :
      (e.listenTo h).form.tags.togglePin t = (e.form.tags.togglePin t).map id (.listen h.tags) :=
    e.form.tags.togglePin_listen h.tags t
  unfold toggleTagPin
  rw [pins, pins]
  rfl

theorem writePackageInput_listenTo (text : String) :
    (e.listenTo h).writePackageInput text = ((e.listenTo {}).writePackageInput text).map id (listenTo h) := by
  have same (h : Listeners) : (e.listenTo h).packageInput? = e.packageInput? := rfl
  unfold writePackageInput
  rw [same, same]
  cases e.packageInput? <;> rfl

theorem act_listenTo (action : Action) :
    (e.listenTo h).act action = ((e.listenTo {}).act action).through h.hears (listenTo h) := by
  cases action with
  | packages | tagBox | refresh | lockName | lockPackage | setLockedTags | writeNameInput => rfl
  | setProps p => exact congrArg (Effect.map fun _ => Reply.done) (e.setProps_listenTo h p)
  | setName name => exact congrArg (Effect.map fun _ => Reply.done) (e.setName_listenTo h name)
  | selectPackage index => exact congrArg (Effect.map Reply.package) (e.selectPackage_listenTo h index)
  | pickTag index => exact congrArg (Effect.map Reply.tag) (e.pickTag_listenTo h index)
  | addTag t => exact congrArg (Effect.map Reply.flag) (e.addTag_listenTo h t)
  | removeTag t => exact congrArg (Effect.map Reply.flag) (e.removeTag_listenTo h t)
  | toggleFav => exact congrArg (Effect.map fun _ => Reply.done) (e.toggleFav_listenTo h)
  | reset => exact congrArg (Effect.map Reply.report) (e.reset_listenTo h)
  | toggleTagPin t => exact congrArg (silently Reply.flag) (e.toggleTagPin_listenTo h t)
  | writePackageInput text => exact congrArg (silently Reply.flag) (e.writePackageInput_listenTo h text)

/-- Listening to a field changes neither a reply nor what is heard of other fields. -/
theorem after_listenTo (ev : Event) :
    (e.listenTo h).after ev = ((e.listenTo {}).after ev).through h.hears (listenTo h) := by
  cases ev with
  | act action => exact e.act_listenTo h action
  | allowPins | answerPackages | answerTags | settlePackages | settleTags => rfl

/-- The fields that the owner listens to. -/
def listeners : Listeners where
  name := e.form.name.heard
  package := e.form.package.heard
  tags := e.form.tags.heard
  fav := e.favHeard

theorem listenTo_listeners : e.listenTo e.listeners = e := rfl

theorem listeners_after (ev : Event) : (e.after ev).state.listeners = e.listeners := by
  have heard := e.after_listenTo e.listeners ev
  rw [listenTo_listeners] at heard
  rw [heard]
  rfl

theorem listeners_follow (events : List Event) : (e.follow events).editor.listeners = e.listeners :=
  follow_keeps (fun e' => e'.listeners = e.listeners)
    (fun e' same ev _ => (e'.listeners_after ev).trans same) rfl

/-- The run as an owner sees it that listens to the given fields. -/
def Run.through (r : Run) : Run where
  editor := r.editor.listenTo h
  heard := r.heard.filter h.hears

/-- An owner that listens to a part of the fields hears their changes, and the editor takes the same way. -/
theorem follow_listenTo (full : e.listeners = {}) (events : List Event) :
    (e.listenTo h).follow events = (e.follow events).through h := by
  induction events generalizing e with
  | nil => rfl
  | cons ev rest ih =>
    -- The editor listens to every field after the event as well, which the induction goes on with.
    have all : e.listenTo {} = e := by rw [← full, listenTo_listeners]
    have first := e.after_listenTo h ev
    rw [all] at first
    have later := ih (e.after ev).state (by rw [listeners_after, full])
    rw [follow_cons, follow_cons, first]
    simp only [Effect.through, later, Run.through, List.filter_append]

end StickerEditor
end StickerBook.Editor
