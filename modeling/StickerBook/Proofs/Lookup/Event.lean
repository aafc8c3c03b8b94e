import StickerBook.Proofs.Lookup.Acceptance

/-!
# Events of a service

`Event` lists what can happen to a service, and `Service.act` is its state afterwards. An event issues
requests or applies responses (`act_eq_applyAll`); the responses are either handed in from outside or a
beginning of the inbox (`inbox_eq_taken_append`). So what is true of all items that come with responses is true of
the items on show (`Only.takes`).
-/

namespace StickerBook.Lookup
set_option autoImplicit false
variable {α : Type}

/-- What can happen to a service. Responses are delivered in any order, repeatedly or never, and may also
be handed in past the inbox. A widget that waits is one that receives or settles again after the next
delivery. -/
inductive Event (α : Type) where
  | issue (query : String) (page : Nat)
  | deliver (r : Response α)
  | apply (r : Response α)
  | receive
  | drain
  | settle

namespace Event

/-- The event takes responses out of the inbox. -/
def takes : Event α → Bool
  | .receive | .drain | .settle => true
  | _ => false

end Event

namespace Service

/-- The service after an event. -/
def act (s : Service α) : Event α → Service α
  | .issue query page => (s.issue query page).2
  | .deliver r => s.deliver r
  | .apply r => (s.apply r).2
  | .receive => s.receive.elim s Prod.snd
  | .drain => s.drain.2
  | .settle => s.settle.2

/-- The requests that an event issues. -/
def issued (s : Service α) : Event α → List Request
  | .issue query page => [(s.issue query page).1]
  | _ => []

/-- The responses that an event takes out of the inbox. -/
def taken (s : Service α) (e : Event α) : List (Response α) :=
  s.inbox.take (s.inbox.length - (s.act e).inbox.length)

/-- The responses that an event applies, in order. -/
def applied (s : Service α) : Event α → List (Response α)
  | .apply r => [r]
  | e => s.taken e

/-- Responses are applied without a look at the inbox. -/
theorem apply_withInbox (s : Service α) (inbox : List (Response α)) (r : Response α) :
    { s with inbox }.apply r = ((s.apply r).1, { (s.apply r).2 with inbox }) := by
  cases current : s.coordinator.isCurrent r.seq with
  | false =>
    rw [apply_stale current, apply_stale (s := { s with inbox }) current]
  | true =>
    rw [apply_current current, apply_current (s := { s with inbox }) current]

theorem applyAll_withInbox (s : Service α) (inbox : List (Response α)) (rs : List (Response α)) :
    { s with inbox }.applyAll rs = ((s.applyAll rs).1, { (s.applyAll rs).2 with inbox }) := by
  induction rs generalizing s with
  | nil => rfl
  | cons r rest ih =>
    simp only [applyAll, apply_withInbox, ih]

/-- To settle is to apply a beginning of the responses and to leave the others in the inbox. -/
theorem applyUntilSettled_eq (s : Service α) (rs : List (Response α)) :
    ∃ front rest, rs = front ++ rest ∧
      (s.applyUntilSettled rs).2 = { (s.applyAll front).2 with inbox := rest } := by
  induction rs generalizing s with
  | nil => exact ⟨[], [], rfl, rfl⟩
  | cons r rest ih =>
    unfold applyUntilSettled
    split
    · obtain ⟨front, left, parts, settled⟩ := ih (s.apply r).2
      refine ⟨r :: front, left, by rw [parts]; rfl, ?_⟩
      simp only [applyAll, settled]
    · exact ⟨[], r :: rest, rfl, rfl⟩

theorem results_applyAll {s : Service α} {rs : List (Response α)} (kept : (s.applyAll rs).1 = false) :
    (s.applyAll rs).2.results = s.results := by
  induction rs generalizing s with
  | nil => rfl
  | cons r rest ih =>
    obtain ⟨first, later⟩ := Bool.or_eq_false_iff.1 kept
    exact (ih later).trans (results_apply first)

theorem results_applyUntilSettled {s : Service α} {rs : List (Response α)} (kept : (s.applyUntilSettled rs).1 = false) :
    (s.applyUntilSettled rs).2.results = s.results := by
  induction rs generalizing s with
  | nil => rfl
  | cons r rest ih =>
    unfold applyUntilSettled at kept ⊢
    split at kept
    · next waits =>
      obtain ⟨first, later⟩ := Bool.or_eq_false_iff.1 kept
      rw [if_pos waits]
      exact (ih later).trans (results_apply first)
    · next settled =>
      rw [if_neg settled]

/-- None of several responses answers the newest request if a service still waits after them. -/
theorem isPending_applyAll_iff {s : Service α} {rs : List (Response α)} :
    (s.applyAll rs).2.isPending = true ↔ s.isPending = true ∧ ∀ r ∈ rs, r.seq ≠ s.coordinator.issued := by
  induction rs generalizing s with
  | nil => simp [applyAll]
  | cons r rest ih =>
    show ((s.apply r).2.applyAll rest).2.isPending = true ↔ _
    rw [ih, isPending_apply_iff, issued_apply, List.forall_mem_cons, and_assoc]

/-- A service that still waits after it settled has taken everything in. -/
theorem inbox_settle {s : Service α} (waits : s.settle.2.isPending = true) : s.settle.2.inbox = [] := by
  unfold settle at waits ⊢
  generalize s.inbox = rs at waits ⊢
  induction rs generalizing s with
  | nil => rfl
  | cons r rest ih =>
    unfold applyUntilSettled at waits ⊢
    split at waits
    · next before =>
      rw [if_pos before]
      exact ih waits
    · next settled => exact absurd waits settled

/-- An event that takes responses applies a beginning of the inbox and leaves the rest there. -/
theorem act_takes (s : Service α) {e : Event α} (takes : e.takes = true) :
    ∃ front rest, s.inbox = front ++ rest ∧ s.act e = { (s.applyAll front).2 with inbox := rest } := by
  cases e with
  | issue | deliver | apply => exact absurd takes (by simp [Event.takes])
  | receive =>
    cases inbox : s.inbox with
    | nil =>
      refine ⟨[], [], rfl, ?_⟩
      have same : s = { s with inbox := [] } := by rw [← inbox]
      simpa only [act, receive, inbox, Option.elim, applyAll] using same
    | cons r rest =>
      refine ⟨[r], rest, rfl, ?_⟩
      simp only [act, receive, inbox, Option.elim, apply_withInbox, applyAll]
  | drain =>
    refine ⟨s.inbox, [], by simp, ?_⟩
    simp only [act, drain, applyAll_withInbox]
  | settle => exact applyUntilSettled_eq s s.inbox

/-- What an event takes out of the inbox and what it leaves there make up the inbox. -/
theorem inbox_eq_taken_append (s : Service α) {e : Event α} (takes : e.takes = true) :
    s.inbox = s.taken e ++ (s.act e).inbox := by
  obtain ⟨front, rest, parts, acted⟩ := s.act_takes takes
  have left : (s.act e).inbox = rest := by rw [acted]
  unfold taken
  rw [left, parts, List.length_append, Nat.add_sub_cancel, List.take_left]

/-- Unless it issues a request, an event applies responses and changes nothing but the inbox besides. -/
theorem act_eq_applyAll (s : Service α) {e : Event α} (quiet : s.issued e = []) :
    s.act e = { (s.applyAll (s.applied e)).2 with inbox := (s.act e).inbox } := by
  cases takes : e.takes with
  | true =>
    obtain ⟨front, rest, parts, acted⟩ := s.act_takes takes
    have applied : s.applied e = front := by
      have whole := s.inbox_eq_taken_append takes
      rw [show (s.act e).inbox = rest by rw [acted], parts] at whole
      rw [show s.applied e = s.taken e by cases e <;> simp_all [Event.takes, Service.applied]]
      exact (List.append_cancel_right whole).symm
    rw [applied, acted]
  | false =>
    cases e with
    | issue => exact absurd quiet (by simp [issued])
    | deliver r => simp [act, applied, taken, deliver, applyAll]
    | apply r => simp [act, applied, applyAll]
    | receive | drain | settle => exact absurd takes (by simp [Event.takes])

/-- What a service shows, and what waits in its inbox to be shown, has the property. -/
structure Only (s : Service α) (p : α → Prop) : Prop where
  shown : ∀ a ∈ s.results, p a
  waiting : ∀ r ∈ s.inbox, ∀ a ∈ r.outcome.items, p a

namespace Only
variable {s : Service α} {p : α → Prop}

/-- Items are shown only if they were shown before or came with the response. -/
theorem shown_apply {r : Response α} (shown : ∀ a ∈ s.results, p a) (items : ∀ a ∈ r.outcome.items, p a) :
    ∀ a ∈ (s.apply r).2.results, p a := by
  rcases s.apply_cases r with dropped | ⟨-, -, accepted⟩
  · rw [dropped]
    exact shown
  · rw [accepted]
    unfold Outcome.onto
    dsimp only
    split
    · exact items
    · exact shown

theorem shown_applyAll {rs : List (Response α)} (shown : ∀ a ∈ s.results, p a)
    (items : ∀ r ∈ rs, ∀ a ∈ r.outcome.items, p a) : ∀ a ∈ (s.applyAll rs).2.results, p a := by
  induction rs generalizing s with
  | nil => exact shown
  | cons r rest ih =>
    exact ih (shown_apply shown (items r List.mem_cons_self)) fun r later => items r (List.mem_cons_of_mem _ later)

theorem takes (only : s.Only p) {e : Event α} (takes : e.takes = true) : (s.act e).Only p := by
  obtain ⟨front, rest, parts, acted⟩ := s.act_takes takes
  have waiting := only.waiting
  rw [parts] at waiting
  rw [acted]
  exact ⟨shown_applyAll only.shown fun r early => waiting r (List.mem_append_left _ early),
    fun r late => waiting r (List.mem_append_right _ late)⟩

theorem deliver (only : s.Only p) {r : Response α} (items : ∀ a ∈ r.outcome.items, p a) : (s.deliver r).Only p := by
  refine ⟨only.shown, fun r' member => ?_⟩
  rcases List.mem_append.1 member with before | new
  · exact only.waiting r' before
  · rw [List.mem_singleton.1 new]
    exact items

end Only

end Service

end StickerBook.Lookup
