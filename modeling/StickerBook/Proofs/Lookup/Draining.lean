import StickerBook.Proofs.Lookup.Event

/-!
# Ways to take responses in

A widget may take the responses in its inbox one by one, all at once, or up to the one that it waits for. Whatever it takes
first, draining the inbox afterwards ends as draining it at once (`drain_act`), so only how far it got can tell two ways
apart, and all ways that leave nothing end alike (`takes_alike`).
-/

namespace StickerBook.Lookup.Service
set_option autoImplicit false
variable {α : Type} {s : Service α}

/-- The answer to an event: whether it replaced the items on show. -/
def answer (s : Service α) : Event α → Bool
  | .issue _ _ | .deliver _ => false
  | .apply r => (s.apply r).1
  | .receive => s.receive.elim false Prod.fst
  | .drain => s.drain.1
  | .settle => s.settle.1

/-- The service after some events, and whether one of them replaced the items on show. -/
def actAll (s : Service α) : List (Event α) → Bool × Service α
  | [] => (false, s)
  | e :: rest =>
    let (more, s') := (s.act e).actAll rest
    (s.answer e || more, s')

/-- Responses can be taken in in any way. -/
structure TakesAlike (s : Service α) : Prop where
  /-- All ways that leave no response in the inbox end alike, with the same answer. -/
  anyhow : ∀ events : List (Event α), (∀ e ∈ events, e.takes = true) → (s.actAll events).2.inbox = [] →
    s.actAll events = s.drain
  oneByOne : s.actAll (.replicate s.inbox.length .receive) = s.drain
  settledFirst : s.actAll [.settle, .drain] = s.drain
  /-- A service that waits for a response in its inbox settles with the first one to its newest request. It leaves the
  responses behind that one in the inbox, and answers whether that one replaced the items on show. -/
  settles : s.isPending = true → (∃ r ∈ s.inbox, r.seq = s.coordinator.issued) →
    ∃ front r rest, s.inbox = front ++ r :: rest ∧ r.seq = s.coordinator.issued ∧
      (∀ r' ∈ front, r'.seq ≠ s.coordinator.issued) ∧
      s.settle = (r.outcome.replaces, { s with
        inbox := rest
        coordinator := { s.coordinator with accepted := s.coordinator.issued }
        results := r.outcome.onto s.results
        resultQuery := if r.outcome.replaces then s.lastRequest else s.resultQuery })

theorem drain_of_inbox (s : Service α) (inbox : List (Response α)) :
    { s with inbox }.drain = { s with inbox := [] }.applyAll inbox := rfl

theorem drain_empty (empty : s.inbox = []) : s.drain = (false, s) := by
  unfold drain
  rw [empty]
  exact congrArg (fun inbox => (false, { s with inbox })) empty.symm

theorem inbox_drain (s : Service α) : s.drain.2.inbox = [] := by
  unfold drain
  rw [applyAll_withInbox]

/-- To take one response in and then the others is to take all of them in. -/
theorem drain_receive (s : Service α) (r : Response α) (rest : List (Response α)) :
    (({ s with inbox := rest }.apply r).1 || ({ s with inbox := rest }.apply r).2.drain.1,
      ({ s with inbox := rest }.apply r).2.drain.2) = { s with inbox := r :: rest }.drain := by
  rw [apply_withInbox, drain_of_inbox, drain_of_inbox]
  simp only [applyAll, apply_withInbox]

/-- To settle and then take in what is left is to take in everything. -/
theorem drain_applyUntilSettled (s : Service α) (rs : List (Response α)) :
    ((s.applyUntilSettled rs).1 || (s.applyUntilSettled rs).2.drain.1, (s.applyUntilSettled rs).2.drain.2)
      = { s with inbox := rs }.drain := by
  induction rs generalizing s with
  | nil => rfl
  | cons r rest ih =>
    unfold applyUntilSettled
    split
    · rw [← drain_receive s r rest, apply_withInbox s rest r]
      dsimp only
      rw [← ih (s.apply r).2, Bool.or_assoc]
    · rfl

/-- Whatever is taken in first, the rest can be taken in afterwards. -/
theorem drain_act {e : Event α} (takes : e.takes = true) :
    (s.answer e || (s.act e).drain.1, (s.act e).drain.2) = s.drain := by
  cases e with
  | issue | deliver | apply => cases takes
  | drain =>
    show (s.drain.1 || s.drain.2.drain.1, s.drain.2.drain.2) = s.drain
    rw [drain_empty s.inbox_drain, Bool.or_false]
  | receive =>
    cases inbox : s.inbox with
    | nil => simp [answer, act, receive, inbox]
    | cons r rest =>
      have whole : { s with inbox := r :: rest } = s := by rw [← inbox]
      have received := drain_receive s r rest
      rw [whole] at received
      simpa only [answer, act, receive, inbox, Option.elim] using received
  | settle => exact drain_applyUntilSettled s s.inbox

theorem actAll_append (s : Service α) (events more : List (Event α)) :
    s.actAll (events ++ more) = ((s.actAll events).1 || ((s.actAll events).2.actAll more).1,
      ((s.actAll events).2.actAll more).2) := by
  induction events generalizing s with
  | nil => rfl
  | cons e rest ih =>
    rw [List.cons_append, actAll, ih]
    simp only [actAll, Bool.or_assoc]

theorem actAll_drain (s : Service α) : s.actAll [.drain] = s.drain := by
  show (s.drain.1 || false, s.drain.2) = s.drain
  rw [Bool.or_false]

/-- However responses are taken in first, draining ends as it would have ended at once. -/
theorem drain_actAll {events : List (Event α)} (taking : ∀ e ∈ events, e.takes = true) :
    s.actAll (events ++ [.drain]) = s.drain := by
  induction events generalizing s with
  | nil => exact s.actAll_drain
  | cons e rest ih =>
    rw [List.cons_append, actAll, ih fun e' member => taking e' (List.mem_cons_of_mem _ member)]
    exact drain_act (taking e List.mem_cons_self)

/-- Nothing is left to drain once the inbox is empty. -/
theorem actAll_of_emptied {events : List (Event α)} (taking : ∀ e ∈ events, e.takes = true)
    (emptied : (s.actAll events).2.inbox = []) : s.actAll events = s.drain := by
  have drained := drain_actAll (s := s) taking
  rw [actAll_append, actAll_drain, drain_empty emptied, Bool.or_false] at drained
  exact drained

/-- As many turns as there are responses take all of them in. -/
theorem inbox_receiveAll (s : Service α) : (s.actAll (.replicate s.inbox.length .receive)).2.inbox = [] := by
  generalize responses : s.inbox = rs
  induction rs generalizing s with
  | nil => exact responses
  | cons r rest ih =>
    have received : s.act .receive = ({ s with inbox := rest }.apply r).2 := by
      simp only [act, receive, responses, Option.elim]
    show ((s.act .receive).actAll (.replicate rest.length .receive)).2.inbox = []
    refine ih _ ?_
    rw [received, apply_withInbox]

/-- Without a request to wait for, all responses stay in the inbox. -/
theorem applyUntilSettled_settled (settled : s.isPending = false) (rs : List (Response α)) :
    s.applyUntilSettled rs = (false, { s with inbox := rs }) := by
  cases rs with
  | nil => rfl
  | cons r rest =>
    unfold applyUntilSettled
    rw [settled]
    rfl

/-- A service that waits takes in what stands before the response to its newest request, which does nothing, and that
response. -/
theorem applyUntilSettled_answered (waits : s.isPending = true) {front rest : List (Response α)} {r : Response α}
    (newest : r.seq = s.coordinator.issued) (others : ∀ r' ∈ front, r'.seq ≠ s.coordinator.issued) :
    s.applyUntilSettled (front ++ r :: rest) = ((s.apply r).1, { (s.apply r).2 with inbox := rest }) := by
  induction front with
  | nil =>
    have settled : (s.apply r).2.isPending = false :=
      Bool.eq_false_iff.2 fun waits => (isPending_apply_iff.1 waits).2 newest
    rw [List.nil_append, applyUntilSettled, if_pos waits]
    simp only [applyUntilSettled_settled settled, Bool.or_false]
  | cons r' front ih =>
    obtain ⟨other, others⟩ := List.forall_mem_cons.1 others
    have stale : s.coordinator.isCurrent r'.seq = false :=
      Bool.eq_false_iff.2 fun current => other (Coordinator.isCurrent_iff.1 current).1
    rw [List.cons_append, applyUntilSettled, if_pos waits, apply_stale stale]
    simp only [ih others, Bool.false_or]

/-- Of the responses with a number, one comes first. -/
theorem exists_first_answer {rs : List (Response α)} {seq : UInt64} (answered : ∃ r ∈ rs, r.seq = seq) :
    ∃ front r rest, rs = front ++ r :: rest ∧ r.seq = seq ∧ ∀ r' ∈ front, r'.seq ≠ seq := by
  have found : (rs.find? fun r => decide (r.seq = seq)).isSome := by simpa using answered
  obtain ⟨r, first⟩ := Option.isSome_iff_exists.1 found
  obtain ⟨same, front, rest, parts, others⟩ := List.find?_eq_some_iff_append.1 first
  exact ⟨front, r, rest, parts, of_decide_eq_true same, by simpa using others⟩

/-- **How responses are taken in does not matter**, in any state of a service. -/
theorem takes_alike (s : Service α) : s.TakesAlike where
  anyhow _ := actAll_of_emptied
  oneByOne := by
    refine actAll_of_emptied (fun e member => ?_) s.inbox_receiveAll
    rw [List.eq_of_mem_replicate member]
    rfl
  settledFirst := by
    have taking : ∀ e ∈ ([.settle] : List (Event α)), e.takes = true := fun e member => by
      rw [List.mem_singleton.1 member]
      rfl
    exact drain_actAll taking
  settles waits answered := by
    obtain ⟨front, r, rest, parts, newest, others⟩ := exists_first_answer answered
    have current : s.coordinator.isCurrent r.seq = true := by
      rw [newest, Coordinator.isCurrent_issued]
      exact waits
    refine ⟨front, r, rest, parts, newest, others, ?_⟩
    unfold settle
    rw [parts, applyUntilSettled_answered waits newest others, apply_current current, newest]

end StickerBook.Lookup.Service
