import Mathlib.Data.List.Nodup
import StickerBook.Proofs.Lookup.Tracking

/-!
# Exchanges between a service and its source

An `Exchange` keeps what passed between a service and its source: the requests, those still in flight, and
the replies, of which each request has at most one. It explains the state of the service
(`Exchange.Explains`): once the newest request is settled, what is on show is the reply to it, laid onto what
was on show when it was issued.
-/

namespace StickerBook.Lookup
set_option autoImplicit false
variable {α : Type}

/-- What passed between a service and its source. `shownBefore` are the items that were on show when the
newest request was issued. -/
structure Exchange (α : Type) where
  requests : List Request := []
  inFlight : List Request := []
  replies : List (Request × Outcome α) := []
  shownBefore : List α := []

namespace Exchange

/-- A request goes out, if there is one, while the given items are on show. -/
def issue (x : Exchange α) (shown : List α) : Option Request → Exchange α
  | none => x
  | some q => {
      requests := x.requests ++ [q]
      inFlight := x.inFlight ++ [q]
      replies := x.replies
      shownBefore := shown }

/-- Issuing forgets no request. -/
theorem length_issue_le (x : Exchange α) (shown : List α) (request? : Option Request) :
    x.requests.length ≤ (x.issue shown request?).requests.length := by
  cases request? with
  | none => exact Nat.le_refl _
  | some q => exact List.length_append ▸ Nat.le_add_right _ _

theorem replies_issue (x : Exchange α) (shown : List α) (request? : Option Request) :
    (x.issue shown request?).replies = x.replies := by
  cases request? <;> rfl

/-- The source replies to a request in flight. -/
def reply (x : Exchange α) (q : Request) (outcome : Outcome α) : Exchange α :=
  { x with inFlight := x.inFlight.erase q, replies := x.replies ++ [(q, outcome)] }

/-- The exchange accounts for the state of a service. -/
structure Explains (x : Exchange α) (s : Service α) : Prop where
  tracks : s.Tracks x.requests
  /-- Every request is either in flight or has one reply. -/
  accounted : (x.inFlight ++ x.replies.map Prod.fst).Perm x.requests
  /-- What waits in the inbox are replies. -/
  heard : ∀ r ∈ s.inbox, ∃ q, q.seq = r.seq ∧ (q, r.outcome) ∈ x.replies
  waiting : s.isPending = true → s.results = x.shownBefore
  answered : ∀ q, s.isPending = false → x.requests.getLast? = some q →
    ∃ outcome, (q, outcome) ∈ x.replies ∧ s.results = outcome.onto x.shownBefore

namespace Explains
variable {x : Exchange α} {s : Service α}

/-- Nothing has passed yet. -/
theorem start (priority : Priority) : ({} : Exchange α).Explains { priority } where
  tracks := .start priority
  accounted := .nil
  heard := by simp
  waiting := fun _ => rfl
  answered := by simp

/-- A reply belongs to a request. -/
theorem mem_requests (h : x.Explains s) {q : Request} {outcome : Outcome α}
    (replied : (q, outcome) ∈ x.replies) : q ∈ x.requests :=
  h.accounted.mem_iff.1 (List.mem_append_right _ (List.mem_map_of_mem replied))

/-- A request has one reply at most. -/
theorem reply_unique (h : x.Explains s) {q : Request} {o o' : Outcome α}
    (first : (q, o) ∈ x.replies) (second : (q, o') ∈ x.replies) : o = o' := by
  have distinct : (x.replies.map Prod.fst).Nodup :=
    (List.nodup_append.1 (h.accounted.nodup_iff.2 h.tracks.nodup)).2.1
  have same := List.inj_on_of_nodup_map distinct first second rfl
  exact congrArg Prod.snd same

/-- A request is issued. It waits for its reply, and what is on show stays. -/
theorem issue (h : x.Explains s) (query : String) (page : Nat) (bound : x.requests.length + 1 < UInt64.size) :
    (x.issue s.results (some (s.issue query page).1)).Explains (s.issue query page).2 := by
  have tracks := h.tracks.issue query page bound
  have waits : (s.issue query page).2.isPending = true := by
    refine Coordinator.isPending_iff.2 (UInt64.lt_iff_toNat_lt.2 ?_)
    rw [tracks.issued, List.length_append, List.length_singleton]
    have below := UInt64.le_iff_toNat_le.1 h.tracks.accepted_le
    rw [h.tracks.issued] at below
    exact Nat.lt_succ_of_le below
  refine ⟨tracks, ?_, h.heard, fun _ => rfl, fun q settled => ?_⟩
  · have moved : ((x.inFlight ++ [(s.issue query page).1]) ++ x.replies.map Prod.fst).Perm
        ((x.inFlight ++ x.replies.map Prod.fst) ++ [(s.issue query page).1]) := by
      rw [List.append_assoc, List.append_assoc]
      exact List.Perm.append_left _ List.perm_append_comm
    exact moved.trans (h.accounted.append_right _)
  · rw [waits] at settled
    cases settled

/-- A reply to a request in flight is delivered. -/
theorem reply (h : x.Explains s) {q : Request} (waits : q ∈ x.inFlight) (outcome : Outcome α) :
    (x.reply q outcome).Explains (s.deliver { seq := q.seq, outcome }) := by
  refine ⟨⟨h.tracks.numbered, h.tracks.issued, h.tracks.last, h.tracks.accepted_le⟩, ?_, ?_, h.waiting, ?_⟩
  · have moved : (x.inFlight.erase q ++ (x.replies.map Prod.fst ++ [q])).Perm
        (x.inFlight ++ x.replies.map Prod.fst) := by
      have front : (x.inFlight.erase q ++ x.replies.map Prod.fst ++ [q]).Perm
          (q :: (x.inFlight.erase q ++ x.replies.map Prod.fst)) := List.perm_append_singleton _ _
      rw [← List.append_assoc]
      exact front.trans ((List.perm_cons_erase waits).symm.append_right _)
    unfold Exchange.reply
    rw [List.map_append, List.map_singleton]
    exact moved.trans h.accounted
  · intro r member
    rcases List.mem_append.1 member with old | new
    · obtain ⟨p, number, replied⟩ := h.heard r old
      exact ⟨p, number, List.mem_append_left _ replied⟩
    · rw [List.mem_singleton.1 new]
      exact ⟨q, rfl, List.mem_append_right _ (List.mem_singleton.2 rfl)⟩
  · intro p settled newest
    obtain ⟨o, replied, shown⟩ := h.answered p settled newest
    exact ⟨o, List.mem_append_left _ replied, shown⟩

/-- A reply is applied: it is stale, or it is the one to the newest request. -/
theorem apply (h : x.Explains s) {r : Response α}
    (heard : ∃ q, q.seq = r.seq ∧ (q, r.outcome) ∈ x.replies) : x.Explains (s.apply r).2 := by
  have tracks := h.tracks.apply r
  rcases s.apply_cases r with dropped | ⟨number, waits, accepted⟩
  · rw [dropped]
    exact h
  · have before := h.waiting (Coordinator.isPending_iff.2 waits)
    rw [accepted] at tracks ⊢
    refine ⟨tracks, h.accounted, h.heard, fun pending => ?_, fun q _ newest => ?_⟩
    · exact absurd (Coordinator.isPending_iff.1 pending) (UInt64.lt_irrefl _)
    · obtain ⟨p, same, replied⟩ := heard
      have equal : p = q := by
        refine h.tracks.eq_of_seq_eq (h.mem_requests replied) (List.mem_of_getLast? newest) ?_
        rw [same, number, h.tracks.seq_newest newest]
      rw [equal] at replied
      exact ⟨r.outcome, replied, by rw [before]⟩

theorem applyAll (h : x.Explains s) {rs : List (Response α)}
    (heard : ∀ r ∈ rs, ∃ q, q.seq = r.seq ∧ (q, r.outcome) ∈ x.replies) : x.Explains (s.applyAll rs).2 := by
  induction rs generalizing s with
  | nil => exact h
  | cons r rest ih =>
    exact ih (h.apply (heard r List.mem_cons_self)) fun r' member => heard r' (List.mem_cons_of_mem _ member)

/-- Taking responses out of the inbox is applying replies. -/
theorem act (h : x.Explains s) {e : Event α} (takes : e.takes = true) : x.Explains (s.act e) := by
  obtain ⟨front, rest, parts, acted⟩ := s.act_takes takes
  have heard := h.heard
  rw [parts] at heard
  have after := h.applyAll fun r member => heard r (List.mem_append_left _ member)
  rw [acted]
  exact ⟨after.tracks.withInbox rest, after.accounted,
    fun r member => heard r (List.mem_append_right _ member), after.waiting, after.answered⟩

end Explains

/-- The reply to the newest request is not lost. As long as the service waits for it, it is still to come or lies in
the inbox. -/
def Holds (x : Exchange α) (s : Service α) : Prop :=
  s.isPending = true → ∀ q, x.requests.getLast? = some q → q ∈ x.inFlight ∨ ∃ r ∈ s.inbox, r.seq = q.seq

namespace Holds
variable {x : Exchange α} {s : Service α}

/-- A new request is in flight. -/
theorem issue (query : String) (page : Nat) :
    (x.issue s.results (some (s.issue query page).1)).Holds (s.issue query page).2 := by
  intro _ q newest
  rw [Exchange.issue, List.getLast?_concat] at newest
  obtain rfl := Option.some.inj newest
  exact .inl (List.mem_append_right _ (List.mem_singleton.2 rfl))

/-- A reply moves from the flight to the inbox. -/
theorem reply (holds : x.Holds s) (q : Request) (outcome : Outcome α) :
    (x.reply q outcome).Holds (s.deliver { seq := q.seq, outcome }) := by
  intro waits p newest
  by_cases same : p = q
  · subst same
    exact .inr ⟨_, List.mem_append_right _ (List.mem_singleton.2 rfl), rfl⟩
  · rcases holds waits p newest with flying | ⟨r, delivered, number⟩
    · exact .inl ((List.mem_erase_of_ne same).2 flying)
    · exact .inr ⟨r, List.mem_append_left _ delivered, number⟩

/-- What is taken in without an end to the waiting was not the reply to the newest request. -/
theorem act (holds : x.Holds s) (explained : x.Explains s) {e : Event α} (takes : e.takes = true) :
    x.Holds (s.act e) := by
  obtain ⟨front, rest, parts, acted⟩ := s.act_takes takes
  intro waits q newest
  rw [acted] at waits ⊢
  obtain ⟨before, others⟩ := Service.isPending_applyAll_iff.1 waits
  rcases holds before q newest with flying | ⟨r, delivered, number⟩
  · exact .inl flying
  · rw [parts] at delivered
    rcases List.mem_append.1 delivered with early | late
    · exact absurd (number.trans (explained.tracks.seq_newest newest)) (others r early)
    · exact .inr ⟨r, late, number⟩

/-- With its newest request answered, a service that settles waits no longer. -/
theorem isPending_settle (holds : x.Holds s) (explained : x.Explains s) {q : Request}
    (newest : x.requests.getLast? = some q) (answered : q ∉ x.inFlight) : s.settle.2.isPending = false := by
  by_contra waits
  rw [Bool.not_eq_false] at waits
  rcases holds.act explained (e := .settle) rfl waits q newest with flying | ⟨r, left, -⟩
  · exact answered flying
  · rw [show (s.act .settle).inbox = [] from Service.inbox_settle waits] at left
    cases left

end Holds

end Exchange

end StickerBook.Lookup
