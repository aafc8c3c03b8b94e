import StickerBook.Proofs.Lookup.Acceptance

/-!
# Coordinators beyond the largest number

Request numbers start again from zero after the largest word, and a response is accepted only if its number is larger than
that of the one accepted last. So a coordinator heeds a fresh request exactly if that is so of its number
(`Coordinator.heeds_iff`). This holds of the first 2^64 - 1 requests. Later on it depends on where the numbers have wrapped
around (`Past.Counts.heeds_iff`), and nothing is accepted any more once a response with the largest number has been
(`Coordinator.wedged_iff`).
-/

namespace StickerBook.Lookup
set_option autoImplicit false
variable {α : Type}

/-- What can happen to a coordinator. -/
inductive Call (α : Type) where
  | issue (query : String) (page : Nat)
  | accept (r : Response α)

namespace Coordinator
variable {c : Coordinator}

/-- The coordinator after a call. -/
def after (c : Coordinator) : Call α → Coordinator
  | .issue query page => (c.issue query page).2
  | .accept r => (c.accept r).2

/-- The coordinator after some calls. -/
def follow (c : Coordinator) (calls : List (Call α)) : Coordinator := calls.foldl after c

/-- Fresh requests are heeded. -/
structure Heeds (α : Type) (c : Coordinator) : Prop where
  waits : ∀ query page, (c.issue query page).2.isPending = true
  /-- The first response to a fresh request is not dropped, whatever other responses come before it. -/
  hears : ∀ query page, ∀ (others : List (Response α)) (r : Response α),
    (∀ o ∈ others, o.seq ≠ (c.issue query page).1.seq) → r.seq = (c.issue query page).1.seq →
      (((c.issue query page).2.follow (others.map .accept)).accept r).1.isStale = false

/-- Whatever happens, no request waits and no response is accepted any more. -/
def Wedged (α : Type) (c : Coordinator) : Prop := ∀ calls : List (Call α),
  (c.follow calls).isPending = false ∧ ∀ r : Response α, ((c.follow calls).accept r).1.isStale = true

theorem follow_append (c : Coordinator) (calls more : List (Call α)) :
    c.follow (calls ++ more) = (c.follow calls).follow more := List.foldl_append

/-- Responses to other requests than the newest leave a coordinator as it is. -/
theorem follow_others {others : List (Response α)} (other : ∀ o ∈ others, o.seq ≠ c.issued) :
    c.follow (others.map .accept) = c := by
  induction others with
  | nil => rfl
  | cons o rest ih =>
    have stale : c.isCurrent o.seq = false := by
      rw [Bool.eq_false_iff]
      intro current
      exact other o List.mem_cons_self (isCurrent_iff.1 current).1
    show (c.after (.accept o)).follow (rest.map .accept) = c
    rw [after, accept_stale stale]
    exact ih fun o' later => other o' (List.mem_cons_of_mem _ later)

/-- Fresh requests are heeded exactly if the next number is larger than the accepted one. -/
theorem heeds_iff : c.Heeds α ↔ c.accepted < c.issued + 1 := by
  constructor
  · intro heeds
    exact isPending_iff.1 (heeds.waits "" 0)
  · intro larger
    have waits : ∀ query page, (c.issue query page).2.isPending = true := fun _ _ => isPending_iff.2 larger
    refine ⟨waits, fun query page others r other newest => ?_⟩
    rw [follow_others other, isStale_accept, newest]
    show (!(c.issue query page).2.isCurrent (c.issue query page).2.issued) = false
    rw [isCurrent_issued, waits]
    rfl

/-- Requests that are issued one after the other count the issued number up, round the words if need be. -/
theorem follow_issues (c : Coordinator) (query : String) (page n : Nat) :
    c.follow (List.replicate n (.issue query page : Call α)) = { c with issued := c.issued + UInt64.ofNat n } := by
  induction n generalizing c with
  | zero => simp [follow]
  | succ n ih =>
    rw [List.replicate_succ]
    show (c.after (.issue query page : Call α)).follow _ = _
    rw [ih, UInt64.ofNat_add, after, issue]
    simp only [Coordinator.mk.injEq, and_true]
    rw [UInt64.add_assoc, UInt64.add_comm 1]
    rfl

/-- No number is larger than the largest. -/
theorem isCurrent_largest (largest : c.accepted.toNat + 1 = UInt64.size) (seq : UInt64) : c.isCurrent seq = false := by
  rw [Bool.eq_false_iff]
  intro current
  have larger := UInt64.lt_iff_toNat_lt.1 (isCurrent_iff.1 current).2
  have bound := seq.toNat_lt_size
  omega

/-- So nothing is accepted after it. -/
theorem follow_largest (largest : c.accepted.toNat + 1 = UInt64.size) (calls : List (Call α)) :
    (c.follow calls).accepted = c.accepted := by
  induction calls generalizing c with
  | nil => rfl
  | cons call rest ih =>
    have kept : (c.after call).accepted = c.accepted := by
      cases call with
      | issue => rfl
      | accept r => rw [after, accept_stale (isCurrent_largest largest r.seq)]
    exact (ih (by rw [kept]; exact largest)).trans kept

/-- Fresh requests are heeded again as soon as the issued number has caught up with the accepted one, unless this is the
largest. -/
theorem heeds_caught_up (smaller : c.accepted.toNat + 1 < UInt64.size) (query : String) (page : Nat) :
    (c.follow (List.replicate (c.accepted - c.issued).toNat (.issue query page : Call α))).Heeds α := by
  have caught : c.issued + UInt64.ofNat (c.accepted - c.issued).toNat = c.accepted := by
    rw [UInt64.ofNat_toNat, UInt64.add_comm, UInt64.sub_add_cancel]
  have next : (c.accepted + 1).toNat = c.accepted.toNat + 1 := by
    rw [UInt64.toNat_add]
    exact Nat.mod_eq_of_lt smaller
  rw [follow_issues, heeds_iff, caught, UInt64.lt_iff_toNat_lt, next]
  exact Nat.lt_succ_self _

/-- A coordinator is wedged exactly if the largest number has been accepted. -/
theorem wedged_iff : c.Wedged α ↔ c.accepted.toNat + 1 = UInt64.size := by
  constructor
  · intro wedged
    have bound := c.accepted.toNat_lt_size
    rcases Nat.lt_or_ge (c.accepted.toNat + 1) UInt64.size with smaller | largest
    · have waits := (heeds_caught_up (α := α) smaller "" 0).waits "" 0
      have still := (wedged (List.replicate (c.accepted - c.issued).toNat (.issue "" 0) ++ [.issue "" 0])).1
      rw [follow_append] at still
      exact absurd (waits.symm.trans still) (by simp)
    · omega
  · intro largest calls
    have after : (c.follow calls).accepted.toNat + 1 = UInt64.size := by rw [follow_largest largest, largest]
    constructor
    · rw [← isCurrent_issued]
      exact isCurrent_largest after _
    · intro r
      rw [isStale_accept, isCurrent_largest after]
      rfl

end Coordinator

/-- A coordinator and its past: how many requests it has issued, and how many it had when a response was accepted last. -/
structure Past where
  coordinator : Coordinator := {}
  issued : Nat := 0
  accepted : Nat := 0

namespace Past
variable {p : Past}

/-- The past after a call. -/
def after (p : Past) : Call α → Past
  | .issue query page => { p with coordinator := (p.coordinator.issue query page).2, issued := p.issued + 1 }
  | .accept r => { p with
      coordinator := (p.coordinator.accept r).2
      accepted := if (p.coordinator.accept r).1.isStale then p.accepted else p.issued }

/-- The past of a new coordinator after some calls. -/
def run (calls : List (Call α)) : Past := calls.foldl after {}

/-- The numbers of a coordinator are what they count, up to wrapping around. -/
structure Counts (p : Past) : Prop where
  issued : p.coordinator.issued = UInt64.ofNat p.issued
  accepted : p.coordinator.accepted = UInt64.ofNat p.accepted
  le : p.accepted ≤ p.issued

/-- How far a coordinator heeds fresh requests. -/
structure HeedsUpTo (α : Type) (p : Past) : Prop where
  /-- All of the first 2^64 - 1 requests are heeded. -/
  early : p.issued + 1 < UInt64.size → p.coordinator.Heeds α
  heeds_iff : p.coordinator.Heeds α ↔ p.accepted % UInt64.size < (p.issued + 1) % UInt64.size
  /-- It is wedged once a response with the largest number has been accepted. -/
  wedged_iff : p.coordinator.Wedged α ↔ (p.accepted + 1) % UInt64.size = 0

theorem coordinator_after (p : Past) (call : Call α) : (p.after call).coordinator = p.coordinator.after call := by
  cases call <;> rfl

theorem coordinator_run (calls : List (Call α)) : (run calls).coordinator = ({} : Coordinator).follow calls :=
  (List.foldl_hom Past.coordinator fun p call => (coordinator_after p call).symm).symm

namespace Counts

theorem next (counts : p.Counts) : p.coordinator.issued + 1 = UInt64.ofNat (p.issued + 1) := by
  rw [counts.issued, UInt64.ofNat_add]
  rfl

theorem after (counts : p.Counts) (call : Call α) : (p.after call).Counts := by
  cases call with
  | issue query page => exact ⟨counts.next, counts.accepted, Nat.le_succ_of_le counts.le⟩
  | accept r =>
    unfold Past.after
    dsimp only
    rw [Coordinator.isStale_accept]
    cases current : p.coordinator.isCurrent r.seq with
    | false =>
      rw [Coordinator.accept_stale current]
      exact counts
    | true =>
      rw [Coordinator.accept_current current]
      exact ⟨counts.issued, counts.issued, Nat.le_refl _⟩

theorem run (calls : List (Call α)) : (Past.run calls).Counts :=
  List.foldlRecOn calls Past.after ⟨rfl, rfl, Nat.le_refl _⟩ fun _ counts call _ => counts.after call

/-- Wrapped around, the number of requests is to exceed the number of those when a response was accepted last. -/
theorem heeds_iff (counts : p.Counts) :
    p.coordinator.Heeds α ↔ p.accepted % UInt64.size < (p.issued + 1) % UInt64.size := by
  rw [Coordinator.heeds_iff, counts.next, counts.accepted, UInt64.lt_iff_toNat_lt, UInt64.toNat_ofNat', UInt64.toNat_ofNat']

theorem wedged_iff (counts : p.Counts) : p.coordinator.Wedged α ↔ (p.accepted + 1) % UInt64.size = 0 := by
  rw [Coordinator.wedged_iff, counts.accepted, UInt64.toNat_ofNat']
  unfold UInt64.size
  omega

end Counts

/-- **A coordinator heeds fresh requests as long as their numbers exceed the accepted one**, after calls as many as there may
be. -/
theorem heedsUpTo_run (calls : List (Call α)) :
    (run calls).coordinator = ({} : Coordinator).follow calls ∧ (run calls).HeedsUpTo α := by
  have counts := Counts.run calls
  refine ⟨coordinator_run calls, fun early => ?_, counts.heeds_iff, counts.wedged_iff⟩
  rw [counts.heeds_iff]
  have le := counts.le
  unfold UInt64.size at early ⊢
  omega

/-- After the response to request 2^64 - 1 the next request gets the number zero. It does not wait, and the response to it is
dropped, as all later ones are. -/
theorem wedged_at_wrap :
    let requests : List (Call String) := List.replicate (UInt64.size - 1) (.issue "cat" 0)
    let c := ({} : Coordinator).follow (requests ++ [.accept ⟨UInt64.ofNat (UInt64.size - 1), .ready ["cat"]⟩])
    (c.issue "cat" 0).2.isPending = false ∧
      ((c.issue "cat" 0).2.accept ⟨(c.issue "cat" 0).1.seq, .ready ["cat"]⟩).1 = .stale ∧ c.Wedged String := by
  intro requests c
  have reached : c = { issued := UInt64.ofNat (UInt64.size - 1), accepted := UInt64.ofNat (UInt64.size - 1) } := by
    show ({} : Coordinator).follow (requests ++ _) = _
    rw [Coordinator.follow_append, Coordinator.follow_issues]
    rfl
  rw [reached, Coordinator.wedged_iff]
  decide

end Past

end StickerBook.Lookup
