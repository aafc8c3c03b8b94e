import StickerBook.Proofs.Lookup.Event

/-!
# Request numbers

As long as the numbers do not wrap around, the requests that a service has issued are numbered from one,
and the last of them is the newest (`Service.Tracks`). A response is then current exactly if it answers the
newest request and no response to that request has been accepted.
-/

namespace StickerBook.Lookup
set_option autoImplicit false
variable {α : Type}

/-- The given requests are those that a service has issued, oldest first. -/
structure Service.Tracks (s : Service α) (requests : List Request) : Prop where
  numbered : ∀ i q, requests[i]? = some q → q.seq.toNat = i + 1
  issued : s.coordinator.issued.toNat = requests.length
  last : s.lastRequest = requests.getLast?
  accepted_le : s.coordinator.accepted ≤ s.coordinator.issued

namespace Service.Tracks
variable {s : Service α} {requests : List Request}

/-- A new service has issued nothing. -/
theorem start (priority : Priority) : ({ priority } : Service α).Tracks [] where
  numbered := by simp
  issued := rfl
  last := rfl
  accepted_le := UInt64.le_refl _

/-- The newest request carries the issued number. -/
theorem seq_newest (t : s.Tracks requests) {q : Request} (newest : requests.getLast? = some q) :
    q.seq = s.coordinator.issued := by
  rw [List.getLast?_eq_getElem?] at newest
  have number := t.numbered _ q newest
  have bound := (List.getElem?_eq_some_iff.1 newest).1
  apply UInt64.toNat_inj.1
  rw [number, t.issued]
  omega

/-- A service that waits has a newest request. -/
theorem exists_newest (t : s.Tracks requests) (waits : s.coordinator.accepted < s.coordinator.issued) :
    ∃ q, requests.getLast? = some q := by
  cases requests with
  | nil =>
    have none_issued := t.issued
    rw [UInt64.lt_iff_toNat_lt, none_issued] at waits
    exact absurd waits (Nat.not_lt_zero _)
  | cons q rest => exact ⟨_, List.getLast?_eq_some_getLast (List.cons_ne_nil q rest)⟩

/-- A request has the number of its place, so no two have the same. -/
theorem eq_of_seq_eq (t : s.Tracks requests) {p q : Request} (hp : p ∈ requests) (hq : q ∈ requests)
    (same : p.seq = q.seq) : p = q := by
  obtain ⟨i, hi⟩ := List.mem_iff_getElem?.1 hp
  obtain ⟨j, hj⟩ := List.mem_iff_getElem?.1 hq
  have pi := t.numbered i p hi
  have qj := t.numbered j q hj
  have places : i = j := by
    rw [same] at pi
    omega
  rw [places, hj] at hi
  exact (Option.some.inj hi).symm

theorem nodup (t : s.Tracks requests) : requests.Nodup := by
  refine List.pairwise_iff_getElem.2 fun i j hi hj less same => ?_
  have first := t.numbered i _ (List.getElem?_eq_getElem hi)
  have second := t.numbered j _ (List.getElem?_eq_getElem hj)
  rw [same, second] at first
  omega

/-- A further request gets the next number. -/
theorem issue (t : s.Tracks requests) (query : String) (page : Nat)
    (bound : requests.length + 1 < UInt64.size) :
    (s.issue query page).2.Tracks (requests ++ [(s.issue query page).1]) := by
  have next : (s.coordinator.issued + 1).toNat = requests.length + 1 := by
    rw [UInt64.toNat_add, t.issued]
    exact Nat.mod_eq_of_lt bound
  constructor
  · intro i q place
    rcases Nat.lt_trichotomy i requests.length with old | new | beyond
    · rw [List.getElem?_append_left old] at place
      exact t.numbered i q place
    · subst new
      simp only [List.getElem?_concat_length, Option.some.injEq] at place
      rw [← place]
      exact next
    · rw [List.getElem?_eq_none (by simp only [List.length_append, List.length_singleton]; omega)] at place
      cases place
  · rw [List.length_append, List.length_singleton, ← next]
    rfl
  · rw [List.getLast?_concat]
    rfl
  · rw [UInt64.le_iff_toNat_le]
    change s.coordinator.accepted.toNat ≤ (s.coordinator.issued + 1).toNat
    have below := UInt64.le_iff_toNat_le.1 t.accepted_le
    rw [t.issued] at below
    omega

/-- A response issues nothing. -/
theorem apply (t : s.Tracks requests) (r : Response α) : (s.apply r).2.Tracks requests := by
  rcases s.apply_cases r with dropped | ⟨-, -, accepted⟩
  · rw [dropped]
    exact t
  · rw [accepted]
    exact ⟨t.numbered, t.issued, t.last, UInt64.le_refl _⟩

theorem withInbox (t : s.Tracks requests) (inbox : List (Response α)) :
    { s with inbox }.Tracks requests :=
  ⟨t.numbered, t.issued, t.last, t.accepted_le⟩

/-- A response is current exactly if it answers the newest request, which waits. -/
theorem isCurrent_iff (t : s.Tracks requests) {seq : UInt64} :
    s.coordinator.isCurrent seq = true ↔
      requests.getLast?.map Request.seq = some seq ∧ s.coordinator.accepted < seq := by
  rw [Coordinator.isCurrent_iff]
  constructor
  · rintro ⟨newest, waits⟩
    rw [newest] at waits ⊢
    obtain ⟨q, hq⟩ := t.exists_newest waits
    exact ⟨by rw [hq, Option.map_some, t.seq_newest hq], waits⟩
  · rintro ⟨newest, waits⟩
    obtain ⟨q, hq, rfl⟩ := Option.map_eq_some_iff.1 newest
    exact ⟨t.seq_newest hq, waits⟩

end Service.Tracks

end StickerBook.Lookup
