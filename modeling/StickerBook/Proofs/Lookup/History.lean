import StickerBook.Proofs.Lookup.Tracking
import StickerBook.Proofs.Run

/-!
# The past of a service

A `History` is a service together with the requests that it issued and the responses that it judged.
`coherent_run` says what the one tells about the other after any run: responses are accepted in the order of
their requests and at most once, only the newest request changes what is on show, and what is on show are
the items of the last accepted response that was not merely "not ready".
-/

namespace StickerBook.Lookup
set_option autoImplicit false
variable {α : Type}

/-- A response that was judged, the newest request at that time, and the verdict. -/
structure Judgement (α : Type) where
  newest : Option Request
  response : Response α
  verdict : Verdict α

/-- A service and its past, oldest first. -/
structure History (α : Type) where
  service : Service α
  requests : List Request := []
  judged : List (Judgement α) := []

namespace History

/-- The verdict on a response. -/
def judgement (h : History α) (r : Response α) : Judgement α where
  newest := h.requests.getLast?
  response := r
  verdict := (h.service.coordinator.accept r).1

/-- Judges a response and applies it. -/
def judge (h : History α) (r : Response α) : History α where
  service := (h.service.apply r).2
  requests := h.requests
  judged := h.judged ++ [h.judgement r]

/-- The history after an event. -/
def after (h : History α) (e : Event α) : History α where
  service := h.service.act e
  requests := h.requests ++ h.service.issued e
  judged := ((h.service.applied e).foldl judge h).judged

/-- A new service. -/
def start (α : Type) (priority : Priority) : History α := { service := { priority } }

/-- The history of a run. -/
def run (priority : Priority) (events : List (Event α)) : History α :=
  events.foldl after (start α priority)

/-- The responses that were accepted, in order. -/
def accepted (h : History α) : List (Response α) :=
  (h.judged.filter fun j => !j.verdict.isStale).map Judgement.response

/-- A response was accepted exactly if it answered the newest request of its time and no response with its
number had been accepted before. -/
def AcceptsFirst (h : History α) : Prop :=
  ∀ earlier j later, h.judged = earlier ++ j :: later →
    (j.verdict.isStale = false ↔ j.newest.map Request.seq = some j.response.seq ∧
      ∀ i ∈ earlier, i.response.seq = j.response.seq → i.verdict.isStale = true)

/-- What is on show. -/
structure ShowsLast (h : History α) : Prop where
  /-- With no request named for them, no items are on show, and no accepted response has replaced them. -/
  nothing : h.service.resultQuery = none →
    h.service.results = [] ∧ ∀ r ∈ h.accepted, r.outcome.replaces = false
  /-- The request named for the items on show is the last one whose accepted response replaced them, and the
  items are those of that response. -/
  shown : ∀ q, h.service.resultQuery = some q → q ∈ h.requests ∧
    ∃ earlier r later, h.accepted = earlier ++ r :: later ∧ r.seq = q.seq ∧
      r.outcome.replaces = true ∧ h.service.results = r.outcome.items ∧
      ∀ r' ∈ later, r'.outcome.replaces = false

/-- What the past of a service tells about its state. -/
structure Coherent (h : History α) : Prop where
  /-- The issued number counts the requests. -/
  issued : h.service.coordinator.issued.toNat = h.requests.length
  /-- The accepted number is that of the last accepted response. -/
  accepted : h.service.coordinator.accepted = (h.accepted.getLast?.map Response.seq).getD 0
  accepted_le_issued : h.service.coordinator.accepted ≤ h.service.coordinator.issued
  /-- The numbers of the accepted responses increase, so none occurs twice. -/
  increasing : (h.accepted.map Response.seq).Pairwise (· < ·)
  acceptsFirst : h.AcceptsFirst
  /-- Only a response to the newest request, none of which has been accepted, changes what is on show. -/
  of_change : ∀ r, (h.service.apply r).2.results ≠ h.service.results ∨
      (h.service.apply r).2.resultQuery ≠ h.service.resultQuery →
    h.requests.getLast?.map Request.seq = some r.seq ∧ r.seq ∉ h.accepted.map Response.seq
  /-- The first response to the newest request is not dropped. -/
  first_counts : ∀ r : Response α, h.requests.getLast?.map Request.seq = some r.seq →
    (∀ j ∈ h.judged, j.response.seq ≠ r.seq) → (h.service.coordinator.accept r).1.isStale = false
  showsLast : h.ShowsLast

/-- What one response after the other preserves. -/
structure Sound (h : History α) : Prop where
  tracks : h.service.Tracks h.requests
  accepted : h.service.coordinator.accepted = (h.accepted.getLast?.map Response.seq).getD 0
  below : ∀ r ∈ h.accepted, r.seq ≤ h.service.coordinator.accepted
  increasing : (h.accepted.map Response.seq).Pairwise (· < ·)
  acceptsFirst : h.AcceptsFirst
  showsLast : h.ShowsLast

/-- A judgement that is not stale is one of the accepted responses. -/
theorem mem_accepted {h : History α} {r : Response α} :
    r ∈ h.accepted ↔ ∃ j ∈ h.judged, j.verdict.isStale = false ∧ j.response = r := by
  simp [accepted, and_assoc]

theorem judge_stale {h : History α} {r : Response α}
    (stale : h.service.coordinator.isCurrent r.seq = false) :
    (h.judge r).service = h.service ∧ (h.judge r).accepted = h.accepted := by
  constructor
  · simp only [judge, Service.apply_stale stale]
  · simp [accepted, judge, judgement, Coordinator.isStale_accept, stale]

theorem accepted_judge_current {h : History α} {r : Response α}
    (current : h.service.coordinator.isCurrent r.seq = true) :
    (h.judge r).accepted = h.accepted ++ [r] := by
  simp [accepted, judge, judgement, Coordinator.isStale_accept, current]

theorem service_judgeAll (h : History α) (rs : List (Response α)) :
    (rs.foldl judge h).service = (h.service.applyAll rs).2 := by
  induction rs generalizing h with
  | nil => rfl
  | cons r rest ih => exact ih (h.judge r)

theorem requests_judgeAll (h : History α) (rs : List (Response α)) :
    (rs.foldl judge h).requests = h.requests := by
  induction rs generalizing h with
  | nil => rfl
  | cons r rest ih => exact ih (h.judge r)

namespace Sound
variable {h : History α}

theorem start (α : Type) (priority : Priority) : (History.start α priority).Sound where
  tracks := .start priority
  accepted := rfl
  below := by simp [History.accepted, History.start]
  increasing := .nil
  acceptsFirst := by simp [AcceptsFirst, History.start]
  showsLast := ⟨fun _ => ⟨rfl, by simp [History.accepted, History.start]⟩, by simp [History.start]⟩

/-- A response to the newest request is current exactly if none has been accepted. -/
theorem isCurrent_iff (sound : h.Sound) {seq : UInt64} :
    h.service.coordinator.isCurrent seq = true ↔
      h.requests.getLast?.map Request.seq = some seq ∧ seq ∉ h.accepted.map Response.seq := by
  rw [sound.tracks.isCurrent_iff]
  refine and_congr_right fun newest => ⟨fun waits member => ?_, fun fresh => ?_⟩
  · obtain ⟨r, accepted, rfl⟩ := List.mem_map.1 member
    exact absurd (sound.below r accepted) (UInt64.not_le.2 waits)
  · obtain ⟨q, last, number⟩ := Option.map_eq_some_iff.1 newest
    rw [sound.tracks.seq_newest last] at number
    have le := sound.tracks.accepted_le
    rw [number] at le
    refine UInt64.lt_of_le_of_ne le fun equal => fresh ?_
    -- the accepted number is not the initial zero, so a response has it
    rw [sound.accepted] at equal
    cases final : h.accepted.getLast? with
    | none =>
      rw [final] at equal
      have place := sound.tracks.numbered _ q (List.getLast?_eq_getElem? ▸ last)
      rw [sound.tracks.seq_newest last, number, ← equal] at place
      exact absurd place (by simp)
    | some r =>
      rw [final] at equal
      exact List.mem_map.2 ⟨r, List.mem_of_getLast? final, equal⟩

/-- The rule of acceptance still holds after a further verdict. -/
theorem acceptsFirst_judge (sound : h.Sound) (r : Response α) : (h.judge r).AcceptsFirst := by
  intro earlier j later parts
  change h.judged ++ [h.judgement r] = earlier ++ j :: later at parts
  rcases List.eq_nil_or_concat later with rfl | ⟨front, last, rfl⟩
  · obtain ⟨rfl, same⟩ := List.append_inj' parts rfl
    obtain rfl := List.singleton_inj.1 same
    simp only [judgement, Coordinator.isStale_accept, Bool.not_eq_false', sound.isCurrent_iff]
    refine and_congr_right fun _ => ⟨fun fresh i member same => ?_, fun dropped member => ?_⟩
    · cases verdict : i.verdict.isStale with
      | true => rfl
      | false => exact absurd (List.mem_map.2 ⟨_, mem_accepted.2 ⟨i, member, verdict, rfl⟩, same⟩) fresh
    · obtain ⟨r', accepted, same⟩ := List.mem_map.1 member
      obtain ⟨i, judged, verdict, rfl⟩ := mem_accepted.1 accepted
      rw [dropped i judged same] at verdict
      cases verdict
  · have whole : h.judged ++ [h.judgement r] = (earlier ++ j :: front) ++ [last] := by
      simpa using parts
    exact sound.acceptsFirst earlier j front (List.append_inj' whole rfl).1

/-- An accepted response names the newest request for the items on show if it replaces them. -/
theorem showsLast_judge (sound : h.Sound) {r : Response α}
    (current : h.service.coordinator.isCurrent r.seq = true) : (h.judge r).ShowsLast := by
  have applied := Service.apply_current current
  obtain ⟨newest, -⟩ := sound.isCurrent_iff.1 current
  obtain ⟨q, last, number⟩ := Option.map_eq_some_iff.1 newest
  have accepted := accepted_judge_current current
  cases replaces : r.outcome.replaces with
  | true =>
    have query : (h.judge r).service.resultQuery = some q := by
      simp only [judge, applied, replaces, if_true, sound.tracks.last, last]
    refine ⟨fun unnamed => ?_, fun q' named => ?_⟩
    · rw [query] at unnamed
      cases unnamed
    · rw [query] at named
      obtain rfl := Option.some.inj named
      refine ⟨List.mem_of_getLast? last, h.accepted, r, [], accepted, number.symm, replaces, ?_, by simp⟩
      simp only [judge, applied, Outcome.onto_of_replaces replaces]
  | false =>
    have query : (h.judge r).service.resultQuery = h.service.resultQuery := by
      simp [judge, applied, replaces]
    have results : (h.judge r).service.results = h.service.results := by
      simp only [judge, applied, Outcome.onto_of_keeps replaces]
    refine ⟨fun unnamed => ?_, fun q' named => ?_⟩
    · rw [query] at unnamed
      obtain ⟨empty, kept⟩ := sound.showsLast.nothing unnamed
      refine ⟨by rw [results, empty], fun r' member => ?_⟩
      rw [accepted] at member
      rcases List.mem_append.1 member with old | new
      · exact kept r' old
      · rw [List.mem_singleton.1 new, replaces]
    · rw [query] at named
      obtain ⟨member, earlier, r', later, parts, same, replaced, items, kept⟩ :=
        sound.showsLast.shown q' named
      refine ⟨member, earlier, r', later ++ [r], by rw [accepted, parts]; simp, same, replaced,
        by rw [results, items], fun r'' after => ?_⟩
      rcases List.mem_append.1 after with old | new
      · exact kept r'' old
      · rw [List.mem_singleton.1 new, replaces]

/-- A response keeps a history sound. -/
theorem judge (sound : h.Sound) (r : Response α) : (h.judge r).Sound := by
  have acceptsFirst := sound.acceptsFirst_judge r
  have tracks := sound.tracks.apply r
  cases current : h.service.coordinator.isCurrent r.seq with
  | false =>
    obtain ⟨service, accepted⟩ := judge_stale current
    refine ⟨tracks, ?_, ?_, ?_, acceptsFirst, ?_⟩
    · rw [service, accepted]
      exact sound.accepted
    · rw [service, accepted]
      exact sound.below
    · rw [accepted]
      exact sound.increasing
    · constructor <;> rw [service, accepted]
      · exact sound.showsLast.nothing
      · exact sound.showsLast.shown
  | true =>
    have number : (h.judge r).service.coordinator.accepted = r.seq := by
      simp only [History.judge, Service.apply_current current]
    have waits := (sound.tracks.isCurrent_iff.1 current).2
    have accepted := accepted_judge_current current
    have less : ∀ r' ∈ h.accepted, r'.seq < r.seq := fun r' member =>
      UInt64.lt_of_le_of_lt (sound.below r' member) waits
    refine ⟨tracks, ?_, ?_, ?_, acceptsFirst, sound.showsLast_judge current⟩
    · rw [number, accepted, List.getLast?_concat]
      rfl
    · intro r' member
      rw [accepted] at member
      rw [number]
      rcases List.mem_append.1 member with old | new
      · exact UInt64.le_of_lt (less r' old)
      · rw [List.mem_singleton.1 new]
        exact UInt64.le_refl _
    · rw [accepted, List.map_append, List.pairwise_append]
      refine ⟨sound.increasing, List.pairwise_singleton _ _, fun a old b new => ?_⟩
      obtain ⟨r', member, rfl⟩ := List.mem_map.1 old
      rw [List.map_singleton, List.mem_singleton] at new
      rw [new]
      exact less r' member

theorem judgeAll (sound : h.Sound) (rs : List (Response α)) : (rs.foldl History.judge h).Sound := by
  induction rs generalizing h with
  | nil => exact sound
  | cons r rest ih => exact ih (sound.judge r)

theorem withInbox (sound : h.Sound) (inbox : List (Response α)) :
    { h with service := { h.service with inbox } }.Sound :=
  ⟨sound.tracks.withInbox inbox, sound.accepted, sound.below, sound.increasing, sound.acceptsFirst,
    ⟨sound.showsLast.nothing, sound.showsLast.shown⟩⟩

/-- A new request leaves everything but the newest request alone. -/
theorem issue (sound : h.Sound) (query : String) (page : Nat) (bound : h.requests.length + 1 < UInt64.size) :
    (h.after (.issue query page)).Sound := by
  have judged : (h.after (.issue query page)).judged = h.judged := by
    simp [after, Service.applied, Service.taken, Service.act, Service.issue]
  have accepted : (h.after (.issue query page)).accepted = h.accepted := by
    unfold History.accepted
    rw [judged]
  refine ⟨sound.tracks.issue query page bound, ?_, ?_, ?_, ?_, ?_⟩
  · rw [accepted]
    exact sound.accepted
  · rw [accepted]
    exact sound.below
  · rw [accepted]
    exact sound.increasing
  · unfold AcceptsFirst
    rw [judged]
    exact sound.acceptsFirst
  · constructor <;> rw [accepted]
    · exact sound.showsLast.nothing
    · intro q named
      obtain ⟨member, response⟩ := sound.showsLast.shown q named
      exact ⟨List.mem_append_left _ member, response⟩

/-- An event keeps a history sound as long as the numbers do not wrap around. -/
theorem after (sound : h.Sound) (e : Event α) (bound : (h.after e).requests.length < UInt64.size) :
    (h.after e).Sound := by
  by_cases quiet : h.service.issued e = []
  · have same : h.after e = { (h.service.applied e).foldl History.judge h with
        service := { ((h.service.applied e).foldl History.judge h).service with
          inbox := (h.service.act e).inbox } } := by
      simp only [History.after, quiet, List.append_nil, requests_judgeAll, service_judgeAll]
      congr 1
      exact h.service.act_eq_applyAll quiet
    rw [same]
    exact (sound.judgeAll _).withInbox _
  · cases e with
    | issue query page => exact sound.issue query page (by simpa [History.after, Service.issued] using bound)
    | deliver | apply | receive | drain | settle => exact absurd rfl quiet

end Sound

/-- Requests are never forgotten. -/
theorem length_requests_le (h : History α) (e : Event α) : h.requests.length ≤ (h.after e).requests.length := by
  unfold after
  rw [List.length_append]
  omega

theorem Sound.run (priority : Priority) (events : List (Event α))
    (bound : (run priority events).requests.length < UInt64.size) : (run priority events).Sound :=
  foldl_keeps (fun h => h.requests.length) length_requests_le events (fun _ e _ sound now => sound.after e now)
    (History.start α priority) (Sound.start α priority) bound

/-- **The past of a service explains its state**, after every run with fewer than 2^64 requests. -/
theorem coherent_run (priority : Priority) (events : List (Event α))
    (bound : (run priority events).requests.length < UInt64.size) : (run priority events).Coherent := by
  have sound := Sound.run priority events bound
  refine ⟨sound.tracks.issued, sound.accepted, sound.tracks.accepted_le, sound.increasing,
    sound.acceptsFirst, fun r changed => ?_, fun r newest unheard => ?_, sound.showsLast⟩
  · rw [← sound.isCurrent_iff]
    cases current : (run priority events).service.coordinator.isCurrent r.seq with
    | true => rfl
    | false =>
      rw [Service.apply_stale current] at changed
      simp at changed
  · rw [Coordinator.isStale_accept, Bool.not_eq_false', sound.isCurrent_iff]
    refine ⟨newest, fun member => ?_⟩
    obtain ⟨r', accepted, same⟩ := List.mem_map.1 member
    obtain ⟨j, judged, -, rfl⟩ := mem_accepted.1 accepted
    exact unheard j judged same

/-- A superseded response arrives first, a duplicate is handed in, and the newest request is not ready. -/
theorem coherent_race :
    let h := run .interactive [.issue "a" 0, .issue "ab" 0, .deliver ⟨1, .ready ["R1"]⟩,
      .deliver ⟨2, .ready ["R2"]⟩, .drain, .apply ⟨2, .ready ["R3"]⟩, .issue "abc" 0,
      .deliver ⟨3, .notReady⟩, .settle]
    h.requests.length < UInt64.size ∧ h.service.results = ["R2"] ∧ h.Coherent :=
  ⟨by decide, by rfl, coherent_run _ _ (by decide)⟩

end History

end StickerBook.Lookup
