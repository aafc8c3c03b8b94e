import StickerBook.Lookup.RunQueue

/-!
# The order of a run queue

A run queue is run in rounds: a round serves the entries that do not give way, in their order, and puts the others at the end
(`runQueue_round`). So entries that give way equally often are served in the order in which they were queued (`runQueue_map`),
and entries that give way once are overtaken by those that do not (`runQueue_once`).
-/

namespace StickerBook.Lookup
set_option autoImplicit false
variable {τ ω : Type}

/-- The jobs that do not give way, in their order. -/
def promptJobs (entries : List (Queued τ)) : List τ := (entries.filter (·.yields = 0)).map Queued.job

/-- The jobs that give way, in their order. -/
def patientJobs (entries : List (Queued τ)) : List τ := (entries.filter (·.yields ≠ 0)).map Queued.job

/-- The entries that give way, each of them a turn nearer. -/
def nearer (entries : List (Queued τ)) : List (Queued τ) :=
  (entries.filter (·.yields ≠ 0)).map fun entry => { entry with yields := entry.yields - 1 }

theorem promptJobs_append (entries more : List (Queued τ)) :
    promptJobs (entries ++ more) = promptJobs entries ++ promptJobs more := by
  simp [promptJobs]

theorem patientJobs_append (entries more : List (Queued τ)) :
    patientJobs (entries ++ more) = patientJobs entries ++ patientJobs more := by
  simp [patientJobs]

/-- Both kinds of jobs are those of entries. -/
theorem exists_entry_of_mem {entries : List (Queued τ)} {job : τ} (member : job ∈ promptJobs entries ++ patientJobs entries) :
    ∃ entry ∈ entries, entry.job = job := by
  unfold promptJobs patientJobs at member
  rw [← List.map_append, List.mem_map] at member
  obtain ⟨entry, kept, same⟩ := member
  rcases List.mem_append.1 kept with kept | kept
  · exact ⟨entry, (List.mem_filter.1 kept).1, same⟩
  · exact ⟨entry, (List.mem_filter.1 kept).1, same⟩

/-- A round serves what does not give way. The rest goes behind what was queued after it. -/
theorem runQueue_round (serve : ω → τ → ω) (entries later : List (Queued τ)) (w : ω) :
    runQueue serve (entries ++ later) w
      = runQueue serve (later ++ nearer entries) ((promptJobs entries).foldl serve w) := by
  induction entries generalizing later w with
  | nil => simp [nearer, promptJobs]
  | cons entry rest ih =>
    obtain ⟨job, turns⟩ := entry
    cases turns with
    | zero =>
      rw [List.cons_append, runQueue, ih]
      simp [nearer, promptJobs]
    | succ turns =>
      rw [List.cons_append, runQueue, List.append_assoc, ih]
      simp [nearer, promptJobs]

/-- Entries that give way equally often keep their order. -/
theorem runQueue_map (serve : ω → τ → ω) (jobs : List τ) (turns : Nat) (w : ω) :
    runQueue serve (jobs.map fun job => { job, yields := turns }) w = jobs.foldl serve w := by
  have round := fun entries => runQueue_round serve entries [] w
  simp only [List.append_nil, List.nil_append] at round
  induction turns generalizing w with
  | zero =>
    have served : promptJobs (jobs.map fun job => { job, yields := 0 }) = jobs := by
      simp [promptJobs, List.filter_map, Function.comp_def]
    have left : nearer (jobs.map fun job => { job, yields := 0 }) = [] := by
      simp [nearer]
    rw [round, served, left, runQueue]
  | succ turns ih =>
    have served : promptJobs (jobs.map fun job => { job, yields := turns + 1 }) = [] := by
      simp [promptJobs]
    have left : nearer (jobs.map fun job => { job, yields := turns + 1 })
        = jobs.map fun job => { job, yields := turns } := by
      unfold nearer
      rw [List.filter_eq_self.2 (by simp), List.map_map]
      rfl
    rw [round, served, left]
    exact ih w round

/-- Entries that give way once are served after all the others. -/
theorem runQueue_once (serve : ω → τ → ω) {entries : List (Queued τ)} (once : ∀ entry ∈ entries, entry.yields ≤ 1) (w : ω) :
    runQueue serve entries w = (promptJobs entries ++ patientJobs entries).foldl serve w := by
  have settled : nearer entries = (patientJobs entries).map fun job => { job, yields := 0 } := by
    unfold nearer patientJobs
    rw [List.map_map]
    refine List.map_congr_left fun entry member => ?_
    have bound := once entry (List.mem_filter.1 member).1
    show { entry with yields := entry.yields - 1 } = { job := entry.job, yields := 0 }
    rw [Nat.sub_eq_zero_of_le bound]
  have round := runQueue_round serve entries [] w
  rw [List.append_nil, List.nil_append] at round
  rw [round, settled, runQueue_map, List.foldl_append]

/-- A run keeps what serving a job keeps. -/
theorem runQueue_keeps {serve : ω → τ → ω} (good : ω → Prop) (keeps : ∀ w job, good w → good (serve w job))
    (entries : List (Queued τ)) {w : ω} (holds : good w) : good (runQueue serve entries w) := by
  induction entries, w using runQueue.induct serve with
  | case1 w =>
    rw [runQueue]
    exact holds
  | case2 job rest w ih =>
    rw [runQueue]
    exact ih (keeps w job holds)
  | case3 job turns rest w ih =>
    rw [runQueue]
    exact ih holds

end StickerBook.Lookup
