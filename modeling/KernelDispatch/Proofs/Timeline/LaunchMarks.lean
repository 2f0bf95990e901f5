/-
  KernelDispatch.Proofs.Timeline.LaunchMarks

  The marks that the records of a flush leave in its timeline.

  A record leaves a mark when its launch job finds an artifact, and one when the job
  has come to its outcome; a job that is lost leaves no mark of its end (`GoesSilent`,
  `recordMarks`). The launch thread takes one record after the other, so the marks are
  those of the records that are done, in order, and then the first mark of the record
  that is about to run (`Marked`, `PunctualCall.marked`).
-/
import KernelDispatch.Proofs.Flush.Fates
import KernelDispatch.Proofs.Flush.Punctual

namespace KernelDispatch

variable {C : Type} {cfg : Settings} {env : Environment C}

/-! ## Marks of records -/

/-- The mark that an event about a launch job leaves in the timeline of a flush. -/
def Event.launchMark? (n : Nat) : Event C → Option Mark
  | recordStarted flush seq key =>
    if flush = n then some (.recordStarted seq key.digest) else none
  | recordEnded flush seq key _ outcome =>
    if flush = n then some (.recordEnded seq key.digest (isOk outcome)) else none
  | _ => none

/-- The marks of the launch jobs of a flush. -/
def launchMarks (n : Nat) (es : List (Event C)) : List Mark :=
  es.filterMap (Event.launchMark? n)

@[simp] theorem launchMarks_nil (n : Nat) : launchMarks n ([] : List (Event C)) = [] := rfl

@[simp] theorem launchMarks_cons (n : Nat) (e : Event C) (es : List (Event C)) :
    launchMarks n (e :: es) = (e.launchMark? n).toList ++ launchMarks n es := by
  rw [launchMarks, List.filterMap_cons]
  cases e.launchMark? n <;> rfl

@[simp] theorem launchMarks_append (n : Nat) (es fs : List (Event C)) :
    launchMarks n (es ++ fs) = launchMarks n es ++ launchMarks n fs :=
  List.filterMap_append

theorem launchMarks_of_quiet (n : Nat) {es : List (Event C)} (h : ∀ e ∈ es, e.isLaunch = false) :
    launchMarks n es = [] := by
  refine List.filterMap_eq_nil_iff.2 fun e h_e => ?_
  have h_quiet := h e h_e
  cases e with
  | recordStarted | recordEnded => simp [Event.isLaunch] at h_quiet
  | _ => rfl

/-- The places of the runs that took their launch jobs with them. -/
def lostRuns (runs : List (Nat × Execution C)) : List Nat :=
  runs.filterMap fun x =>
    match x.2 with
    | .lost _ => some x.1
    | _ => none

theorem mem_lostRuns {runs : List (Nat × Execution C)} {seq : Nat} :
    seq ∈ lostRuns runs ↔ ∃ cause, (seq, .lost cause) ∈ runs := by
  simp only [lostRuns, List.mem_filterMap]
  constructor
  · rintro ⟨⟨place, result⟩, h_run, h_place⟩
    cases result with
    | lost cause =>
      obtain rfl := Option.some.inj h_place
      exact ⟨cause, h_run⟩
    | completed | panicked => cases h_place
  · rintro ⟨cause, h_run⟩
    exact ⟨_, h_run, rfl⟩

theorem mem_completions {runs : List (Nat × Execution C)} {seq : Nat} :
    seq ∈ completions runs ↔ ∃ context, (seq, .completed context) ∈ runs := by
  simp only [completions, List.mem_filterMap]
  constructor
  · rintro ⟨⟨place, result⟩, h_run, h_place⟩
    cases result with
    | completed context =>
      obtain rfl := Option.some.inj h_place
      exact ⟨context, h_run⟩
    | lost | panicked => cases h_place
  · rintro ⟨context, h_run⟩
    exact ⟨_, h_run, rfl⟩

/-- Whether a record with its place comes to no outcome if there are artifacts for these tasks and
these are the runs of the flush: its run has taken the launch job with it, or there is no run and
the job is `mute`. -/
def GoesSilent (mute : Nat → Bool) (available : TaskId → Bool) (runs : List (Nat × Execution C))
    (x : Record C × Nat) : Prop :=
  x.2 ∈ lostRuns runs ∨ available x.1.key = false ∧ mute x.2 = true

instance (mute : Nat → Bool) (available : TaskId → Bool) (runs : List (Nat × Execution C))
    (x : Record C × Nat) : Decidable (GoesSilent mute available runs x) :=
  inferInstanceAs (Decidable (_ ∨ _))

/-- The marks that a record with its place leaves. -/
def recordMarks (mute : Nat → Bool) (available : TaskId → Bool) (runs : List (Nat × Execution C))
    (x : Record C × Nat) : List Mark :=
  (if available x.1.key then [.recordStarted x.2 x.1.key.digest] else []) ++
    if GoesSilent mute available runs x then []
    else [.recordEnded x.2 x.1.key.digest (decide (x.2 ∈ completions runs))]

/-- Only whether there is an artifact for its task and how it has run itself counts for a record. -/
theorem recordMarks_congr {mute : Nat → Bool} {available available' : TaskId → Bool}
    {runs runs' : List (Nat × Execution C)} {x : Record C × Nat}
    (h_available : available x.1.key = available' x.1.key)
    (h_runs : ∀ result, (x.2, result) ∈ runs ↔ (x.2, result) ∈ runs') :
    recordMarks mute available runs x = recordMarks mute available' runs' x := by
  have h_silent : GoesSilent mute available runs x ↔ GoesSilent mute available' runs' x := by
    simp only [GoesSilent, mem_lostRuns, h_runs, h_available]
  have h_completed : x.2 ∈ completions runs ↔ x.2 ∈ completions runs' := by
    simp only [mem_completions, h_runs]
  simp only [recordMarks, h_available, h_silent, h_completed]

namespace State

variable {s₀ t u : State C} {f f' : Flush C} {m : Move C} {ms : List (Move C)}
  {es : List (Stamped C)} {hs fs : List (Event C)} {n : Nat}

/-! ## The launch thread -/

/-- The mark of the record that is about to run. -/
def holdingMarks (t : State C) : List Mark :=
  match t.lane with
  | [] => []
  | job :: _ =>
    match job.phase with
    | .holding .. => [.recordStarted job.seq job.key.digest]
    | _ => []

theorem holdingMarks_of_queued (h : ∀ job ∈ t.lane, job.phase = .queued) : holdingMarks t = [] := by
  unfold holdingMarks
  split
  · rfl
  · next job rest h_lane =>
    rw [h job (by simp [h_lane])]

/-- A move that ends no record leaves no mark but that of a record that is now about to run. -/
theorem Transition.holdingMarks_eq (h_layout : Layout cfg t) (h_step : Transition cfg env t m u fs)
    (h_noEntry : ∀ e ∈ fs, e.isEntry = false) (h_f : t.current = some f) :
    holdingMarks u = holdingMarks t ++ launchMarks f.number fs := by
  have h_still (h_lane : u.lane = t.lane) (h_quiet : ∀ e ∈ fs, e.isLaunch = false) :
      holdingMarks u = holdingMarks t ++ launchMarks f.number fs := by
    rw [launchMarks_of_quiet _ h_quiet, List.append_nil, holdingMarks, holdingMarks, h_lane]
  cases h_step with
  | enqueue | dropArtifacts | returns | begins | pick | tick =>
    exact h_still rfl (by simp [Event.isLaunch])
  | worker _ _ h_step => exact h_still h_step.samePlan.lane h_step.quiet
  | caller _ h_step =>
    have h_quiet := h_step.quiet
    cases h_step with
    | submits =>
      rw [launchMarks_of_quiet _ h_quiet, List.append_nil]
      unfold holdingMarks
      cases t.lane <;> rfl
    | _ => exact h_still rfl h_quiet
  | @launcher job rest _ _ h_lane h_step =>
    have h_own := ((h_layout.inFlush f h_f).own job (by simp [h_lane])).1
    cases h_step with
    | waits h_phase => simp [holdingMarks, h_lane, h_phase]
    | finds h_phase =>
      simp [holdingMarks, h_lane, h_phase, Event.launchMark?, h_own]
    | aborts => exact h_still rfl (by simp [Event.isLaunch])
    | overflows | misses | mutes | expires | completes | panics | loses =>
      simp [Event.isEntry] at h_noEntry

/-- How the first launch job ends as long as no deadline passes: its slot has settled, and its
record leaves the marks that are due to it. -/
structure LeavesMarks (env : Environment C) (n : Nat) (t : State C) (job : LaunchJob C)
    (fs : List (Event C)) : Prop where
  settled : ∃ slot, t.store.slot? job.key = some slot ∧ slot.isPending = false
  places : ∀ x ∈ invocations n fs, x.1 = job.seq
  marks : recordMarks (env.mute n) t.store.contains (invocations n fs) (job.record, job.seq) =
    holdingMarks t ++ launchMarks n fs

/-- The records of a flush that are done, with their places. -/
def doneRecords (s₀ t : State C) (f : Flush C) : List (Record C × Nat) :=
  (s₀.backlog.take (t.done f)).zipIdx

/-- The marks of a flush so far are those of the records that are done, whose slots have settled,
and that of the record that is about to run. -/
structure Marked (env : Environment C) (s₀ t : State C) (hs : List (Event C)) (f : Flush C) :
    Prop where
  marks : launchMarks (s₀.flushes + 1) hs =
    (doneRecords s₀ t f).flatMap
      (recordMarks (env.mute (s₀.flushes + 1)) t.store.contains
        (invocations (s₀.flushes + 1) hs)) ++ holdingMarks t
  settled : ∀ x ∈ doneRecords s₀ t f, ∃ slot,
    t.store.slot? x.1.key = some slot ∧ slot.isPending = false
  places : ∀ x ∈ invocations (s₀.flushes + 1) hs, x.1 < t.done f

theorem place_lt_of_mem {x : Record C × Nat} (h : x ∈ doneRecords s₀ t f) : x.2 < t.done f := by
  have h_lt := List.snd_lt_of_mem_zipIdx h
  rw [List.length_take] at h_lt
  omega

namespace Marked

/-- The records that are done keep their marks, and their slots what they hold. -/
theorem carried (h : Marked env s₀ t hs f) (h_step : Transition cfg env t m u fs)
    (h_f' : u.current ≠ none)
    (h_places : ∀ x ∈ invocations (s₀.flushes + 1) fs, t.done f ≤ x.1) :
    (doneRecords s₀ t f).flatMap
        (recordMarks (env.mute (s₀.flushes + 1)) u.store.contains
          (invocations (s₀.flushes + 1) (hs ++ fs))) =
      (doneRecords s₀ t f).flatMap
        (recordMarks (env.mute (s₀.flushes + 1)) t.store.contains
          (invocations (s₀.flushes + 1) hs)) ∧
    ∀ x ∈ doneRecords s₀ t f, ∃ slot,
      u.store.slot? x.1.key = some slot ∧ slot.isPending = false := by
  -- A slot that has settled stays as it is while the flush is in progress.
  have h_stays {x : Record C × Nat} (h_x : x ∈ doneRecords s₀ t f) : ∃ slot,
      t.store.slot? x.1.key = some slot ∧ u.store.slot? x.1.key = some slot ∧
        slot.isPending = false := by
    obtain ⟨slot, h_slot, h_settled⟩ := h.settled x h_x
    exact ⟨slot, h_slot, h_step.slotChange.settled_stays h_f' h_slot h_settled, h_settled⟩
  constructor
  · refine List.flatMap_congr fun x h_x => recordMarks_congr ?_ fun result => ?_
    · obtain ⟨slot, h_slot, h_slot', -⟩ := h_stays h_x
      simp only [ArtifactStore.contains, h_slot, h_slot']
    · rw [invocations_append, List.mem_append, or_iff_left]
      intro h_new
      exact absurd (place_lt_of_mem h_x) (Nat.not_lt.2 (h_places _ h_new))
  · intro x h_x
    obtain ⟨slot, -, h_slot', h_settled⟩ := h_stays h_x
    exact ⟨slot, h_slot', h_settled⟩

/-- A move that ends no record. -/
theorem onward (h : Marked env s₀ t hs f) (h_layout : Layout cfg t) (h_f : t.current = some f)
    (h_number : f.number = s₀.flushes + 1) (h_step : Transition cfg env t m u fs)
    (h_onward : Onward t u fs) (h_f' : u.current = some f') (h_batch : f'.batch = f.batch) :
    Marked env s₀ u (hs ++ fs) f' := by
  have h_quiet : invocations (s₀.flushes + 1) fs = [] := by
    refine List.filterMap_eq_nil_iff.2 fun e h_e => ?_
    have h_e := h_onward.noEntry e h_e
    cases e with
    | ran => simp [Event.isEntry] at h_e
    | _ => rfl
  have h_done : u.done f' = t.done f := h_onward.done_eq h_batch
  obtain ⟨h_marks, h_settled⟩ := h.carried h_step (by simp [h_f']) (by simp [h_quiet])
  have h_records : doneRecords s₀ u f' = doneRecords s₀ t f := by
    rw [doneRecords, h_done, doneRecords]
  refine ⟨?_, h_records ▸ h_settled, ?_⟩
  · rw [h_records, h_marks, h_step.holdingMarks_eq h_layout h_onward.noEntry h_f, h_number,
      launchMarks_append, h.marks, List.append_assoc]
  · rw [invocations_append, h_quiet, List.append_nil, h_done]
    exact h.places

/-- The launch thread ends a record. -/
theorem closes (h : Marked env s₀ t hs f) (h_layout : FlushLayout cfg t f)
    (h_number : f.number = s₀.flushes + 1) (h_flush : f.batch = s₀.backlog)
    (h_batch : f'.batch = f.batch) (h_step : Transition cfg env t m u fs) (h_f' : u.current ≠ none)
    {job : LaunchJob C} {rest : List (LaunchJob C)} (h_lane : t.lane = job :: rest)
    (h_lane' : u.lane = rest) (h_backlog : u.backlog = t.backlog) (h_store : u.store = t.store)
    (h_leaves : LeavesMarks env job.flush t job fs) : Marked env s₀ u (hs ++ fs) f' := by
  have h_own := h_layout.own job (by simp [h_lane])
  have h_seq := h_layout.seq_eq h_lane
  rw [h_own.1, h_number] at h_leaves
  have h_done : u.done f' = t.done f + 1 := by
    rw [← done_closes h_layout h_lane]
    simp only [done, h_lane', h_backlog, h_batch]
  have h_records : doneRecords s₀ u f' = doneRecords s₀ t f ++ [(job.record, job.seq)] := by
    have h_take := h_layout.take_closes h_lane h_lane' h_backlog h_batch
    rw [h_flush] at h_take
    have h_length : (s₀.backlog.take (t.done f)).length = job.seq := by
      rw [List.length_take, h_seq, ← h_flush]
      exact Nat.min_eq_left (Nat.sub_le ..)
    rw [doneRecords, h_take, List.zipIdx_append, h_length, doneRecords]
    simp
  obtain ⟨h_marks, h_settled⟩ := h.carried h_step h_f' fun x h_x =>
    Nat.le_of_eq (h_seq.symm.trans (h_leaves.places x h_x).symm)
  -- The run of this record is the only one at its place.
  have h_last : recordMarks (env.mute (s₀.flushes + 1)) u.store.contains
      (invocations (s₀.flushes + 1) (hs ++ fs)) (job.record, job.seq) =
        holdingMarks t ++ launchMarks (s₀.flushes + 1) fs := by
    rw [← h_leaves.marks, h_store]
    refine recordMarks_congr rfl fun result => ?_
    rw [invocations_append, List.mem_append, or_iff_right]
    intro h_old
    have h_lt := h.places _ h_old
    simp only [h_seq] at h_lt
    omega
  refine ⟨?_, ?_, ?_⟩
  · have h_idle : holdingMarks u = [] := holdingMarks_of_queued fun other h_other =>
      h_layout.queued other (by rw [h_lane, List.tail_cons, ← h_lane']; exact h_other)
    rw [h_records, List.flatMap_append, h_marks, List.flatMap_singleton, h_last, h_idle,
      launchMarks_append, h.marks, List.append_nil, List.append_assoc]
  · rw [h_records]
    intro x h_x
    rcases List.mem_append.1 h_x with h_old | h_new
    · exact h_settled x h_old
    · obtain rfl := List.mem_singleton.1 h_new
      rw [h_store, ← h_own.2]
      exact h_leaves.settled
  · intro x h_x
    rw [invocations_append] at h_x
    rcases List.mem_append.1 h_x with h_old | h_new
    · exact h_done ▸ Nat.lt_succ_of_lt (h.places x h_old)
    · rw [h_leaves.places x h_new, h_seq, h_done]
      exact Nat.lt_succ_self _

end Marked

end State

end KernelDispatch
