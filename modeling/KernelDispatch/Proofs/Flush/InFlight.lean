/-
  KernelDispatch.Proofs.Flush.InFlight

  How many compile jobs for a task are under way at a time.

  A flush schedules a task only if it has no slot, and from then on the task has
  one until the flush is over; so the unfinished jobs of a flush have different
  tasks (`Separate`). The slots go at the end of the flush, but its jobs may stay:
  a job that is left over comes from a flush that has seen its deadline pass, or
  from one whose caller has panicked (`Explained`). Two unfinished jobs for one task
  are therefore of different flushes, and they need such a reason
  (`unfinished_jobs_for_one_task`). One passed deadline is reason enough
  (`two_jobs_for_one_task`).
-/
import KernelDispatch.Proofs.Flush.Consistency
import KernelDispatch.Proofs.Flush.Contents
import KernelDispatch.Proofs.Flush.Provenance
import KernelDispatch.Proofs.Flush.Return

namespace KernelDispatch

variable {C : Type} {cfg : Settings} {env : Environment C}

/-- Flush `n` has given up on its compile jobs because its deadline has passed. -/
def Late (n : Nat) (es : List (Event C)) : Prop :=
  ∃ waited join, Event.polled n (.expired waited) join ∈ es

theorem Late.append_left {n : Nat} {es : List (Event C)} (h : Late n es) (fs : List (Event C)) :
    Late n (es ++ fs) := by
  obtain ⟨waited, join, h_e⟩ := h
  exact ⟨waited, join, List.mem_append_left _ h_e⟩

namespace State

variable {s s' t : State C} {f f' : Flush C} {es fs : List (Event C)}

/-! ## The jobs of one flush -/

/-- The unfinished compile jobs of a flush have different tasks, and the tasks of those of the flush
in progress have slots. -/
structure Separate (s : State C) : Prop where
  keys : ∀ job ∈ s.jobs, ∀ job' ∈ s.jobs, job.flush = job'.flush → job.key = job'.key →
    job.id = job'.id
  slots : ∀ f, s.current = some f → ∀ job ∈ s.jobs, job.flush = f.number →
    s.store.slot? job.key ≠ none

theorem Rested.separate (h : Rested s) : Separate s where
  keys job h_job := by simp [h.jobs] at h_job
  slots f h_f := by simp [h.idle] at h_f

/-- A task that is scheduled has no unfinished job of the same flush. -/
theorem Separate.fresh {m : Move C} (h : Separate s) (h_step : Transition cfg env s m s' es)
    {n j : Nat} {key : TaskId} (h_scheduled : Event.scheduled n j key ∈ es)
    {job : CompileJob C} (h_job : job ∈ s.jobs) (h_flush : job.flush = n) : job.key ≠ key := by
  obtain ⟨f, _, _, h_f, -, h_number, -, -, h_new, -, -⟩ := h_step.of_scheduled h_scheduled
  rintro rfl
  exact h.slots f h_f job h_job (h_flush.trans h_number.symm) h_new

theorem Transition.separate {m : Move C} (h : Separate s) (h_numbered : Numbered s)
    (h_step : Transition cfg env s m s' es) : Separate s' := by
  constructor
  · intro job₁ h_job₁ job₂ h_job₂ h_flush h_key
    -- Each of the two was there before, or the move schedules it.
    rcases h_step.job_origin h_job₁ with
      ⟨old₁, h_old₁, h_id₁, h_flush₁, -, h_key₁⟩ | ⟨h_new₁, -⟩
    · rcases h_step.job_origin h_job₂ with
        ⟨old₂, h_old₂, h_id₂, h_flush₂, -, h_key₂⟩ | ⟨h_new₂, -⟩
      · rw [h_id₁, h_id₂]
        refine h.keys old₁ h_old₁ old₂ h_old₂ ?_ ?_
        · rw [← h_flush₁, ← h_flush₂, h_flush]
        · rw [← h_key₁, ← h_key₂, h_key]
      · exact absurd (h_key₁.symm.trans h_key)
          (h.fresh h_step h_new₂ h_old₁ (h_flush₁.symm.trans h_flush))
    · rcases h_step.job_origin h_job₂ with
        ⟨old₂, h_old₂, -, h_flush₂, -, h_key₂⟩ | ⟨h_new₂, -⟩
      · exact absurd (h_key₂.symm.trans h_key.symm)
          (h.fresh h_step h_new₁ h_old₂ (h_flush₂.symm.trans h_flush.symm))
      · obtain ⟨_, _, _, -, -, -, -, h_id₁, -⟩ := h_step.of_scheduled h_new₁
        obtain ⟨_, _, _, -, -, -, -, h_id₂, -⟩ := h_step.of_scheduled h_new₂
        rw [h_id₁, h_id₂]
  · intro f' h_f' job h_job h_flush
    rcases h_step.job_origin h_job with
      ⟨old, h_old, -, h_flush₀, -, h_key₀⟩ | ⟨h_new, -⟩
    · rcases h_step.flush_origin h_f' with ⟨-, f, h_f, h_number, -⟩ | ⟨-, -, rfl, -⟩
      · have h_known := h.slots f h_f old h_old (by rw [← h_flush₀, h_flush, h_number])
        rw [h_key₀]
        exact h_step.slotChange.known h_known h_f'
      · -- A flush that begins has no jobs yet.
        have h_begun := h_numbered.begun old h_old
        have h_first : job.flush = s.flushes + 1 := h_flush
        omega
    · obtain ⟨_, _, _, -, -, -, -, -, -, h_slot, -⟩ := h_step.of_scheduled h_new
      rw [h_slot]
      simp

/-! ## Jobs that are left over -/

/-- Every unfinished compile job belongs to the flush in progress, or to a flush that has seen its
deadline pass, or a caller has panicked. -/
def Explained (s : State C) (es : List (Event C)) : Prop :=
  ∀ job ∈ s.jobs, (∃ f, s.current = some f ∧ f.number = job.flush) ∨ Late job.flush es ∨ ¬ Calm es

/-- A flush whose wait is over although one of its jobs is unfinished has seen its deadline pass. -/
theorem Joined.late {job : CompileJob C} (h : Joined cfg s fs f) (h_counted : Counted s fs f)
    (h_stage : ¬ f.Requesting) (h_over : f.join.isOver = true) (h_job : job ∈ s.jobs)
    (h_flush : job.flush = f.number) : Late f.number fs := by
  have h_some : 0 < s.reporters f.number :=
    List.countP_pos_iff.2 ⟨job, h_job, by simpa using h_flush⟩
  -- With an outcome still to come, the wait can only be over because the flush has given up.
  have h_total : f.join.expected = f.join.received + f.inbox.length + s.unreported fs f.number := by
    rw [← h_counted.total, awaited_of_requested h_stage]
  rw [unreported] at h_total
  obtain ⟨taken, own, -, -, -, h_own⟩ := h.received
  cases h_own with
  | waits h_on =>
    simp only [Join.isOver, h_on, Bool.false_or, beq_iff_eq] at h_over
    omega
  | expired _ h_polled => exact ⟨_, _, h_polled⟩
  | orphaned _ _ h_gone => omega

/-- The caller goes on with its flush, or it panics, or its wait for the compile jobs is over. -/
theorem CallerStep.goesOn_or_ends (h : Joined cfg s fs f) (h_step : CallerStep cfg env s f s' es) :
    (∃ f', s'.current = some f' ∧ f'.number = f.number) ∨
      Event.unwound overflowMessage ∈ es ∨ ¬ f.Requesting ∧ f.join.isOver = true := by
  have h_later (stage : Stage C) (h_stage : f.stage = stage)
      (h_not : ∀ rest, stage ≠ .requesting rest) : ¬ f.Requesting := by
    rintro ⟨rest, h_requesting⟩
    exact h_not rest (h_stage.symm.trans h_requesting)
  cases h_step with
  | unwinds => exact .inr (.inl (List.mem_singleton_self _))
  | abandons h_stage h_over => exact .inr (.inr ⟨h_later _ h_stage (by simp), h_over⟩)
  | succeeds h_stage | fails h_stage =>
    have h_past : f.PastJoin cfg := by simp [Flush.PastJoin, h_stage]
    exact .inr (.inr ⟨h_later _ h_stage (by simp), h.isOver h_past⟩)
  | _ => exact .inl ⟨_, rfl, rfl⟩

theorem Transition.explained {m : Move C} (h : Explained s fs) (h_consistent : Consistent cfg s fs)
    (h_step : Transition cfg env s m s' es) : Explained s' (fs ++ es) := by
  intro job h_job
  have h_late (n : Nat) (h_reason : Late n fs ∨ ¬ Calm fs) :
      Late n (fs ++ es) ∨ ¬ Calm (fs ++ es) :=
    h_reason.imp (fun h_late => h_late.append_left es)
      fun h_unwound h_calm => h_unwound h_calm.of_append.1
  rcases h_step.job_origin h_job with ⟨old, h_old, -, h_flush, -, -⟩ | ⟨h_new, -⟩
  · rw [h_flush]
    rcases h old h_old with ⟨f, h_f, h_number⟩ | h_reason
    · -- The flush of the job is in progress before the move; what if the move ends it?
      have h_same (h_outline : s'.current.map Flush.outline = s.current.map Flush.outline) :
          ∃ f', s'.current = some f' ∧ f'.number = old.flush := by
        obtain ⟨f', h_f', h_equal⟩ := exists_flush_of_outline_eq h_outline.symm h_f
        have h_number' : f.number = f'.number := congrArg (fun g => g.number) h_equal
        exact ⟨f', h_f', h_number'.symm.trans h_number⟩
      cases h_step with
      | enqueue h_idle | dropArtifacts h_idle | returns h_idle | begins h_idle =>
        simp [h_idle] at h_f
      | pick | tick => exact .inl ⟨f, h_f, h_number⟩
      | worker h_running h_found h_step => exact .inl (h_same h_step.samePlan.current)
      | launcher h_lane h_step => exact .inl (h_same h_step.plan.2.2)
      | caller h_current h_step =>
        obtain rfl := Option.some.inj (h_current.symm.trans h_f)
        have h_joined := h_consistent.joined _ h_current
        have h_counted := h_consistent.counted _ h_current
        rcases h_step.goesOn_or_ends h_joined with
          ⟨f', h_f', h_same⟩ | h_unwound | ⟨h_stage, h_over⟩
        · exact .inl ⟨f', h_f', h_same.trans h_number⟩
        · refine .inr (.inr fun h_calm => ?_)
          exact h_calm _ (List.mem_append_right _ h_unwound)
        · have h_passed := h_joined.late h_counted h_stage h_over h_old h_number.symm
          rw [← h_number]
          exact .inr (.inl (h_passed.append_left es))
    · exact .inr (h_late _ h_reason)
  · obtain ⟨f, r, rest, -, -, h_number, -, -, -, -, h_f'⟩ := h_step.of_scheduled h_new
    exact .inl ⟨_, h_f', h_number⟩

/-! ## All runs -/

theorem separate_of_run {ms : List (Move C)} {es : List (Stamped C)} (h_rested : Rested s)
    (h_run : run cfg env s ms = some (t, es)) : Separate t :=
  consistent_induction (P := fun t _ => Separate t) h_rested h_rested.separate
    (fun h_consistent h_separate h_step => h_step.separate h_separate h_consistent.numbered) h_run

theorem explained_of_run {ms : List (Move C)} {es : List (Stamped C)} (h_rested : Rested s)
    (h_run : run cfg env s ms = some (t, es)) : Explained t (history es) := by
  refine consistent_induction (P := fun t es => Explained t es) h_rested ?_
    (fun h_consistent h_explained h_step => h_step.explained h_explained h_consistent) h_run
  intro job h_job
  simp [h_rested.jobs] at h_job

/-- Two unfinished compile jobs for one task belong to different flushes, and the earlier flush has
seen its deadline pass, or a caller has panicked. So as long as neither happens, every task has at
most one unfinished compile job. -/
theorem unfinished_jobs_for_one_task {threads : Nat} {now : Moment} {ms : List (Move C)}
    {es : List (Stamped C)} (h_run : run cfg env (start threads now) ms = some (t, es)) :
    (∀ job ∈ t.jobs, ∀ job' ∈ t.jobs, job.key = job'.key → job.id ≠ job'.id →
      job.flush ≤ job'.flush →
        job.flush < job'.flush ∧ (Late job.flush (history es) ∨ ¬ Calm (history es))) ∧
    ((∀ n, ¬ Late n (history es)) → Calm (history es) →
      ∀ k, (t.jobs.filter (·.key = k)).length ≤ 1) := by
  have h_rested := rested_start (C := C) threads now
  have h_consistent := consistent_of_run h_rested h_run
  have h_separate := separate_of_run h_rested h_run
  have h_explained := explained_of_run h_rested h_run
  have h_two : ∀ job ∈ t.jobs, ∀ job' ∈ t.jobs, job.key = job'.key → job.id ≠ job'.id →
      job.flush ≤ job'.flush →
        job.flush < job'.flush ∧ (Late job.flush (history es) ∨ ¬ Calm (history es)) := by
    intro job h_job job' h_job' h_key h_id h_le
    have h_flush : job.flush ≠ job'.flush := fun h_flush =>
      h_id (h_separate.keys job h_job job' h_job' h_flush h_key)
    have h_lt := Nat.lt_of_le_of_ne h_le h_flush
    refine ⟨h_lt, (h_explained job h_job).resolve_left ?_⟩
    -- The flush in progress is the last one, and the other job's flush began after this one's.
    rintro ⟨f, h_f, h_number⟩
    have h_last := (h_consistent.layout.inFlush f h_f).number
    have h_begun := h_consistent.numbered.begun job' h_job'
    omega
  refine ⟨h_two, fun h_punctual h_calm k => ?_⟩
  match h_jobs : t.jobs.filter (·.key = k) with
  | [] | [_] => simp [h_jobs]
  | job :: job' :: rest =>
    have h_mem : ∀ j ∈ job :: job' :: rest, j ∈ t.jobs ∧ j.key = k := by
      intro j h_j
      rw [← h_jobs, List.mem_filter] at h_j
      simpa using h_j
    obtain ⟨h_job, h_key⟩ := h_mem job (by simp)
    obtain ⟨h_job', h_key'⟩ := h_mem job' (by simp)
    have h_id : job.id ≠ job'.id := by
      have h_distinct := h_consistent.numbered.distinct.sublist
        ((List.filter_sublist (p := (·.key = k))).map CompileJob.id)
      rw [h_jobs, List.map_cons, List.map_cons, List.nodup_cons] at h_distinct
      exact fun h_same => h_distinct.1 (by simp [h_same])
    have h_none (n : Nat) (h_reason : Late n (history es) ∨ ¬ Calm (history es)) : False :=
      h_reason.elim (h_punctual n) (fun h_unwound => h_unwound h_calm)
    rcases Nat.le_total job.flush job'.flush with h_le | h_le
    · exact (h_none _ (h_two job h_job job' h_job' (h_key.trans h_key'.symm) h_id h_le).2).elim
    · exact (h_none _
        (h_two job' h_job' job h_job (h_key'.trans h_key.symm) (Ne.symm h_id) h_le).2).elim

/-- Two records of one task share its only compile job. -/
theorem two_records_share_their_job :
    ∃ t es, run {} counted (start 1 0)
        [.enqueue ⟨0, "k", "a"⟩, .enqueue ⟨1, "k", "a"⟩, .flush, .caller, .caller,
          .pick (.takeShared 0 0), .worker 0] = some (t, es) ∧
      t.jobs.map CompileJob.key = [.ofText "a"] ∧
      ∀ k, (t.jobs.filter (·.key = k)).length ≤ 1 := by
  have h_summary : (run {} counted (start 1 0)
      [.enqueue ⟨0, "k", "a"⟩, .enqueue ⟨1, "k", "a"⟩, .flush, .caller, .caller,
        .pick (.takeShared 0 0), .worker 0]).map
        (fun r => (r.1.jobs.map CompileJob.key, (history r.2).filter Event.isPoll,
          answers (history r.2))) = some ([.ofText "a"], [], []) := rfl
  obtain ⟨⟨t, es⟩, h_run, h_eq⟩ := Option.map_eq_some_iff.1 h_summary
  simp only [Prod.mk.injEq] at h_eq
  obtain ⟨h_jobs, h_polls, h_answers⟩ := h_eq
  obtain ⟨-, h_one⟩ := unfinished_jobs_for_one_task h_run
  refine ⟨t, es, h_run, h_jobs, h_one ?_ ?_⟩
  · rintro n ⟨waited, join, h_e⟩
    have h_poll := List.filter_eq_nil_iff.1 h_polls _ h_e
    simp [Event.isPoll] at h_poll
  · intro message h_e
    have h_answer := List.filter_eq_nil_iff.1 h_answers _ h_e
    simp [Event.isAnswer] at h_answer

/-- A flush gives up on a compile job that goes on running, and the next flush of the same task
submits another one: now there are two. -/
theorem two_jobs_for_one_task :
    impatient.Valid ∧ ∃ t es,
      run impatient counted (start 1 0) (outlivedFlush ++ [.flush, .caller]) = some (t, es) ∧
        t.jobs.map CompileJob.flush = [1, 2] ∧
        (t.jobs.filter (·.key = .ofText "a")).length = 2 := by
  have h_summary :
      (run impatient counted (start 1 0) (outlivedFlush ++ [.flush, .caller])).map (fun r =>
        (r.1.jobs.map CompileJob.flush,
          (r.1.jobs.filter (·.key = .ofText "a")).length)) = some ([1, 2], 2) := rfl
  obtain ⟨⟨t, es⟩, h_run, h_eq⟩ := Option.map_eq_some_iff.1 h_summary
  obtain ⟨h_flushes, h_length⟩ := Prod.mk.inj h_eq
  exact ⟨by decide, t, es, h_run, h_flushes, h_length⟩

end State

end KernelDispatch
