/-
  KernelDispatch.Proofs.Flush.Jobs

  Compile jobs, from their submission to their report.

  Compile jobs have different numbers (`numbered_of_run`), and each of them goes
  from phase to phase on its own (`PhaseStep`, `Transition.job_step`). A flush that
  waits for its compile jobs has received the outcome of a job, or has it in its
  inbox, or the job can still report, or it is lost (`counted_of_run`). So a flush
  that is left waiting for nobody has lost a job (`lost_of_orphaned_of_run`).
-/
import KernelDispatch.Proofs.Flush.Unwinding

namespace KernelDispatch

variable {C : Type} {cfg : Settings} {env : Environment C}

/-- Whether an event is that a compile job of flush `n` is lost. -/
def Event.losesJob (n : Nat) : Event C → Bool
  | compileJobLost flush _ _ => flush == n
  | _ => false

namespace State

variable {s s' t : State C} {f f' : Flush C} {es fs : List (Event C)}

/-! ## Numbers -/

/-- Compile jobs have different numbers, and they belong to flushes that have begun. -/
structure Numbered (s : State C) : Prop where
  distinct : (s.jobs.map CompileJob.id).Nodup
  given : ∀ job ∈ s.jobs, job.id < s.submitted
  begun : ∀ job ∈ s.jobs, job.flush ≤ s.flushes

theorem setPhase_ids (s : State C) (id : Nat) (phase : CompilePhase C) :
    (s.setPhase id phase).jobs.map CompileJob.id = s.jobs.map CompileJob.id := by
  simp only [setPhase, List.map_map]
  congr 1
  funext j
  simp only [Function.comp]
  split <;> rfl

theorem Numbered.of_setPhase (h : Numbered s) {id : Nat} {phase : CompilePhase C}
    (h_jobs : s'.jobs = (s.setPhase id phase).jobs) (h_submitted : s'.submitted = s.submitted)
    (h_flushes : s'.flushes = s.flushes) : Numbered s' where
  distinct := by
    rw [h_jobs, setPhase_ids]
    exact h.distinct
  given job' h_job' := by
    obtain ⟨job, h_job, h_id, -⟩ := exists_sameJob_of_setPhase (h_jobs ▸ h_job')
    rw [h_id, h_submitted]
    exact h.given job h_job
  begun job' h_job' := by
    obtain ⟨job, h_job, -, h_flush, -⟩ := exists_sameJob_of_setPhase (h_jobs ▸ h_job')
    rw [h_flush, h_flushes]
    exact h.begun job h_job

theorem Numbered.of_sublist (h : Numbered s) (h_jobs : s'.jobs.Sublist s.jobs)
    (h_submitted : s'.submitted = s.submitted) (h_flushes : s.flushes ≤ s'.flushes) :
    Numbered s' where
  distinct := h.distinct.sublist (h_jobs.map _)
  given job h_job := h_submitted ▸ h.given job (h_jobs.subset h_job)
  begun job h_job := Nat.le_trans (h.begun job (h_jobs.subset h_job)) h_flushes

theorem Transition.numbered {m : Move C} (h : Numbered s) (h_layout : Layout cfg s)
    (h_step : Transition cfg env s m s' es) : Numbered s' := by
  cases h_step with
  | @caller f _ _ h_current h_step =>
    cases h_step with
    | schedules =>
      refine ⟨?_, ?_, ?_⟩
      · rw [List.map_append, List.nodup_append]
        refine ⟨h.distinct, List.nodup_singleton _, ?_⟩
        -- The new number is above all others.
        intro a h_a b h_b
        obtain ⟨job, h_job, rfl⟩ := List.mem_map.1 h_a
        obtain rfl : b = s.submitted := by simpa using h_b
        exact Nat.ne_of_lt (h.given job h_job)
      · intro job h_job
        rcases List.mem_append.1 h_job with h_old | h_new
        · exact Nat.lt_succ_of_lt (h.given job h_old)
        · obtain rfl := List.mem_singleton.1 h_new
          exact Nat.lt_succ_self _
      · intro job h_job
        rcases List.mem_append.1 h_job with h_old | h_new
        · exact h.begun job h_old
        · obtain rfl := List.mem_singleton.1 h_new
          exact Nat.le_of_eq (h_layout.inFlush f h_current).number
    | _ => exact h.of_sublist (List.Sublist.refl _) rfl (Nat.le_refl _)
  | worker h_running h_job h_step =>
    cases h_step with
    | starts | generates | settles => exact h.of_setPhase rfl rfl rfl
    | reports | loses => exact h.of_sublist List.filter_sublist rfl (Nat.le_refl _)
    | aborts => exact h.of_sublist (List.Sublist.refl _) rfl (Nat.le_refl _)
  | launcher h_lane h_step =>
    cases h_step <;> exact h.of_sublist (List.Sublist.refl _) rfl (Nat.le_refl _)
  | begins => exact h.of_sublist (List.Sublist.refl _) rfl (Nat.le_succ _)
  | _ => exact h.of_sublist (List.Sublist.refl _) rfl (Nat.le_refl _)

/-- Compile jobs have different numbers in every run. -/
theorem numbered_of_run {threads : Nat} {now : Moment} {ms : List (Move C)}
    {es : List (Stamped C)} (h_run : run cfg env (start threads now) ms = some (t, es)) :
    Numbered t := by
  refine run_induction (P := fun _ t _ => Numbered t) ⟨?_, ?_, ?_⟩ ?_ h_run
  · simp [start]
  · simp [start]
  · simp [start]
  · intro ms m t es u fs h_run _ h_numbered h_step
    exact h_step.numbered h_numbered (layout_of_run h_run)

/-! ## Phases -/

/-- A compile job goes from one phase to the next. -/
inductive PhaseStep (env : Environment C) (job : CompileJob C) :
    CompilePhase C → CompilePhase C → Prop where
  | starts {calls : List CodegenCall} {call : CodegenCall} {since : Moment}
      (h_task : call.task = job.key.text) :
      PhaseStep env job .queued (.generating call (env.codegen calls call) since)
  | generates {call : CodegenCall} {result : Generated C} {since : Moment} :
      PhaseStep env job (.generating call result since) (afterCodegen call result).1
  | settles {result : Except Failure (Artifact C)} :
      PhaseStep env job (.generated result) (.settled (jobOutcome job result))

/-- The jobs after one of them has changed its phase. -/
theorem job_of_setPhase (h : Numbered s) {job job' : CompileJob C} {phase : CompilePhase C}
    (h_job : job ∈ s.jobs) (h_job' : job' ∈ (s.setPhase job.id phase).jobs) :
    job' ∈ s.jobs ∨ job' = { job with phase := phase } := by
  obtain ⟨job₀, h_job₀, rfl⟩ := List.mem_map.1 h_job'
  split
  · next h_id =>
    -- Numbers differ, so the job with this number is the one that moves.
    rw [List.inj_on_of_nodup_map h.distinct h_job₀ h_job (by simpa using h_id)]
    exact .inr rfl
  · exact .inl h_job₀

/-- A compile job after a move was there before it, or is new, or it has changed its phase. -/
theorem Transition.job_step {m : Move C} (h : Numbered s) (h_step : Transition cfg env s m s' es)
    {job' : CompileJob C} (h_job' : job' ∈ s'.jobs) :
    job' ∈ s.jobs ∨
      job'.phase = .queued ∧ Event.scheduled job'.flush job'.id job'.key ∈ es ∨
      ∃ job phase, job ∈ s.jobs ∧ PhaseStep env job job.phase phase ∧
        job' = { job with phase := phase } := by
  cases h_step with
  | caller h_current h_step =>
    cases h_step with
    | schedules =>
      rcases List.mem_append.1 h_job' with h_old | h_new
      · exact .inl h_old
      · obtain rfl := List.mem_singleton.1 h_new
        exact .inr (.inl ⟨rfl, List.mem_append_right _ (List.mem_singleton_self _)⟩)
    | _ => exact .inl h_job'
  | @worker _ _ job _ _ h_running h_found h_step =>
    have h_job : job ∈ s.jobs := List.mem_of_find?_eq_some h_found
    -- The worker moves one job; all others are what they were.
    have h_advances (phase : CompilePhase C) (h_phase : PhaseStep env job job.phase phase)
        (h_mem : job' ∈ (s.setPhase job.id phase).jobs) :
        job' ∈ s.jobs ∨
          job'.phase = .queued ∧ Event.scheduled job'.flush job'.id job'.key ∈ es ∨
          ∃ job phase, job ∈ s.jobs ∧ PhaseStep env job job.phase phase ∧
            job' = { job with phase := phase } := by
      rcases job_of_setPhase h h_job h_mem with h_old | h_new
      · exact .inl h_old
      · exact .inr (.inr ⟨job, phase, h_job, h_phase, h_new⟩)
    cases h_step with
    | starts h_phase h_call =>
      refine h_advances _ ?_ h_job'
      rw [h_phase]
      exact .starts (by rw [h_call]; rfl)
    | generates h_phase =>
      refine h_advances _ ?_ h_job'
      rw [h_phase]
      exact .generates
    | settles h_phase =>
      refine h_advances _ ?_ h_job'
      rw [h_phase]
      exact .settles
    | reports | loses => exact .inl (List.mem_filter.1 h_job').1
    | aborts => exact .inl h_job'
  | launcher h_lane h_step => cases h_step <;> exact .inl h_job'
  | _ => exact .inl h_job'

/-! ## Counting -/

/-- The number of compile jobs of a flush that can still report. -/
def reporters (s : State C) (n : Nat) : Nat :=
  s.jobs.countP (·.flush == n)

/-- The number of compile jobs of a flush that have not reported, be it that they still can or that
they are lost. -/
def unreported (s : State C) (es : List (Event C)) (n : Nat) : Nat :=
  s.reporters n + es.countP (Event.losesJob n)

/-- The number of outcomes that a flush waits for. -/
def awaited (f : Flush C) : Nat :=
  match f.stage with
  | .requesting _ => f.report.compiled
  | _ => f.join.expected

theorem awaited_of_requested (h_stage : ¬ f.Requesting) : awaited f = f.join.expected := by
  unfold awaited
  split
  · next rest h_requesting => exact absurd ⟨rest, h_requesting⟩ h_stage
  · rfl

/-- A flush has received the outcome of each of its compile jobs, or it is in the inbox, or the job
has not reported. -/
structure Counted (s : State C) (es : List (Event C)) (f : Flush C) : Prop where
  total : awaited f = f.join.received + f.inbox.length + s.unreported es f.number
  fresh : f.Requesting → f.join.received = 0

/-- A job in a list, with the other jobs around it, which have other numbers. -/
theorem split_at_job {jobs : List (CompileJob C)} {job : CompileJob C}
    (h_distinct : (jobs.map CompileJob.id).Nodup) (h_job : job ∈ jobs) :
    ∃ before after, jobs = before ++ job :: after ∧
      (∀ other ∈ before, other.id ≠ job.id) ∧ ∀ other ∈ after, other.id ≠ job.id := by
  obtain ⟨before, after, rfl⟩ := List.append_of_mem h_job
  rw [List.map_append, List.map_cons, List.nodup_append, List.nodup_cons] at h_distinct
  obtain ⟨-, ⟨h_after, -⟩, h_before⟩ := h_distinct
  refine ⟨before, after, rfl, ?_, ?_⟩
  · intro other h_other
    exact h_before _ (List.mem_map_of_mem h_other) _ (List.mem_cons_self ..)
  · intro other h_other h_id
    exact h_after (h_id ▸ List.mem_map_of_mem h_other)

/-- Jobs with other numbers stay when a job is dropped. -/
theorem filter_of_ne {others : List (CompileJob C)} {id : Nat}
    (h_others : ∀ other ∈ others, other.id ≠ id) : others.filter (·.id != id) = others :=
  List.filter_eq_self.2 fun other h_other => by simpa using h_others other h_other

/-- Jobs with other numbers stay as they are when the phase of a job changes. -/
theorem map_of_ne {others : List (CompileJob C)} {id : Nat} (phase : CompilePhase C)
    (h_others : ∀ other ∈ others, other.id ≠ id) :
    (others.map fun j => if j.id == id then { j with phase := phase } else j) = others := by
  refine (List.map_congr_left fun other h_other => ?_).trans (List.map_id others)
  simp [h_others other h_other]

/-- With one of its jobs gone, a list has this job less. -/
theorem countP_dropJob {jobs : List (CompileJob C)} {job : CompileJob C}
    (q : CompileJob C → Bool) (h_distinct : (jobs.map CompileJob.id).Nodup) (h_job : job ∈ jobs) :
    (jobs.filter (·.id != job.id)).countP q + (if q job then 1 else 0) = jobs.countP q := by
  obtain ⟨before, after, rfl, h_before, h_after⟩ := split_at_job h_distinct h_job
  rw [List.filter_append, List.filter_cons_of_neg (by simp), filter_of_ne h_before,
    filter_of_ne h_after, List.countP_append, List.countP_append, List.countP_cons]
  omega

/-- With the phase of one of its jobs changed, a list has this job less and the changed one
more. -/
theorem countP_setPhase {job : CompileJob C} {phase : CompilePhase C} (q : CompileJob C → Bool)
    (h : Numbered s) (h_job : job ∈ s.jobs) :
    (s.setPhase job.id phase).jobs.countP q + (if q job then 1 else 0) =
      s.jobs.countP q + if q { job with phase := phase } then 1 else 0 := by
  obtain ⟨before, after, h_jobs, h_before, h_after⟩ := split_at_job h.distinct h_job
  simp only [setPhase, h_jobs, List.map_append, List.map_cons, map_of_ne phase h_before,
    map_of_ne phase h_after, beq_self_eq_true, if_true, List.countP_append, List.countP_cons]
  omega

theorem reporters_setPhase (s : State C) (id : Nat) (phase : CompilePhase C) (n : Nat) :
    (s.setPhase id phase).reporters n = s.reporters n := by
  simp only [reporters, setPhase, List.countP_map]
  congr 1
  funext j
  simp only [Function.comp]
  split <;> rfl

theorem reporters_eq_zero_iff {n : Nat} : s.hasReporter n = false ↔ s.reporters n = 0 := by
  simp [hasReporter, reporters, List.countP_eq_zero]

/-- Moves that lose no job leave it to the jobs how many have not reported. -/
theorem unreported_of_noLoss {n : Nat} (h_noLoss : ∀ e ∈ es, e.losesJob n = false) :
    s.unreported (fs ++ es) n = s.unreported fs n := by
  have h_zero : es.countP (Event.losesJob n) = 0 :=
    List.countP_eq_zero.2 fun e h_e => by simp [h_noLoss e h_e]
  rw [unreported, List.countP_append, h_zero, Nat.add_zero, unreported]

theorem Counted.of_unreported_eq (h : Counted s fs f)
    (h_unreported : s'.unreported (fs ++ es) f.number = s.unreported fs f.number) :
    Counted s' (fs ++ es) f :=
  ⟨by rw [h_unreported]; exact h.total, h.fresh⟩

/-- What a flush counts does not change while nothing is requested, received or reported. -/
theorem Counted.same (h : Counted s fs f) (h_awaited : awaited f' = awaited f)
    (h_number : f'.number = f.number) (h_join : f'.join.received = f.join.received)
    (h_inbox : f'.inbox = f.inbox)
    (h_unreported : s'.unreported (fs ++ es) f.number = s.unreported fs f.number)
    (h_fresh : f'.Requesting → f.Requesting) : Counted s' (fs ++ es) f' where
  total := by
    rw [h_awaited, h_number, h_join, h_inbox, h_unreported]
    exact h.total
  fresh h_requesting := h_join.trans (h.fresh (h_fresh h_requesting))

/-- A poll moves an outcome from the inbox to those received, or it moves nothing. -/
theorem poll_counts {inbox inbox' : List Outcome} {connected : Bool} {start deadline now : Moment}
    {found : Polled}
    (h_poll : Polled.poll inbox connected start deadline now = some (found, inbox')) (j : Join) :
    (j.note found).expected = j.expected ∧
      (j.note found).received + inbox'.length = j.received + inbox.length := by
  -- A poll takes an outcome from the inbox; a flush that gives up takes none.
  unfold Polled.poll at h_poll
  split at h_poll
  · cases h_poll
    refine ⟨rfl, ?_⟩
    simp only [Join.note, List.length_cons]
    omega
  · split at h_poll
    · cases h_poll
      exact ⟨rfl, rfl⟩
    · split at h_poll
      · cases h_poll
        exact ⟨rfl, rfl⟩
      · contradiction

/-- The caller loses no compile job. -/
theorem CallerStep.noLoss (h : CallerStep cfg env s f s' es) (n : Nat) :
    ∀ e ∈ es, e.losesJob n = false := by
  cases h with
  | schedules | shares | reuses =>
    simp only [List.mem_append, List.mem_map, List.mem_singleton]
    rintro e (⟨_, -, rfl⟩ | rfl) <;> rfl
  | _ => simp [Event.losesJob, joinedEvent, endedEvent]

theorem CallerStep.counted (h : Counted s fs f) (h_step : CallerStep cfg env s f s' es)
    (h_f' : s'.current = some f') : Counted s' (fs ++ es) f' := by
  have h_noLoss : s'.unreported (fs ++ es) f.number = s'.unreported fs f.number :=
    unreported_of_noLoss (h_step.noLoss f.number)
  cases h_step with
  | @schedules r rest h_stage h_new =>
    cases h_f'
    have h_total := h.total
    simp only [awaited, h_stage] at h_total
    refine ⟨?_, fun _ => h.fresh ⟨_, h_stage⟩⟩
    refine Eq.trans ?_ (congrArg (f.join.received + f.inbox.length + ·) h_noLoss.symm)
    simp only [awaited, Flush.requested, Report.count, unreported, reporters, List.countP_append,
      List.countP_singleton, beq_self_eq_true, if_true] at h_total ⊢
    omega
  | shares h_stage | reuses h_stage =>
    cases h_f'
    refine h.same ?_ rfl rfl rfl h_noLoss fun _ => ⟨_, h_stage⟩
    simp only [awaited, Flush.requested, Report.count, h_stage]
  | beginsJoin h_stage h_deadline =>
    cases h_f'
    have h_total := h.total
    -- The wait begins with what the report counts and with nothing received.
    have h_fresh := h.fresh ⟨_, h_stage⟩
    simp only [awaited, h_stage, h_fresh] at h_total
    refine ⟨?_, fun _ => rfl⟩
    refine Eq.trans ?_ (congrArg (0 + f.inbox.length + ·) h_noLoss.symm)
    simp only [awaited, Flush.joinFrom]
    split
    · next h_requesting => split at h_requesting <;> cases h_requesting
    · exact h_total
  | @polls found inbox h_stage h_over h_poll =>
    cases h_f'
    have h_total := h.total
    simp only [awaited, h_stage] at h_total
    obtain ⟨h_expected, h_received⟩ := poll_counts h_poll f.join
    refine ⟨?_, ?_⟩
    · refine Eq.trans ?_
        (congrArg ((f.join.note found).received + inbox.length + ·) h_noLoss.symm)
      simp only [awaited, h_stage, h_expected, h_total, unreported, reporters]
      omega
    · rintro ⟨rest, h_requesting⟩
      exact absurd (h_stage.symm.trans h_requesting) (by simp)
  | submits h_stage | submitsNothing h_stage | joins h_stage | drains h_stage
  | drainsJoined h_stage | submitsJoined h_stage =>
    cases h_f'
    refine h.same ?_ rfl rfl rfl h_noLoss ?_
    · simp only [awaited, h_stage]
    · rintro ⟨rest, h_requesting⟩
      cases h_requesting
  | unwinds | abandons | succeeds | fails => cases h_f'

/-- A compile job that reports moves from the jobs of its flush to the inbox. -/
theorem WorkerStep.counted {worker : Nat} {job : CompileJob C} (h_numbered : Numbered s)
    (h_job : job ∈ s.jobs) (h : ∀ f, s.current = some f → Counted s fs f)
    (h_step : WorkerStep cfg env s worker job s' es) (h_f' : s'.current = some f') :
    Counted s' (fs ++ es) f' := by
  cases h_step with
  | starts | generates | settles =>
    refine (h f' h_f').of_unreported_eq ?_
    rw [unreported_of_noLoss (by simp [Event.losesJob]), unreported, unreported]
    congr 1
    exact reporters_setPhase s job.id _ f'.number
  | aborts => exact (h f' h_f').of_unreported_eq (unreported_of_noLoss (by simp [Event.losesJob]))
  | loses h_phase =>
    -- The job is counted as lost instead.
    refine (h f' h_f').of_unreported_eq ?_
    have h_drop := countP_dropJob (·.flush == f'.number) h_numbered.distinct h_job
    simp only [unreported, reporters, finishJob, dropJob, List.countP_append, List.countP_singleton,
      Event.losesJob, beq_iff_eq] at h_drop ⊢
    omega
  | @reports outcome h_phase =>
    obtain ⟨f, h_f, rfl⟩ := Option.map_eq_some_iff.1 h_f'
    have h_counted := h f h_f
    have h_total := h_counted.total
    have h_drop := countP_dropJob (·.flush == f.number) h_numbered.distinct h_job
    simp only [beq_iff_eq] at h_drop
    have h_noLoss : (finishJob (report s job outcome) worker job false).unreported
        (fs ++ [.jobReported job.flush job.id outcome]) f.number +
          (if job.flush = f.number then 1 else 0) = s.unreported fs f.number := by
      rw [unreported_of_noLoss (by simp [Event.losesJob])]
      simp only [unreported, reporters, finishJob, dropJob, report, updateFlush]
      omega
    -- The outcome goes to the inbox of the job's own flush; any other flush does not notice.
    by_cases h_own : f.number = job.flush
    · rw [if_pos h_own.symm] at h_noLoss
      rw [if_pos (by simpa using h_own)]
      have h_received : awaited f = f.join.received + (f.inbox ++ [outcome]).length +
          (finishJob (report s job outcome) worker job false).unreported
            (fs ++ [.jobReported job.flush job.id outcome]) f.number := by
        rw [List.length_append, List.length_singleton]
        omega
      exact ⟨h_received, h_counted.fresh⟩
    · have h_not : (f.number == job.flush) = false := by simpa using h_own
      simp only [h_not, Bool.false_eq_true, if_false]
      rw [if_neg (Ne.symm h_own)] at h_noLoss
      exact h_counted.of_unreported_eq h_noLoss

theorem LauncherStep.counted {job : LaunchJob C} {rest : List (LaunchJob C)}
    (h : ∀ f, s.current = some f → Counted s fs f) (h_step : LauncherStep cfg env s job rest s' es)
    (h_f' : s'.current = some f') : Counted s' (fs ++ es) f' := by
  have h_same (h_jobs : s'.jobs = s.jobs) (h_noLoss : ∀ n, ∀ e ∈ es, e.losesJob n = false)
      (n : Nat) : s'.unreported (fs ++ es) n = s.unreported fs n := by
    rw [unreported_of_noLoss (h_noLoss n), unreported, reporters, h_jobs]
    rfl
  have h_posted (outcome : Outcome) (h_current : posted s.current job outcome = some f')
      (h_unreported : ∀ n, s'.unreported (fs ++ es) n = s.unreported fs n) :
      Counted s' (fs ++ es) f' := by
    obtain ⟨f, h_f, rfl⟩ := Option.map_eq_some_iff.1 h_current
    have h_counted := (h f h_f).of_unreported_eq (h_unreported f.number)
    split
    · exact ⟨h_counted.total, h_counted.fresh⟩
    · exact h_counted
  cases h_step with
  | misses | completes | panics =>
    exact h_posted _ h_f' (h_same rfl (by simp [Event.losesJob]))
  | waits | overflows | finds | mutes | expires | loses | aborts =>
    exact (h f' h_f').of_unreported_eq (h_same rfl (by simp [Event.losesJob]) _)

/-- A compile job that is lost belongs to a flush that has begun. -/
theorem Transition.lost_le {m : Move C} (h_numbered : Numbered s)
    (h_step : Transition cfg env s m s' es) {n j worker : Nat}
    (h_lost : Event.compileJobLost n j worker ∈ es) : n ≤ s.flushes := by
  obtain ⟨job, h_job, rfl, -⟩ := h_step.of_lost h_lost
  exact h_numbered.begun job h_job

theorem lost_le_of_run {threads : Nat} {now : Moment} {ms : List (Move C)} {es : List (Stamped C)}
    (h_run : run cfg env (start threads now) ms = some (t, es)) {n j worker : Nat}
    (h_lost : Event.compileJobLost n j worker ∈ history es) : n ≤ t.flushes := by
  refine history_induction (P := fun _ t es => Event.compileJobLost n j worker ∈ es → n ≤ t.flushes)
    (by simp) ?_ h_run h_lost
  intro ms m t es u fs h_run _ h_before h_step h_lost
  refine Nat.le_trans ?_ h_step.flushes_le
  rcases List.mem_append.1 h_lost with h_old | h_new
  · exact h_before h_old
  · exact h_step.lost_le (numbered_of_run h_run) h_new

/-- No compile job belongs to a flush that has not begun. -/
theorem unreported_eq_zero (h_numbered : Numbered s)
    (h_lost : ∀ n j worker, Event.compileJobLost n j worker ∈ es → n ≤ s.flushes) {n : Nat}
    (h_n : s.flushes < n) : s.unreported es n = 0 := by
  have h_jobs : s.reporters n = 0 := by
    refine List.countP_eq_zero.2 fun job h_job => ?_
    have h_begun := h_numbered.begun job h_job
    simp only [beq_iff_eq]
    omega
  have h_none : es.countP (Event.losesJob n) = 0 := by
    refine List.countP_eq_zero.2 fun e h_e h_loses => ?_
    cases e with
    | compileJobLost flush j worker =>
      obtain rfl : flush = n := by simpa [Event.losesJob] using h_loses
      exact Nat.not_le_of_lt h_n (h_lost _ _ _ h_e)
    | _ => simp [Event.losesJob] at h_loses
  rw [unreported, h_jobs, h_none]

theorem Transition.counted {m : Move C} (h_numbered : Numbered s)
    (h : ∀ f, s.current = some f → Counted s fs f)
    (h_future : s.unreported fs (s.flushes + 1) = 0) (h_step : Transition cfg env s m s' es)
    (h_f' : s'.current = some f') : Counted s' (fs ++ es) f' := by
  cases h_step with
  | enqueue h_idle | dropArtifacts h_idle | returns h_idle => simp [h_idle] at h_f'
  | begins h_idle h_some =>
    cases h_f'
    refine ⟨?_, fun _ => rfl⟩
    rw [unreported_of_noLoss (by simp [Event.losesJob])]
    change 0 = 0 + 0 + s.unreported fs (s.flushes + 1)
    rw [h_future]
  | pick | tick =>
    exact (h f' h_f').of_unreported_eq (unreported_of_noLoss (by simp))
  | caller h_current h_step => exact h_step.counted (h _ h_current) h_f'
  | worker h_running h_found h_step =>
    exact h_step.counted h_numbered (List.mem_of_find?_eq_some h_found) h h_f'
  | launcher h_lane h_step => exact h_step.counted h h_f'

/-- The flush in progress can tell of each of its compile jobs in every run. -/
theorem counted_of_run {threads : Nat} {now : Moment} {ms : List (Move C)} {es : List (Stamped C)}
    (h_run : run cfg env (start threads now) ms = some (t, es)) :
    ∀ f, t.current = some f → Counted t (history es) f := by
  refine history_induction (P := fun _ t es => ∀ f, t.current = some f → Counted t es f) ?_ ?_ h_run
  · intro f h_f
    cases h_f
  · intro ms m t es u fs h_run _ h_counted h_step f' h_f'
    have h_future := unreported_eq_zero (numbered_of_run h_run)
      (fun _ _ _ h_lost => lost_le_of_run h_run h_lost) (Nat.lt_succ_self t.flushes)
    exact h_step.counted (numbered_of_run h_run) h_counted h_future h_f'

/-- A flush that finds itself without anybody to wait for has lost a compile job. -/
theorem Counted.lost_of_orphaned {inbox : List Outcome} (h : Counted s fs f)
    (h_stage : f.stage = .joining) (h_over : f.join.isOver = false)
    (h_poll : Polled.poll f.inbox (s.hasReporter f.number) f.joinStart f.joinDeadline s.now =
      some (.orphaned, inbox)) : ∃ j worker, Event.compileJobLost f.number j worker ∈ fs := by
  have h_total := h.total
  simp only [awaited, h_stage] at h_total
  unfold Polled.poll at h_poll
  split at h_poll
  · simp at h_poll
  next h_inbox =>
  split at h_poll
  · next h_gone =>
    have h_none : s.reporters f.number = 0 := reporters_eq_zero_iff.1 (by simpa using h_gone)
    -- Inbox and reporters are empty, so what is missing has been lost.
    have h_missing : f.join.received ≠ f.join.expected := by
      intro h_all
      simp [Join.isOver, h_all] at h_over
    rw [h_inbox, unreported, h_none] at h_total
    simp only [List.length_nil] at h_total
    have h_lost : 0 < fs.countP (Event.losesJob f.number) := by omega
    obtain ⟨e, h_e, h_loses⟩ := List.countP_pos_iff.1 h_lost
    cases e with
    | compileJobLost flush j worker =>
      obtain rfl : flush = f.number := by simpa [Event.losesJob] using h_loses
      exact ⟨j, worker, h_e⟩
    | _ => simp [Event.losesJob] at h_loses
  · split at h_poll
    · simp at h_poll
    · contradiction

/-- A flush gives up before its deadline only if one of its compile jobs is lost. -/
theorem lost_of_orphaned_of_run {threads : Nat} {now : Moment} {ms : List (Move C)}
    {es : List (Stamped C)} (h_run : run cfg env (start threads now) ms = some (t, es)) {n : Nat}
    {join : Join} (h_orphaned : Event.polled n .orphaned join ∈ history es) :
    ∃ j worker, Event.compileJobLost n j worker ∈ history es := by
  refine history_induction (P := fun _ _ es => Event.polled n .orphaned join ∈ es →
    ∃ j worker, Event.compileJobLost n j worker ∈ es) (by simp) ?_ h_run h_orphaned
  intro ms m t es u fs h_run _ h_before h_step h_orphaned
  suffices h_lost : ∃ j worker, Event.compileJobLost n j worker ∈ history es by
    obtain ⟨j, worker, h_e⟩ := h_lost
    exact ⟨j, worker, List.mem_append_left _ h_e⟩
  rcases List.mem_append.1 h_orphaned with h_old | h_new
  · exact h_before h_old
  · obtain ⟨f, _, h_f, rfl, h_stage, h_over, h_poll, -⟩ := h_step.of_polled h_new
    exact (counted_of_run h_run f h_f).lost_of_orphaned h_stage h_over h_poll

end State

end KernelDispatch
