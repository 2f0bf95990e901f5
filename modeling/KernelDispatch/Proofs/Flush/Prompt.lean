/-
  KernelDispatch.Proofs.Flush.Prompt

  The prompt schedule brings every flush to its end.

  `workload` adds up what is left to do for everybody: for the caller and the launch
  thread (`effort`), for the compile workers, who have to pick each job and take it
  from phase to phase, and for the clock, which has to pass each deadline and each end
  of a call once. Every step of the schedule takes it down (`promptStep_lt`), at first
  it is no more than the bound on the steps (`workload_le`), and as long as the flush
  goes on the schedule has a next step (`promptStep_ne_none`). So a prompt call of
  `flush` is a run to the end of the flush (`flush_returns`).
-/
import Mathlib.Algebra.Order.BigOperators.Group.List
import Mathlib.Algebra.Order.Group.Nat
import KernelDispatch.Flush.Schedule
import KernelDispatch.Proofs.Flush.Return
import KernelDispatch.Proofs.Flush.SingleWorker
import KernelDispatch.Proofs.WorkerPool.Conservation

namespace KernelDispatch

/-! ## Jobs that wait for a worker -/

namespace WorkerPool

variable {J : Type} [DecidableEq J] {p p' : WorkerPool J} {m : PoolMove J} {started : List J}

/-- What is submitted waits, and what is started does not wait any more. -/
theorem waiting_step (h : PoolStep p m started p') :
    started.length + p'.waiting.length = m.submitted?.toList.length + p.waiting.length := by
  have h_perm : (started ++ p'.waiting).Perm (m.submitted?.toList ++ p.waiting) :=
    List.perm_iff_count.2 fun job => by
      rw [List.count_append, List.count_append]
      exact count_waiting_step h job
  simpa using h_perm.length_eq

/-- A worker that takes a job takes one that has waited. -/
theorem waiting_take {take : PoolMove J} (h_take : take.isTake = true)
    (h_step : p.step take = some p') :
    p'.waiting.length + 1 = p.waiting.length ∧ p'.ended = p.ended ∧
      p'.jobs.length = p.jobs.length := by
  obtain ⟨started, h_rule⟩ := poolStep_of_step h_step
  have h_waiting := waiting_step h_rule
  have h_jobs := (jobs_step h_rule).length_eq
  cases h_rule with
  | takeOwn | takeShared | steal =>
    simp only [PoolMove.submitted?, Option.toList_none, List.length_nil, List.length_singleton,
      List.append_nil] at h_waiting h_jobs
    exact ⟨by omega, rfl, h_jobs⟩
  | _ => simp [PoolMove.isTake] at h_take

/-- A job that ends has waited before. -/
theorem waiting_complete {i : Nat} {job : J} (h_running : p.runningAt? i = some job)
    (panicked : Bool) :
    (p.complete i panicked).waiting.length = p.waiting.length ∧
      (p.complete i panicked).ended.length = p.ended.length + 1 ∧
      (p.complete i panicked).jobs.length = p.jobs.length := by
  obtain ⟨p₃, h_run, -⟩ := exists_run_of_survived h_running (JobEnd.isFatal_ofPanic panicked)
  obtain ⟨p₁, h_finish, h_rest⟩ := run_cons_eq_some.1 h_run
  obtain ⟨p₂, h_count, h_rest⟩ := run_cons_eq_some.1 h_rest
  obtain ⟨_, h_release, h_last⟩ := run_cons_eq_some.1 h_rest
  obtain rfl := Option.some.inj h_last
  rw [complete, h_run, Option.getD_some]
  -- Three moves that neither submit a job nor start one; the first of them ends one.
  obtain ⟨_, h_finish⟩ := poolStep_of_step h_finish
  obtain ⟨_, h_count⟩ := poolStep_of_step h_count
  obtain ⟨_, h_release⟩ := poolStep_of_step h_release
  have h_waiting₁ := waiting_step h_finish
  have h_waiting₂ := waiting_step h_count
  have h_waiting₃ := waiting_step h_release
  have h_jobs₁ := (jobs_step h_finish).length_eq
  have h_jobs₂ := (jobs_step h_count).length_eq
  have h_jobs₃ := (jobs_step h_release).length_eq
  cases h_finish
  cases h_count <;> cases h_release <;>
    simp only [PoolMove.submitted?, Option.toList_none, List.length_nil, Nat.zero_add,
      List.append_nil] at h_waiting₁ h_waiting₂ h_waiting₃ h_jobs₁ h_jobs₂ h_jobs₃ <;>
    exact ⟨by rw [h_waiting₃, h_waiting₂, h_waiting₁], by simp, by rw [h_jobs₃, h_jobs₂, h_jobs₁]⟩

end WorkerPool

variable {C : Type} {cfg : Settings} {env : Environment C} {pace : Pace}

namespace State

variable {s s' t : State C} {f f' : Flush C} {es fs : List (Event C)}

theorem length_dropJob {job : CompileJob C} (h : Numbered s) (h_job : job ∈ s.jobs) :
    (s.dropJob job.id).jobs.length + 1 = s.jobs.length := by
  have h_count := countP_dropJob (fun _ => true) h.distinct h_job
  rwa [if_pos rfl, List.countP_true] at h_count

/-- The pool has the unfinished compile jobs, and besides those that have ended. -/
def Staffed (s : State C) : Prop :=
  s.pool.jobs.length = s.jobs.length + s.pool.ended.length

theorem Staffed.waiting_le (h : Staffed s) : s.pool.waiting.length ≤ s.jobs.length := by
  simp only [Staffed, WorkerPool.jobs, WorkerPool.begun, List.length_append,
    List.length_map] at h
  omega

theorem Transition.staffed {m : Move C} (h : Staffed s) (h_numbered : Numbered s)
    (h_step : Transition cfg env s m s' es) : Staffed s' := by
  cases h_step with
  | caller h_current h_step =>
    cases h_step with
    | schedules =>
      simp only [Staffed, List.length_append, List.length_singleton] at h ⊢
      have h_submit := (WorkerPool.jobs_step (.submit (p := s.pool) s.submitted)).length_eq
      simp only [PoolMove.submitted?, Option.toList_some, List.length_append,
        List.length_singleton] at h_submit
      rw [h_submit, h]
      show _ = _ + 1 + s.pool.ended.length
      omega
    | _ => exact h
  | @pick take _ h_pick h_take =>
    have h_takes : take.isTake = true := by cases take <;> simp_all [PoolMove.isTake]
    obtain ⟨-, h_ended, h_jobs⟩ := WorkerPool.waiting_take h_takes h_pick
    simp only [Staffed, h_jobs, h_ended]
    exact h
  | @worker index _ job _ _ h_running h_found h_step =>
    have h_job : job ∈ s.jobs := List.mem_of_find?_eq_some h_found
    have h_phase (phase : CompilePhase C) : (s.setPhase job.id phase).jobs.length = s.jobs.length :=
      List.length_map ..
    have h_finish (s₁ : State C) (panicked : Bool) (h_pool : s₁.pool = s.pool)
        (h_jobs : s₁.jobs = s.jobs) : Staffed (finishJob s₁ index job panicked) := by
      obtain ⟨-, h_ended, h_all⟩ := WorkerPool.waiting_complete h_running panicked
      have h_length := length_dropJob h_numbered h_job
      simp only [Staffed] at h
      simp only [Staffed, finishJob, h_pool, h_ended, h_all, dropJob, h_jobs]
      simp only [dropJob] at h_length
      omega
    cases h_step with
    | starts | generates | settles =>
      simp only [Staffed, h_phase]
      exact h
    | aborts => exact h
    | reports => exact h_finish _ false rfl rfl
    | loses => exact h_finish _ true rfl rfl
  | launcher h_lane h_step => cases h_step <;> exact h
  | _ => exact h

theorem staffed_of_run {threads : Nat} {now : Moment} {ms : List (Move C)}
    {es : List (Stamped C)} (h_run : run cfg env (start threads now) ms = some (t, es)) :
    Staffed t := by
  refine run_induction (P := fun _ t _ => Staffed t) ?_ ?_ h_run
  · have h_empty := (WorkerPool.balanced_ofThreads (J := Nat) threads).jobs.length_eq
    exact h_empty
  · intro ms m t es u fs h_prefix _ h_staffed h_step
    exact h_step.staffed h_staffed (numbered_of_run h_prefix)

/-! ## Work -/

end State

/-- The number of moves that a compile job takes until its end, and whether the clock has yet to
reach the end of its call. -/
def CompilePhase.work (pace : Pace) (now : Moment) : CompilePhase C → Nat
  | queued => 5
  | generating call _ since => if (pace call).any (now < since + ·) then 4 else 3
  | generated _ => 2
  | settled _ => 1
  | lost => 1

/-- Whether the clock has yet to reach a deadline of a launch job. -/
def LaunchPhase.alarms (now : Moment) : LaunchPhase C → Nat
  | queued => 1
  | waiting _ deadline => if now < deadline then 1 else 0
  | holding .. => 0

/-- What a flush still brings about: a compile job for every record whose task is to be requested,
each to be picked and worked off, and the deadline of its wait. -/
def Flush.toCome (cfg : Settings) (now : Moment) (f : Flush C) : Nat :=
  match f.stage with
  | .requesting rest => 6 * rest.length + 1
  | .submitting _ => if cfg.pipelined then 1 else 0
  | .joining => if now < f.joinDeadline then 1 else 0
  | .draining => 0

theorem CompilePhase.work_le (pace : Pace) (now : Moment) (phase : CompilePhase C) :
    phase.work pace now ≤ 5 := by
  unfold work
  split
  case h_2 => split <;> decide
  all_goals decide

theorem CompilePhase.work_pos (pace : Pace) (now : Moment) (phase : CompilePhase C) :
    0 < phase.work pace now := by
  unfold work
  split
  case h_2 => split <;> decide
  all_goals decide

/-- A job has less to do in its next phase. -/
theorem State.PhaseStep.work_lt {job : CompileJob C} {phase phase' : CompilePhase C}
    (h : State.PhaseStep env job phase phase') (pace : Pace) (now : Moment) :
    phase'.work pace now < phase.work pace now := by
  cases h with
  | starts =>
    simp only [CompilePhase.work]
    split <;> decide
  | @generates call result since =>
    have h_next : (State.afterCodegen call result).1.work pace now ≤ 2 := by
      cases result <;> simp [State.afterCodegen, CompilePhase.work]
    refine Nat.lt_of_le_of_lt h_next ?_
    show 2 < if _ then 4 else 3
    split <;> decide
  | settles => exact Nat.lt_succ_self 1

/-! ## Work left -/

namespace State

variable {s s' t : State C} {f f' : Flush C} {es fs : List (Event C)}

/-- The work of the compile workers. -/
def jobWork (pace : Pace) (s : State C) : Nat :=
  (s.jobs.map (·.phase.work pace s.now)).sum

/-- The deadlines of launch jobs that the clock has yet to reach. -/
def laneAlarms (s : State C) : Nat :=
  (s.lane.map (·.phase.alarms s.now)).sum

/-- What the flush in progress still brings about. -/
def toCome (cfg : Settings) (s : State C) : Nat :=
  (s.current.map (Flush.toCome cfg s.now)).getD 0

/-- What everybody but the caller and the launch thread has to do in a flush, and the launch jobs
and compile jobs that are still to come. -/
def load (cfg : Settings) (pace : Pace) (s : State C) : Nat :=
  s.toCome cfg + s.backlog.length + s.laneAlarms + s.pool.waiting.length + s.jobWork pace

/-- A bound on the steps of the prompt schedule until nothing is left to do in a flush. -/
def workload (cfg : Settings) (pace : Pace) (s : State C) : Nat :=
  s.effort cfg + s.load cfg pace

/-- At the beginning of a flush the bound is no more than the steps that it is given. -/
theorem workload_le (h_layout : Layout cfg s) (h_staffed : Staffed s)
    (h : Transition cfg env s .flush s' es) : s'.workload cfg pace ≤ s.stepBound := by
  obtain ⟨-, h_effort⟩ := called_of_flush h_layout h
  have h_waiting := h_staffed.waiting_le
  have h_work : s.jobWork pace ≤ s.jobs.length * 5 := by
    have h_sum := List.sum_le_card_nsmul (s.jobs.map (·.phase.work pace s.now)) 5 fun n h_n => by
      obtain ⟨job, -, rfl⟩ := List.mem_map.1 h_n
      exact job.phase.work_le pace s.now
    simpa [jobWork] using h_sum
  have h_lane (h_idle : s.current = none) : s.laneAlarms = 0 := by
    simp [laneAlarms, h_layout.idle h_idle]
  cases h with
  | returns h_idle h_empty =>
    have h_toCome : s.toCome cfg = 0 := by simp [toCome, h_idle]
    simp only [workload, load, stepBound, h_toCome, h_lane h_idle]
    omega
  | begins h_idle h_some =>
    have h_toCome : toCome cfg { s with
        flushes := s.flushes + 1
        current := some s.firstFlush } = 6 * s.backlog.length + 1 := rfl
    have h_lane' : laneAlarms { s with
        flushes := s.flushes + 1
        current := some s.firstFlush } = 0 := h_lane h_idle
    simp only [workload, load, stepBound, h_toCome, h_lane']
    show _ + (_ + _ + _ + s.pool.waiting.length + s.jobWork pace) ≤ _
    omega

/-! ## Moves take the work down -/

/-- What a flush still brings about does not depend on outcomes. -/
theorem toCome_of_outline_eq (h_now : s'.now = s.now)
    (h_current : s'.current.map Flush.outline = s.current.map Flush.outline) :
    s'.toCome cfg = s.toCome cfg := by
  have h_outline (u : State C) : u.toCome cfg =
      ((u.current.map Flush.outline).map (Flush.toCome cfg u.now)).getD 0 := by
    rw [Option.map_map]
    rfl
  rw [h_outline s', h_outline s, h_now, h_current]

/-- The caller does not add to the work of others: for the jobs that it submits there are fewer to
come. -/
theorem CallerStep.load_le (h_current : s.current = some f)
    (h : CallerStep cfg env s f s' es) : s'.load cfg pace ≤ s.load cfg pace := by
  have h_toCome : s.toCome cfg = f.toCome cfg s.now := by simp [toCome, h_current]
  -- A flush that goes on with the same jobs and records.
  have h_on (f₁ : Flush C) (h_f₁ : s'.current = some f₁) (h_now : s'.now = s.now)
      (h_jobs : s'.jobs = s.jobs) (h_pool : s'.pool = s.pool) (h_lane : s'.lane = s.lane)
      (h_backlog : s'.backlog = s.backlog) (h_less : f₁.toCome cfg s.now ≤ f.toCome cfg s.now) :
      s'.load cfg pace ≤ s.load cfg pace := by
    have h_toCome' : s'.toCome cfg = f₁.toCome cfg s.now := by simp [toCome, h_f₁, h_now]
    simp only [load, h_toCome, h_toCome', h_backlog, h_pool, laneAlarms, jobWork, h_now, h_jobs,
      h_lane]
    omega
  have h_ends (h_idle : s'.current = none) (h_now : s'.now = s.now) (h_jobs : s'.jobs = s.jobs)
      (h_pool : s'.pool = s.pool) (h_lane : s'.lane = s.lane)
      (h_backlog : s'.backlog.length ≤ s.backlog.length) :
      s'.load cfg pace ≤ s.load cfg pace := by
    have h_toCome' : s'.toCome cfg = 0 := by simp [toCome, h_idle]
    simp only [load, h_toCome', h_pool, laneAlarms, jobWork, h_now, h_jobs, h_lane]
    omega
  cases h with
  | @schedules r rest h_stage =>
    -- One record less to request, one job more to pick and to work off.
    have h_waiting := WorkerPool.waiting_step (.submit (p := s.pool) s.submitted)
    simp only [PoolMove.submitted?, Option.toList_some, List.length_nil, List.length_singleton,
      Nat.zero_add] at h_waiting
    simp only [load, h_toCome, laneAlarms, jobWork, List.map_append, List.sum_append,
      List.map_singleton, List.sum_singleton, CompilePhase.work, h_waiting]
    simp only [toCome, Option.map_some, Option.getD_some, Flush.toCome, Flush.requested, h_stage,
      List.length_cons]
    omega
  | shares h_stage | reuses h_stage =>
    refine h_on _ rfl rfl rfl rfl rfl rfl ?_
    simp only [Flush.toCome, Flush.requested, h_stage, List.length_cons]
    omega
  | beginsJoin h_stage =>
    refine h_on _ rfl rfl rfl rfl rfl rfl ?_
    cases h_pipelined : cfg.pipelined with
    | true => simp [Flush.toCome, Flush.joinFrom, h_stage, h_pipelined]
    | false =>
      simp only [Flush.toCome, Flush.joinFrom, h_stage, h_pipelined, Bool.false_eq_true, if_false]
      split <;> simp
  | @submits key rest r backlog h_stage h_backlog =>
    have h_same : Flush.toCome cfg s.now { f with stage := .submitting rest } =
        f.toCome cfg s.now := by
      simp only [Flush.toCome, h_stage]
    simp only [load, h_toCome, laneAlarms, jobWork, List.map_append, List.sum_append,
      List.map_singleton, List.sum_singleton, h_backlog, List.length_cons]
    simp only [toCome, Option.map_some, Option.getD_some, h_same, Flush.launchJob,
      LaunchPhase.alarms]
    omega
  | submitsNothing h_stage =>
    refine h_on _ rfl rfl rfl rfl rfl rfl ?_
    simp only [Flush.toCome, h_stage]
    exact Nat.le_refl _
  | joins h_stage h_pipelined =>
    refine h_on _ rfl rfl rfl rfl rfl rfl ?_
    simp only [Flush.toCome, h_stage, h_pipelined, if_true]
    split <;> simp
  | drains | drainsJoined =>
    exact h_on _ rfl rfl rfl rfl rfl rfl (Nat.zero_le _)
  | polls => exact h_on _ rfl rfl rfl rfl rfl rfl (Nat.le_refl _)
  | submitsJoined h_stage h_over h_pipelined =>
    refine h_on _ rfl rfl rfl rfl rfl rfl ?_
    simp [Flush.toCome, h_pipelined]
  | unwinds => exact h_ends rfl rfl rfl rfl rfl (Nat.le_refl _)
  | abandons | succeeds | fails => exact h_ends rfl rfl rfl rfl rfl (Nat.zero_le _)

/-- The launch thread does not add to the work of others. -/
theorem LauncherStep.load_le {job : LaunchJob C} {rest : List (LaunchJob C)}
    (h_lane : s.lane = job :: rest) (h : LauncherStep cfg env s job rest s' es) :
    s'.load cfg pace ≤ s.load cfg pace := by
  obtain ⟨h_backlog, -, h_current⟩ := h.plan
  have h_less (h_now : s'.now = s.now) (h_jobs : s'.jobs = s.jobs) (h_pool : s'.pool = s.pool)
      (h_alarms : s'.laneAlarms ≤ s.laneAlarms) : s'.load cfg pace ≤ s.load cfg pace := by
    simp only [load, toCome_of_outline_eq h_now h_current, h_backlog, h_pool, jobWork, h_now,
      h_jobs]
    omega
  have h_first : s.laneAlarms = job.phase.alarms s.now +
      (rest.map (·.phase.alarms s.now)).sum := by
    rw [laneAlarms, h_lane, List.map_cons, List.sum_cons]
  cases h with
  | waits h_phase | finds h_phase =>
    refine h_less rfl rfl rfl ?_
    rw [h_first, h_phase]
    simp only [laneAlarms, List.map_cons, List.sum_cons, LaunchPhase.alarms]
    split <;> omega
  | overflows | loses | misses | mutes | expires | completes | panics =>
    refine h_less rfl rfl rfl ?_
    rw [h_first]
    exact Nat.le_add_left _ _
  | aborts => exact h_less rfl rfl rfl (Nat.le_refl _)

/-- A compile worker has less to do after each of its moves. -/
theorem WorkerStep.load_lt {worker id : Nat} {job : CompileJob C} (h_numbered : Numbered s)
    (h_onPanic : cfg.onPanic ≠ .abort) (h_running : s.pool.runningAt? worker = some id)
    (h_job : job ∈ s.jobs) (h : WorkerStep cfg env s worker job s' es) :
    s'.load cfg pace < s.load cfg pace := by
  have h_plan := h.samePlan
  have h_less (h_now : s'.now = s.now) (h_waiting : s'.pool.waiting.length = s.pool.waiting.length)
      (h_work : s'.jobWork pace < s.jobWork pace) : s'.load cfg pace < s.load cfg pace := by
    simp only [load, toCome_of_outline_eq h_now h_plan.current, h_plan.backlog, laneAlarms,
      h_plan.lane, h_now, h_waiting]
    omega
  -- A job that goes on has less to do, and the others have as much as before.
  have h_advances (phase : CompilePhase C) (h_phase : PhaseStep env job job.phase phase) :
      (s.setPhase job.id phase).jobWork pace < s.jobWork pace := by
    have h_lt := h_phase.work_lt pace s.now
    have h_work : (s.setPhase job.id phase).jobWork pace = (s.jobs.map fun j =>
        (if j.id == job.id then { j with phase := phase } else j).phase.work pace s.now).sum := by
      simp only [jobWork, setPhase, List.map_map]
      rfl
    rw [h_work]
    refine List.sum_lt_sum _ _ (fun j h_j => ?_) ⟨job, h_job, by simpa using h_lt⟩
    split
    · next h_id =>
      rw [List.inj_on_of_nodup_map h_numbered.distinct h_j h_job (by simpa using h_id)]
      exact Nat.le_of_lt h_lt
    · exact Nat.le_refl _
  have h_finishes (s₁ : State C) (h_now : s₁.now = s.now) (h_jobs : s₁.jobs = s.jobs)
      (panicked : Bool) : (finishJob s₁ worker job panicked).jobWork pace < s.jobWork pace := by
    obtain ⟨before, after, h_split, h_before, h_after⟩ := split_at_job h_numbered.distinct h_job
    have h_keep {others : List (CompileJob C)} (h_others : ∀ other ∈ others, other.id ≠ job.id) :
        others.filter (·.id != job.id) = others :=
      List.filter_eq_self.2 fun other h_other => by simpa using h_others other h_other
    have h_others : (before ++ job :: after).filter (·.id != job.id) = before ++ after := by
      rw [List.filter_append, List.filter_cons_of_neg (by simp), h_keep h_before, h_keep h_after]
    have h_pos := job.phase.work_pos pace s.now
    simp only [jobWork, finishJob, dropJob, h_now, h_jobs, h_split, h_others, List.map_append,
      List.map_cons, List.sum_append, List.sum_cons]
    omega
  cases h with
  | starts h_phase h_call =>
    refine h_less rfl rfl (h_advances _ ?_)
    rw [h_phase]
    exact .starts (by rw [h_call]; rfl)
  | generates h_phase =>
    refine h_less rfl rfl (h_advances _ ?_)
    rw [h_phase]
    exact .generates
  | settles h_phase =>
    refine h_less rfl rfl (h_advances _ ?_)
    rw [h_phase]
    exact .settles
  | aborts _ _ h_abort => exact absurd h_abort h_onPanic
  | reports =>
    obtain ⟨h_waiting, -, -⟩ := WorkerPool.waiting_complete h_running false
    exact h_less rfl h_waiting (h_finishes _ rfl rfl false)
  | loses =>
    obtain ⟨h_waiting, -, -⟩ := WorkerPool.waiting_complete h_running true
    exact h_less rfl h_waiting (h_finishes _ rfl rfl true)

/-- Every move during a flush but one of the clock takes the work down. -/
theorem Transition.workload_lt {m : Move C} (h_onPanic : cfg.onPanic ≠ .abort)
    (h_layout : Layout cfg s) (h_counted : ∀ f, s.current = some f → Counted s fs f)
    (h_numbered : Numbered s) (h_noCall : m.isCall = false) (h_noTick : ∀ nanos, m ≠ .tick nanos)
    (h : Transition cfg env s m s' es) : s'.workload cfg pace < s.workload cfg pace := by
  have h_effort := h.effort_le h_onPanic h_layout h_counted h_noCall
  unfold workload
  cases h with
  | enqueue | dropArtifacts | returns | begins => simp [Move.isCall] at h_noCall
  | tick => exact absurd rfl (h_noTick _)
  | caller h_current h_step =>
    have h_load : s'.load cfg pace ≤ s.load cfg pace := h_step.load_le h_current
    simp only [Move.isOwn, if_true] at h_effort
    omega
  | launcher h_lane h_step =>
    have h_load : s'.load cfg pace ≤ s.load cfg pace := h_step.load_le h_lane
    simp only [Move.isOwn, if_true] at h_effort
    omega
  | worker h_running h_found h_step =>
    have h_load : s'.load cfg pace < s.load cfg pace :=
      h_step.load_lt h_numbered h_onPanic h_running (List.mem_of_find?_eq_some h_found)
    omega
  | @pick take pool h_pick h_take =>
    have h_takes : take.isTake = true := by cases take <;> simp_all [PoolMove.isTake]
    obtain ⟨h_waiting, -, -⟩ := WorkerPool.waiting_take h_takes h_pick
    have h_load : load cfg pace { s with pool := pool } + 1 = s.load cfg pace := by
      simp only [load, ← h_waiting]
      show s.toCome cfg + _ + s.laneAlarms + _ + s.jobWork pace + 1 = _
      omega
    omega

/-! ## Time takes the work down -/

/-- What counts for more until some moment counts for no more later. -/
theorem ite_before_le {now later moment : Moment} {a b : Nat} (h : now ≤ later) (h_le : b ≤ a) :
    (if later < moment then a else b) ≤ if now < moment then a else b := by
  split
  · next h_later => rw [if_pos (Nat.lt_of_le_of_lt h h_later)]
  · split
    · exact h_le
    · exact Nat.le_refl _

theorem work_le_of_le {now later : Moment} (h : now ≤ later) (phase : CompilePhase C) :
    phase.work pace later ≤ phase.work pace now := by
  cases phase with
  | generating call result since =>
    simp only [CompilePhase.work]
    cases pace call with
    | none => exact Nat.le_refl _
    | some nanos =>
      simp only [Option.any_some, decide_eq_true_eq]
      exact ite_before_le h (by decide)
  | _ => exact Nat.le_refl _

theorem alarms_le_of_le {now later : Moment} (h : now ≤ later) (phase : LaunchPhase C) :
    phase.alarms later ≤ phase.alarms now := by
  cases phase with
  | waiting since deadline => exact ite_before_le h (Nat.zero_le 1)
  | _ => exact Nat.le_refl _

theorem toCome_le_of_le {now later : Moment} (h : now ≤ later) (f : Flush C) :
    f.toCome cfg later ≤ f.toCome cfg now := by
  unfold Flush.toCome
  split
  case h_3 => exact ite_before_le h (Nat.zero_le 1)
  all_goals exact Nat.le_refl _

/-- When the clock reaches an alarm, there is one less to come. -/
theorem load_lt_of_alarm {next : Moment} (h_alarm : next ∈ s.alarms pace) (h_later : s.now < next) :
    load cfg pace { s with now := next } < s.load cfg pace := by
  have h_le := Nat.le_of_lt h_later
  have h_work : jobWork pace { s with now := next } ≤ s.jobWork pace :=
    List.sum_le_sum fun job _ => work_le_of_le h_le job.phase
  have h_lane : laneAlarms { s with now := next } ≤ s.laneAlarms :=
    List.sum_le_sum fun job _ => alarms_le_of_le h_le job.phase
  have h_toCome : toCome cfg { s with now := next } ≤ s.toCome cfg := by
    simp only [toCome]
    cases s.current with
    | none => exact Nat.le_refl _
    | some f => exact toCome_le_of_le h_le f
  suffices h_one : jobWork pace { s with now := next } < s.jobWork pace ∨
      laneAlarms { s with now := next } < s.laneAlarms ∨
      toCome cfg { s with now := next } < s.toCome cfg by
    simp only [load]
    omega
  simp only [alarms, List.mem_append, Option.mem_toList, List.mem_filterMap] at h_alarm
  rcases h_alarm with (⟨i, -, h_end⟩ | h_join) | h_launch
  · -- The call of a compile job ends.
    refine .inl ?_
    simp only [callEnd?, Option.bind_eq_bind, Option.bind_eq_some_iff, Option.pure_def,
      Option.some.injEq] at h_end
    obtain ⟨⟨call, since⟩, h_call, nanos, h_pace, rfl⟩ := h_end
    unfold callAt? at h_call
    split at h_call
    · next job h_found =>
      split at h_call
      · next h_phase =>
        cases h_call
        obtain ⟨id, -, h_found⟩ := Option.bind_eq_some_iff.1 h_found
        refine List.sum_lt_sum _ _ (fun j _ => work_le_of_le h_le j.phase)
          ⟨job, List.mem_of_find?_eq_some h_found, ?_⟩
        simp [h_phase, CompilePhase.work, h_pace, h_later]
      · contradiction
    · contradiction
  · -- The caller has waited long enough.
    refine .inr (.inr ?_)
    unfold joinDeadline? at h_join
    split at h_join
    · next f h_current =>
      split at h_join
      · next h_stage =>
        cases h_join
        simp [toCome, h_current, Flush.toCome, h_stage, h_later]
      · contradiction
    · contradiction
  · -- The first launch job has waited long enough.
    refine .inr (.inl ?_)
    unfold launchDeadline? at h_launch
    split at h_launch
    · contradiction
    · next job rest h_jobs =>
      split at h_launch
      · next h_phase =>
        cases h_launch
        refine List.sum_lt_sum _ _ (fun j _ => alarms_le_of_le h_le j.phase)
          ⟨job, h_jobs ▸ List.mem_cons_self .., ?_⟩
        simp [h_phase, LaunchPhase.alarms, h_later]
      · contradiction

/-! ## The schedule -/

/-- Each step of the prompt schedule is a move that is no call, and if it is a move of the clock, it
goes to an alarm. -/
theorem promptStep_eq_some {r : State C × List (Stamped C)}
    (h : promptStep cfg env pace s = some r) :
    ∃ m, step cfg env s m = some r ∧ m.isCall = false ∧
      ∀ nanos, m = .tick nanos → s.now + nanos ∈ s.alarms pace ∧ 0 < nanos := by
  unfold promptStep at h
  split at h
  · contradiction
  · rcases eq_some_of_orElse h with h | h
    · exact ⟨_, h, rfl, by simp⟩
    · rcases eq_some_of_orElse h with h | h
      · rcases eq_some_of_orElse h with h | h
        · obtain ⟨i, -, h_step⟩ := List.exists_of_findSome?_eq_some h
          split at h_step
          · exact ⟨_, h_step, rfl, by simp⟩
          · contradiction
        · unfold pickStep at h
          split at h
          · exact ⟨_, h, rfl, by simp⟩
          · contradiction
      · rcases eq_some_of_orElse h with h | h
        · exact ⟨_, h, rfl, by simp⟩
        · unfold waitStep at h
          split at h
          · next next h_next =>
            have h_mem := List.mem_filter.1 (List.min?_mem h_next)
            have h_later : s.now < next := by simpa using h_mem.2
            refine ⟨_, h, rfl, ?_⟩
            rintro nanos ⟨⟩
            rw [Nat.add_sub_cancel' (Nat.le_of_lt h_later)]
            exact ⟨h_mem.1, Nat.sub_pos_of_lt h_later⟩
          · contradiction

/-- Every step of the prompt schedule takes the work down. -/
theorem promptStep_lt {threads : Nat} {now : Moment} {ms₀ : List (Move C)}
    {es₀ es : List (Stamped C)} (h_onPanic : cfg.onPanic ≠ .abort)
    (h_before : run cfg env (start threads now) ms₀ = some (s, es₀))
    (h : promptStep cfg env pace s = some (t, es)) :
    t.workload cfg pace < s.workload cfg pace := by
  obtain ⟨m, h_move, h_noCall, h_tick⟩ := promptStep_eq_some h
  obtain ⟨-, fs, h_step, rfl⟩ := step_eq_some_iff.1 h_move
  by_cases h_clock : ∃ nanos, m = .tick nanos
  · obtain ⟨nanos, rfl⟩ := h_clock
    obtain ⟨h_alarm, h_pos⟩ := h_tick nanos rfl
    cases h_step
    exact Nat.add_lt_add_left (load_lt_of_alarm h_alarm (Nat.lt_add_of_pos_right h_pos)) _
  · exact h_step.workload_lt h_onPanic (layout_of_run h_before) (counted_of_run h_before)
      (numbered_of_run h_before) h_noCall fun nanos h_m => h_clock ⟨nanos, h_m⟩

/-- As long as a flush goes on, the prompt schedule has a next step: the caller or the launch thread
can move, or one of them waits for a moment that is to come. -/
theorem promptStep_ne_none (h_alive : s.aborted = false) (h_f : s.current = some f) :
    promptStep cfg env pace s ≠ none := by
  have h_step {m : Move C} (h : ∃ s' es, Transition cfg env s m s' es) :
      step cfg env s m ≠ none := by
    obtain ⟨s', es, h⟩ := h
    rw [step_eq_some_iff.2 ⟨h_alive, es, h, rfl⟩]
    exact Option.some_ne_none _
  -- An alarm to come lets time pass.
  have h_wait (next : Moment) (h_alarm : next ∈ s.alarms pace) (h_later : s.now < next) :
      waitStep cfg env pace s ≠ none := by
    have h_some : ((s.alarms pace).filter (s.now < ·)).min? ≠ none := by
      rw [Ne, List.min?_eq_none_iff]
      exact List.ne_nil_of_mem (List.mem_filter.2 ⟨h_alarm, by simpa using h_later⟩)
    obtain ⟨first, h_first⟩ := Option.ne_none_iff_exists'.1 h_some
    simp only [waitStep, h_first]
    exact h_step ⟨_, _, .tick⟩
  suffices h_one : step cfg env s .caller ≠ none ∨ step cfg env s .launcher ≠ none ∨
      waitStep cfg env pace s ≠ none by
    intro h_none
    simp only [promptStep, h_f, Option.isNone_some, Bool.false_eq_true, if_false,
      Option.orElse_eq_orElse, Option.orElse_eq_or, Option.or_eq_none_iff] at h_none
    obtain ⟨h_caller, -, h_launcher, h_waits⟩ := h_none
    simp [h_caller, h_launcher, h_waits] at h_one
  have h_caller {s' : State C} {es : List (Event C)} (h : CallerStep cfg env s f s' es) :
      step cfg env s .caller ≠ none := h_step ⟨s', es, .caller h_f h⟩
  cases h_stage : f.stage with
  | requesting rest =>
    cases rest with
    | nil => exact .inl (h_caller (beginJoin_step h_stage))
    | cons r rest => exact .inl (h_caller (requestOne_step h_stage))
  | submitting rest =>
    cases rest with
    | cons key rest => exact .inl (h_caller (submitOne_step h_stage))
    | nil =>
      cases h_pipelined : cfg.pipelined with
      | true => exact .inl (h_caller (.joins h_stage h_pipelined))
      | false => exact .inl (h_caller (.drains h_stage h_pipelined))
  | joining =>
    cases h_over : f.join.isOver with
    | true => exact .inl (h_caller (afterJoin_step h_stage h_over))
    | false =>
      cases h_poll : Polled.poll f.inbox (s.hasReporter f.number) f.joinStart f.joinDeadline
          s.now with
      | some found => exact .inl (h_caller (.polls h_stage h_over h_poll))
      | none =>
        -- The caller has not waited long enough.
        refine .inr (.inr (h_wait f.joinDeadline ?_ ?_))
        · simp [alarms, joinDeadline?, h_f, h_stage]
        · unfold Polled.poll at h_poll
          grind
  | draining =>
    cases h_lane : s.lane with
    | nil => exact .inl (h_caller (conclude_step h_stage h_lane))
    | cons job rest =>
      have h_launcher {s' : State C} {es : List (Event C)}
          (h : LauncherStep cfg env s job rest s' es) : step cfg env s .launcher ≠ none :=
        h_step ⟨s', es, .launcher h_lane h⟩
      cases h_phase : job.phase with
      | queued => exact .inr (.inl (h_launcher (beginWait_step h_lane h_phase)))
      | holding since artifact => exact .inr (.inl (h_launcher (runFirst_step h_lane h_phase)))
      | waiting since deadline =>
        cases h_look : seekArtifact env s job since deadline with
        | some r => exact .inr (.inl (h_launcher (seekArtifact_step h_lane h_phase h_look)))
        | none =>
          -- The launch thread has not waited long enough.
          refine .inr (.inr (h_wait deadline ?_ ?_))
          · simp [alarms, launchDeadline?, h_lane, h_phase]
          · simp only [seekArtifact, ArtifactStore.examine] at h_look
            grind

/-- Steps of the prompt schedule make up a run without calls. -/
theorem exists_run_of_prompt (cfg : Settings) (env : Environment C) (pace : Pace) (n : Nat)
    (s : State C) :
    ∃ ms, run cfg env s ms = some (traceUpTo (promptStep cfg env pace) n s) ∧
      ∀ m ∈ ms, m.isCall = false := by
  induction n generalizing s with
  | zero => exact ⟨[], rfl, by simp⟩
  | succ n ih =>
    unfold traceUpTo
    split
    · next s' es h_some =>
      obtain ⟨m, h_step, h_noCall, -⟩ := promptStep_eq_some h_some
      obtain ⟨ms, h_run, h_rest⟩ := ih s'
      exact ⟨m :: ms, run_cons.2 ⟨s', es, _, h_step, h_run, rfl⟩,
        List.forall_mem_cons.2 ⟨h_noCall, h_rest⟩⟩
    · exact ⟨[], rfl, by simp⟩

/-- Given as many steps as there is work, the prompt schedule brings the flush to its end. -/
theorem idle_of_prompt {threads : Nat} {now : Moment} (h_onPanic : cfg.onPanic ≠ .abort) (n : Nat)
    {ms₀ : List (Move C)} {es₀ : List (Stamped C)}
    (h_before : run cfg env (start threads now) ms₀ = some (s, es₀))
    (h_enough : s.workload cfg pace ≤ n) :
    (traceUpTo (promptStep cfg env pace) n s).1.current = none := by
  induction n generalizing s ms₀ es₀ with
  | zero =>
    -- Without work left there is no flush: the caller of one has always something to do.
    cases h_f : s.current with
    | none => exact h_f
    | some f =>
      have h_pos := f.effort_pos cfg
      simp only [workload, effort, h_f] at h_enough
      omega
  | succ n ih =>
    unfold traceUpTo
    split
    · next s' es h_some =>
      have h_less := promptStep_lt h_onPanic h_before h_some
      obtain ⟨m, h_step, -⟩ := promptStep_eq_some h_some
      have h_reached := run_append.2 ⟨s, es₀, _, h_before,
        run_cons.2 ⟨s', es, [], h_step, run_nil, (List.append_nil _).symm⟩, rfl⟩
      exact ih h_reached (by omega)
    · next h_none =>
      cases h_f : s.current with
      | none => rfl
      | some f =>
        exact absurd h_none (promptStep_ne_none (alive_of_run h_onPanic h_before) h_f)

/-- A prompt call of `flush` is a run to the end of the flush. -/
theorem flush_returns {threads : Nat} {now : Moment} {ms₀ : List (Move C)}
    {es₀ : List (Stamped C)} (h_onPanic : cfg.onPanic ≠ .abort)
    (h_before : run cfg env (start threads now) ms₀ = some (s, es₀)) (h_idle : s.current = none)
    (pace : Pace) :
    (s.flush cfg env pace).1.current = none ∧
      ∃ ms, run cfg env s (.flush :: ms) = some (s.flush cfg env pace) ∧
        ∀ m ∈ ms, m.isCall = false := by
  have h_alive := alive_of_run h_onPanic h_before
  obtain ⟨t, es, h_begins⟩ : ∃ t es, Transition cfg env s .flush t es :=
    ⟨_, _, beginFlush_transition h_idle⟩
  have h_step := step_eq_some_iff.2 ⟨h_alive, es, h_begins, rfl⟩
  have h_begun := run_append.2 ⟨s, es₀, _, h_before,
    run_cons.2 ⟨t, _, [], h_step, run_nil, (List.append_nil _).symm⟩, rfl⟩
  have h_enough : t.workload cfg pace ≤ s.stepBound :=
    workload_le (layout_of_run h_before) (staffed_of_run h_before) h_begins
  obtain ⟨ms, h_run, h_noCall⟩ := exists_run_of_prompt cfg env pace s.stepBound t
  simp only [flush, h_step]
  exact ⟨idle_of_prompt h_onPanic _ h_begun h_enough, ms,
    run_cons.2 ⟨t, _, _, h_step, h_run, rfl⟩, h_noCall⟩

end State

end KernelDispatch
