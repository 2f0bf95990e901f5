/-
  KernelDispatch.Proofs.Tallies.Compilations

  What the tallies have to do with the calls of the code generator.

  A compile job is queued until a worker calls the code generator for it, and the
  tallies advance when the call comes to its result. So at every moment a job that
  was submitted is queued or has made its call, and a counter of results has
  counted those of the calls made, but for the ones that are still under way
  (`built_of_run`).
-/
import KernelDispatch.Proofs.Flush.Jobs
import KernelDispatch.Proofs.Tallies.Measures

namespace KernelDispatch

variable {C : Type} {cfg : Settings} {env : Environment C}

/-- What some calls of the code generator come to, newest first. -/
def Environment.results (env : Environment C) : List CodegenCall → List (Generated C)
  | [] => []
  | call :: calls => env.codegen calls call :: env.results calls

namespace Generated

/-- Whether a call of the code generator comes to no code. -/
def isFailure : Generated C → Bool
  | code _ => false
  | _ => true

/-- Whether a call of the code generator panics. -/
def isPanic : Generated C → Bool
  | panicked _ | lostPanicking _ => true
  | _ => false

end Generated

namespace CompilePhase

/-- Whether no worker has started a compile job. -/
def isQueued : CompilePhase C → Bool
  | queued => true
  | _ => false

/-- Whether a compile job will come to a result of some kind. -/
def awaits (p : Generated C → Bool) : CompilePhase C → Bool
  | generating _ result _ => p result
  | _ => false

end CompilePhase

namespace Event

/-- Whether an event is that the code generator has come to a result. -/
def isBuild : Event C → Bool
  | codegenEnded .. => true
  | _ => false

end Event

/-! ## What counts results -/

/-- The kind of results that a counter counts, if it counts results. -/
def Counter.kind : Counter → Option (Generated C → Bool)
  | compilations => some fun _ => true
  | buildFailures => some Generated.isFailure
  | panics => some Generated.isPanic
  | _ => none

/-- A result advances the counters of its kind. -/
theorem measured_result {c : Counter} {p : Generated C → Bool} (h_p : c.kind = some p)
    (flush elapsed : Nat) (key : TaskId) (call : CodegenCall) (result : Generated C) :
    measured c [.codegenEnded (C := C) flush key elapsed (State.afterCodegen call result).2.1
      (State.afterCodegen call result).2.2] = if p result then 1 else 0 := by
  cases c <;> cases h_p <;> cases result <;> rfl

namespace State

open CompilePhase (isQueued awaits)

variable {s s' t : State C} {f : Flush C} {m : Move C} {ms : List (Move C)}
  {es : List (Stamped C)} {fs hs : List (Event C)}

/-! ## Compile jobs between their submission and their result -/

/-- The number of compile jobs that stand in some kind of phase. -/
def jobsIn (s : State C) (q : CompilePhase C → Bool) : Nat :=
  s.jobs.countP fun job => q job.phase

theorem jobsIn_of_jobs_eq (h_jobs : s'.jobs = s.jobs) (q : CompilePhase C → Bool) :
    s'.jobsIn q = s.jobsIn q := by
  rw [jobsIn, h_jobs, jobsIn]

/-- What a move does to the compile jobs that have no result. -/
inductive BuildChange (env : Environment C) (s s' : State C) (fs : List (Event C)) : Prop
  /-- All is as before. -/
  | still (h_queued : s'.jobsIn isQueued = s.jobsIn isQueued)
      (h_awaited : ∀ p, s'.jobsIn (awaits p) = s.jobsIn (awaits p)) (h_calls : s'.calls = s.calls)
      (h_submitted : s'.submitted = s.submitted) (h_quiet : ∀ e ∈ fs, e.isBuild = false)
  /-- A compile job is submitted. -/
  | submits (h_queued : s'.jobsIn isQueued = s.jobsIn isQueued + 1)
      (h_awaited : ∀ p, s'.jobsIn (awaits p) = s.jobsIn (awaits p)) (h_calls : s'.calls = s.calls)
      (h_submitted : s'.submitted = s.submitted + 1) (h_quiet : ∀ e ∈ fs, e.isBuild = false)
  /-- The code generator is called. -/
  | calls {call : CodegenCall} (h_queued : s'.jobsIn isQueued + 1 = s.jobsIn isQueued)
      (h_awaited : ∀ p, s'.jobsIn (awaits p) =
        s.jobsIn (awaits p) + if p (env.codegen s.calls call) then 1 else 0)
      (h_calls : s'.calls = call :: s.calls) (h_submitted : s'.submitted = s.submitted)
      (h_quiet : ∀ e ∈ fs, e.isBuild = false)
  /-- The code generator comes to its result. -/
  | ends {flush elapsed : Nat} {key : TaskId} {call : CodegenCall} {result : Generated C}
      (h_queued : s'.jobsIn isQueued = s.jobsIn isQueued)
      (h_awaited : ∀ p, s'.jobsIn (awaits p) + (if p result then 1 else 0) = s.jobsIn (awaits p))
      (h_calls : s'.calls = s.calls) (h_submitted : s'.submitted = s.submitted)
      (h_fs : fs = [.codegenEnded flush key elapsed (afterCodegen call result).2.1
        (afterCodegen call result).2.2])

theorem BuildChange.of_jobs_eq (h_jobs : s'.jobs = s.jobs) (h_calls : s'.calls = s.calls)
    (h_submitted : s'.submitted = s.submitted) (h_quiet : ∀ e ∈ fs, e.isBuild = false) :
    BuildChange env s s' fs :=
  .still (jobsIn_of_jobs_eq h_jobs _) (fun _ => jobsIn_of_jobs_eq h_jobs _) h_calls h_submitted
    h_quiet

theorem CallerStep.noBuild (h : CallerStep cfg env s f s' fs) : ∀ e ∈ fs, e.isBuild = false := by
  cases h with
  | schedules | shares | reuses =>
    simp only [List.mem_append, List.mem_map, List.mem_singleton]
    rintro e (⟨_, -, rfl⟩ | rfl) <;> rfl
  | _ => simp [Event.isBuild, joinedEvent, endedEvent]

theorem CallerStep.buildChange (h : CallerStep cfg env s f s' fs) : BuildChange env s s' fs := by
  have h_quiet := h.noBuild
  cases h with
  | schedules =>
    refine .submits ?_ (fun p => ?_) rfl rfl h_quiet
    all_goals
      rw [jobsIn, List.countP_append]
      rfl
  | _ => exact .of_jobs_eq rfl rfl rfl h_quiet

theorem isQueued_afterCodegen (call : CodegenCall) (result : Generated C) :
    (afterCodegen call result).1.isQueued = false := by
  cases result <;> rfl

theorem awaits_afterCodegen (p : Generated C → Bool) (call : CodegenCall) (result : Generated C) :
    (afterCodegen call result).1.awaits p = false := by
  cases result <;> rfl

/-- A worker moves one job only. -/
theorem WorkerStep.buildChange {worker : Nat} {job : CompileJob C} (h_numbered : Numbered s)
    (h_job : job ∈ s.jobs) (h : WorkerStep cfg env s worker job s' fs) :
    BuildChange env s s' fs := by
  have h_set (phase : CompilePhase C) (q : CompilePhase C → Bool) :
      (s.setPhase job.id phase).jobsIn q + (if q job.phase then 1 else 0) =
        s.jobsIn q + if q phase then 1 else 0 :=
    countP_setPhase (fun job => q job.phase) h_numbered h_job
  have h_drop (q : CompilePhase C → Bool) :
      (s.dropJob job.id).jobsIn q + (if q job.phase then 1 else 0) = s.jobsIn q :=
    countP_dropJob (fun job => q job.phase) h_numbered.distinct h_job
  cases h with
  -- The call leaves the queued jobs and is under way until it comes to its result.
  | @starts call h_phase =>
    rw [h_phase] at h_set
    exact .calls (h_set _ isQueued) (fun p => h_set _ (awaits p)) rfl rfl
      (by simp [Event.isBuild])
  | @generates call result since h_phase =>
    rw [h_phase] at h_set
    refine .ends ?_ (fun p => ?_) rfl rfl rfl
    · exact (h_set _ isQueued).trans (by simp [isQueued_afterCodegen])
    · exact (h_set _ (awaits p)).trans (by simp [awaits_afterCodegen])
  | settles h_phase =>
    rw [h_phase] at h_set
    exact .still (h_set _ isQueued) (fun p => h_set _ (awaits p)) rfl rfl
      (by simp [Event.isBuild])
  | reports h_phase | loses h_phase =>
    rw [h_phase] at h_drop
    exact .still (h_drop isQueued) (fun p => h_drop (awaits p)) rfl rfl
      (by simp [Event.isBuild])
  | aborts => exact .of_jobs_eq rfl rfl rfl (by simp [Event.isBuild])

theorem Transition.buildChange (h_numbered : Numbered s) (h : Transition cfg env s m s' fs) :
    BuildChange env s s' fs := by
  cases h with
  | caller _ h_step => exact h_step.buildChange
  | worker _ h_found h_step =>
    exact h_step.buildChange h_numbered (List.mem_of_find?_eq_some h_found)
  | launcher _ h_step =>
    cases h_step <;> exact .of_jobs_eq rfl rfl rfl (by simp [Event.isBuild])
  | _ => exact .of_jobs_eq rfl rfl rfl (by simp [Event.isBuild])

/-! ## Results -/

/-- Every compile job submitted is queued or has called the code generator, and a counter of
results has counted those of the calls that have come to their results. -/
structure Built (env : Environment C) (s : State C) (hs : List (Event C)) : Prop where
  called : s.calls.length + s.jobsIn isQueued = s.submitted
  results : ∀ c p, Counter.kind c = some p →
    measured c (hs.filter Event.isBuild) + s.jobsIn (awaits p) = (env.results s.calls).countP p

theorem Transition.built (h : Built env s hs) (h_numbered : Numbered s)
    (h_step : Transition cfg env s m s' fs) : Built env s' (hs ++ fs) := by
  obtain ⟨h_called, h_results⟩ := h
  have h_measured (h_quiet : ∀ e ∈ fs, e.isBuild = false) (c : Counter) :
      measured c ((hs ++ fs).filter Event.isBuild) = measured c (hs.filter Event.isBuild) := by
    have h_none : fs.filter Event.isBuild = [] :=
      List.filter_eq_nil_iff.2 fun e h_e => by simp [h_quiet e h_e]
    rw [List.filter_append, h_none, List.append_nil]
  cases h_step.buildChange h_numbered with
  | still h_queued h_awaited h_calls h_submitted h_quiet =>
    refine ⟨by rw [h_calls, h_queued, h_submitted, h_called], fun c p h_p => ?_⟩
    rw [h_measured h_quiet, h_awaited, h_calls, h_results c p h_p]
  | submits h_queued h_awaited h_calls h_submitted h_quiet =>
    refine ⟨by rw [h_calls, h_queued, h_submitted, ← h_called, Nat.add_assoc], fun c p h_p => ?_⟩
    rw [h_measured h_quiet, h_awaited, h_calls, h_results c p h_p]
  | calls h_queued h_awaited h_calls h_submitted h_quiet =>
    refine ⟨?_, fun c p h_p => ?_⟩
    · rw [h_calls, h_submitted, List.length_cons]
      omega
    · rw [h_measured h_quiet, h_awaited, h_calls, Environment.results, List.countP_cons,
        ← h_results c p h_p, Nat.add_assoc]
  | @ends _ _ _ _ result h_queued h_awaited h_calls h_submitted h_fs =>
    refine ⟨by rw [h_calls, h_queued, h_submitted, h_called], fun c p h_p => ?_⟩
    have h_before := h_results c p h_p
    rw [← h_awaited p] at h_before
    rw [h_fs, List.filter_append, List.filter_cons_of_pos rfl, List.filter_nil, measured_append,
      measured_result h_p, h_calls, ← h_before]
    omega

end State

end KernelDispatch
