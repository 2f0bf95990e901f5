/-
  KernelDispatch.Proofs.Flush.CallOrder

  The order in which a single worker calls the code generator.

  A flush has to compile the tasks that have no entry when it begins, each for the first
  record with it (`ArtifactStore.toCompile`). What is left of this at some moment is
  what its queued jobs ask for, and then what it has still to request (`State.agenda`).
  A single worker starts the first of all unfinished jobs, so the calls that have been
  made and the agenda are the plans of all flushes so far, one after another
  (`Transition.agenda_eq`), whatever an earlier flush has left in the pool.
-/
import KernelDispatch.Proofs.Flush.Provenance
import KernelDispatch.Proofs.Flush.SingleWorker
import KernelDispatch.Proofs.Tallies.Compilations
import KernelDispatch.Proofs.Tallies.Reports

namespace KernelDispatch

variable {C : Type} {cfg : Settings} {env : Environment C}

/-- A call of the code generator that has to be made: for this flush, with this kernel and this
task. -/
structure PlannedCall where
  flush : Nat
  kernel : String
  task : String
  deriving DecidableEq

/-- The call that a flush has to make for a record. -/
def Record.plannedCall (n : Nat) (r : Record C) : PlannedCall :=
  ⟨n, r.kernel, r.task⟩

/-- The call that a queued compile job is going to make. -/
def CompileJob.plannedCall? (job : CompileJob C) : Option PlannedCall :=
  match job.phase with
  | .queued => some ⟨job.flush, job.kernel, job.key.text⟩
  | _ => none

/-- The call of the code generator that an event is. -/
def Event.plannedCall? : Event C → Option PlannedCall
  | codegenCalled n _ _ call => some ⟨n, call.kernel, call.task⟩
  | _ => none

/-- The calls of the code generator, in the order in which they have been made. -/
def callsMade (es : List (Event C)) : List PlannedCall :=
  es.filterMap Event.plannedCall?

theorem callsMade_append (es fs : List (Event C)) :
    callsMade (es ++ fs) = callsMade es ++ callsMade fs :=
  List.filterMap_append

/-- A compile job that is not queued is not going to make a call. -/
theorem plannedCall?_of_begun {job : CompileJob C} (h : job.phase.isQueued = false) :
    job.plannedCall? = none := by
  unfold CompileJob.plannedCall?
  cases h_phase : job.phase with
  | queued =>
    rw [h_phase] at h
    cases h
  | _ => rfl

/-! ## What a flush has to compile -/

namespace ArtifactStore

variable {A : Type} {s s' : ArtifactStore A} {r : Record C} {rest : List (Record C)}

/-- Of these records, the first one with each task that has no entry. -/
def toCompile (s : ArtifactStore A) (rs : List (Record C)) : List (Record C) :=
  (rs.filter fun r => (s.slot? r.key).isNone).eraseDupsBy fun r r' => r.key == r'.key

/-- Only which tasks have entries counts. -/
theorem toCompile_congr (h : ∀ k, s'.slot? k = none ↔ s.slot? k = none) (rs : List (Record C)) :
    s'.toCompile rs = s.toCompile rs := by
  have h_same (k : TaskId) : (s'.slot? k).isNone = (s.slot? k).isNone := by
    rw [Bool.eq_iff_iff, Option.isNone_iff_eq_none, Option.isNone_iff_eq_none, h]
  simp only [toCompile, h_same]

theorem slot?_request_eq_none_iff (s : ArtifactStore A) (key : TaskId) (n : Nat) (k : TaskId) :
    (s.request key n).2.slot? k = none ↔ s.slot? k = none ∧ k ≠ key := by
  rw [slot?_request]
  split
  · next h => simp [h.1]
  · next h =>
    refine ⟨fun h_none => ⟨h_none, ?_⟩, fun h_none => h_none.1⟩
    rintro rfl
    exact h ⟨rfl, h_none⟩

theorem slot?_settle_eq_none_iff (s : ArtifactStore A) (key : TaskId) (content : Slot A)
    (k : TaskId) : (s.settle key content).2.slot? k = none ↔ s.slot? k = none := by
  rw [slot?_settle]
  split
  · next h =>
    rw [h.1, isPending_iff.1 h.2]
    simp
  · rfl

/-- A task that is requested and has no entry is the first to compile; with the entry that it gets,
the rest is what is left to compile. -/
theorem toCompile_of_new (h_new : s.slot? r.key = none) (n : Nat) :
    s.toCompile (r :: rest) = r :: (s.request r.key n).2.toCompile rest := by
  have h_others (x : Record C) : ((s.request r.key n).2.slot? x.key).isNone =
      ((x.key == r.key) = false && (s.slot? x.key).isNone) := by
    rw [Bool.eq_iff_iff, Option.isNone_iff_eq_none, slot?_request_eq_none_iff]
    simp [and_comm]
  rw [toCompile, List.filter_cons_of_pos (by simp [h_new]), List.eraseDupsBy_cons,
    List.filter_filter, toCompile]
  simp only [h_others]

/-- A task that has an entry is not to be compiled. -/
theorem toCompile_of_known (h_known : s.slot? r.key ≠ none) (n : Nat) :
    s.toCompile (r :: rest) = (s.request r.key n).2.toCompile rest := by
  rw [toCompile, List.filter_cons_of_neg (by simpa using h_known), ← toCompile]
  refine (toCompile_congr (fun k => ?_) rest).symm
  rw [slot?_request_eq_none_iff]
  refine and_iff_left_of_imp fun h_none => ?_
  rintro rfl
  exact h_known h_none

end ArtifactStore

/-- The calls for the tasks that a flush has not requested yet. -/
def Flush.toRequest {A : Type} (store : ArtifactStore A) (f : Flush C) : List PlannedCall :=
  match f.stage with
  | .requesting rest => (store.toCompile rest).map (Record.plannedCall f.number)
  | _ => []

theorem Flush.toRequest_of_stage {A : Type} {f : Flush C} {rest : List (Record C)}
    (h_stage : f.stage = .requesting rest) (store : ArtifactStore A) :
    f.toRequest store = (store.toCompile rest).map (Record.plannedCall f.number) := by
  rw [toRequest, h_stage]

namespace State

variable {s s' t : State C} {f : Flush C} {m : Move C} {ms : List (Move C)}
  {es : List (Stamped C)} {fs hs : List (Event C)}

/-- The calls that are going to be made for what is enqueued if a move begins a flush of it. -/
def planned (s : State C) : Move C → List PlannedCall
  | .flush => (s.store.toCompile s.backlog).map (Record.plannedCall (s.flushes + 1))
  | _ => []

/-- The calls that the flushes of a run have to make, flush after flush. -/
def plan (cfg : Settings) (env : Environment C) : State C → List (Move C) → List PlannedCall :=
  collect cfg env fun s m _ _ => planned s m

/-- The calls that the queued compile jobs are going to make. -/
def queuedCalls (s : State C) : List PlannedCall :=
  s.jobs.filterMap CompileJob.plannedCall?

/-- The calls for what the flush in progress has not requested yet. -/
def toRequest (s : State C) : List PlannedCall :=
  match s.current with
  | some f => f.toRequest s.store
  | none => []

/-- The calls that are going to be made. -/
def agenda (s : State C) : List PlannedCall :=
  s.queuedCalls ++ s.toRequest

theorem toRequest_of_current (h_f : s.current = some f) :
    s.toRequest = f.toRequest s.store := by
  rw [toRequest, h_f]

theorem toRequest_of_past (h : ∀ f, s.current = some f → ¬ f.Requesting) : s.toRequest = [] := by
  cases h_current : s.current with
  | none => rw [toRequest, h_current]
  | some f =>
    rw [toRequest_of_current h_current, Flush.toRequest]
    split
    · next rest h_stage => exact absurd ⟨rest, h_stage⟩ (h f h_current)
    · rfl

/-- A move of another thread than the caller requests nothing. -/
theorem toRequest_of_outline
    (h_outline : s'.current.map Flush.outline = s.current.map Flush.outline)
    (h_store : ∀ k, s'.store.slot? k = none ↔ s.store.slot? k = none) :
    s'.toRequest = s.toRequest := by
  cases h_current : s'.current with
  | none =>
    rw [h_current] at h_outline
    rw [toRequest, h_current, toRequest, Option.map_eq_none_iff.1 h_outline.symm]
  | some f' =>
    obtain ⟨f, h_f, h_same⟩ := exists_flush_of_outline_eq h_outline h_current
    have h_stage : f'.stage = f.stage := congrArg (fun g => g.stage) h_same
    have h_number : f'.number = f.number := congrArg (fun g => g.number) h_same
    rw [toRequest_of_current h_current, toRequest_of_current h_f, Flush.toRequest, Flush.toRequest,
      h_stage, h_number]
    split
    · rw [ArtifactStore.toCompile_congr h_store]
    · rfl

/-! ## The first job of the line -/

/-- The job that a single worker goes on with is the first of all unfinished ones. -/
theorem InLine.first {worker : Nat} {job : CompileJob C} (h : InLine s fs)
    (h_numbered : Numbered s) (h_running : s.pool.runningAt? worker = some job.id)
    (h_job : job ∈ s.jobs) :
    ∃ rest, s.jobs = job :: rest ∧ ∀ other ∈ rest, other.id ≠ job.id := by
  obtain ⟨before, after, h_jobs, h_before, h_after⟩ := split_at_job h_numbered.distinct h_job
  refine ⟨after, ?_, h_after⟩
  cases before with
  | nil => exact h_jobs
  | cons first before =>
    have h_ids := (h.front h_running false).1
    rw [h_jobs] at h_ids
    exact absurd (List.cons.inj h_ids).1 (h_before first (List.mem_cons_self ..))

theorem setPhase_of_first {job : CompileJob C} {rest : List (CompileJob C)}
    (h_jobs : s.jobs = job :: rest) (h_rest : ∀ other ∈ rest, other.id ≠ job.id)
    (phase : CompilePhase C) :
    (s.setPhase job.id phase).jobs = { job with phase := phase } :: rest := by
  rw [setPhase, h_jobs, List.map_cons, map_of_ne phase h_rest, if_pos (beq_self_eq_true _)]

theorem dropJob_of_first {job : CompileJob C} {rest : List (CompileJob C)}
    (h_jobs : s.jobs = job :: rest) (h_rest : ∀ other ∈ rest, other.id ≠ job.id) :
    (s.dropJob job.id).jobs = rest := by
  rw [dropJob, h_jobs, List.filter_cons_of_neg (by simp)]
  exact filter_of_ne h_rest

/-! ## The agenda -/

theorem callsMade_of_quiet (h_quiet : ∀ e ∈ fs, e.plannedCall? = none) : callsMade fs = [] :=
  List.filterMap_eq_nil_iff.2 h_quiet

theorem agenda_of_quiet (h_jobs : s'.queuedCalls = s.queuedCalls)
    (h_requests : s'.toRequest = s.toRequest) (h_fs : callsMade fs = []) :
    callsMade fs ++ s'.agenda = s.agenda := by
  rw [h_fs, List.nil_append, agenda, agenda, h_jobs, h_requests]

/-- The caller puts nothing on the agenda and takes nothing off it: what it requests is queued
instead. -/
theorem CallerStep.agenda_eq (h_f : s.current = some f) (h : CallerStep cfg env s f s' fs) :
    callsMade fs ++ s'.agenda = s.agenda := by
  have h_requests (r : Record C) (e : Event C) (h_e : e.plannedCall? = none) :
      callsMade ((f.collision r).map (.collided · r.key) ++ [e]) = [] := by
    apply callsMade_of_quiet
    intro e' h_e'
    rcases List.mem_append.1 h_e' with h_e' | h_e'
    · obtain ⟨_, -, rfl⟩ := List.mem_map.1 h_e'
      rfl
    · rwa [List.mem_singleton.1 h_e']
  have h_now {rest : List (Record C)} (h_stage : f.stage = .requesting rest) :
      s.toRequest = (s.store.toCompile rest).map (Record.plannedCall f.number) := by
    rw [toRequest_of_current h_f, Flush.toRequest_of_stage h_stage]
  cases h with
  | @schedules r rest h_stage h_new =>
    rw [h_requests r _ rfl, List.nil_append, agenda, agenda, h_now h_stage,
      ArtifactStore.toCompile_of_new h_new f.number, List.map_cons, List.append_cons s.queuedCalls]
    -- The new compile job is the last one, and it is queued.
    exact congrArg (· ++ _) List.filterMap_append
  | @shares r rest h_stage h_known | @reuses r rest h_stage h_known =>
    refine agenda_of_quiet rfl ?_ (h_requests r _ rfl)
    rw [h_now h_stage, ArtifactStore.toCompile_of_known h_known f.number]
    rfl
  | unwinds h_stage =>
    refine agenda_of_quiet rfl ?_ rfl
    rw [h_now h_stage]
    rfl
  | @beginsJoin deadline h_stage =>
    refine agenda_of_quiet rfl ?_ rfl
    rw [h_now h_stage]
    apply toRequest_of_past
    rintro _ ⟨⟩ ⟨rest, h_requesting⟩
    simp only [Flush.joinFrom] at h_requesting
    split at h_requesting <;> cases h_requesting
  | abandons h_stage | succeeds h_stage | fails h_stage =>
    refine agenda_of_quiet rfl ?_ rfl
    exact (toRequest_of_past (by simp [h_f, Flush.Requesting, h_stage])).symm
  | submits h_stage | submitsNothing h_stage | joins h_stage | drains h_stage | drainsJoined h_stage
  | submitsJoined h_stage | polls h_stage =>
    refine agenda_of_quiet rfl ?_ rfl
    rw [toRequest_of_past (s := s) (by simp [h_f, Flush.Requesting, h_stage])]
    apply toRequest_of_past
    simp [Flush.Requesting, h_stage]

/-- A worker that starts its job makes the first call on the agenda. -/
theorem WorkerStep.agenda_eq {worker : Nat} {job : CompileJob C} (h_line : InLine s hs)
    (h_numbered : Numbered s) (h_running : s.pool.runningAt? worker = some job.id)
    (h_job : job ∈ s.jobs) (h : WorkerStep cfg env s worker job s' fs) :
    callsMade fs ++ s'.agenda = s.agenda := by
  obtain ⟨rest, h_jobs, h_rest⟩ := h_line.first h_numbered h_running h_job
  have h_outline := h.samePlan.current
  have h_begun (h_phase : job.phase.isQueued = false) :
      s.queuedCalls = rest.filterMap CompileJob.plannedCall? := by
    rw [queuedCalls, h_jobs, List.filterMap_cons, plannedCall?_of_begun h_phase]
  have h_set {phase : CompilePhase C} (h_phase : phase.isQueued = false) :
      (s.setPhase job.id phase).queuedCalls = rest.filterMap CompileJob.plannedCall? := by
    have h_begun : CompileJob.plannedCall? { job with phase := phase } = none :=
      plannedCall?_of_begun h_phase
    rw [queuedCalls, setPhase_of_first h_jobs h_rest, List.filterMap_cons, h_begun]
  -- Only a call that is made leaves the agenda.
  suffices h_queued : callsMade fs ++ s'.queuedCalls = s.queuedCalls ∧
      ∀ k, s'.store.slot? k = none ↔ s.store.slot? k = none by
    rw [agenda, agenda, ← List.append_assoc, h_queued.1, toRequest_of_outline h_outline h_queued.2]
  cases h with
  | @starts call h_phase h_call =>
    refine ⟨?_, fun _ => .rfl⟩
    have h_first : job.plannedCall? = some ⟨job.flush, call.kernel, call.task⟩ := by
      rw [CompileJob.plannedCall?, h_phase, h_call]
      rfl
    rw [queuedCalls, queuedCalls, h_jobs, List.filterMap_cons, h_first]
    exact congrArg (_ :: ·) (h_set rfl)
  | @generates call result since h_phase =>
    refine ⟨?_, fun _ => .rfl⟩
    rw [h_begun (by rw [h_phase]; rfl)]
    exact h_set (isQueued_afterCodegen call result)
  | settles h_phase =>
    refine ⟨?_, ArtifactStore.slot?_settle_eq_none_iff _ _ _⟩
    rw [h_begun (by rw [h_phase]; rfl)]
    exact h_set rfl
  | aborts => exact ⟨rfl, fun _ => .rfl⟩
  | reports h_phase | loses h_phase =>
    refine ⟨?_, fun _ => .rfl⟩
    rw [h_begun (by rw [h_phase]; rfl)]
    exact congrArg (List.filterMap CompileJob.plannedCall?) (dropJob_of_first h_jobs h_rest)

/-- Only the beginning of a flush puts calls on the agenda, those of its plan. -/
theorem Transition.agenda_eq (h_line : InLine s hs) (h_numbered : Numbered s)
    (h : Transition cfg env s m s' fs) :
    callsMade fs ++ s'.agenda = s.agenda ++ planned s m := by
  have h_other (h_none : planned s m = []) (h_eq : callsMade fs ++ s'.agenda = s.agenda) :
      callsMade fs ++ s'.agenda = s.agenda ++ planned s m := by
    rw [h_none, List.append_nil, h_eq]
  cases h with
  | enqueue h_idle | dropArtifacts h_idle =>
    apply h_other rfl
    refine agenda_of_quiet rfl ?_ rfl
    rw [toRequest_of_past (s := s) (by simp [h_idle])]
    exact toRequest_of_past (by simp [h_idle])
  | returns h_idle h_empty =>
    rw [planned, h_empty]
    exact (List.append_nil _).symm
  | begins h_idle =>
    rw [agenda, agenda, toRequest_of_past (s := s) (by simp [h_idle]), List.append_nil]
    rfl
  | caller h_current h_step => exact h_other rfl (h_step.agenda_eq h_current)
  | pick | tick => exact h_other rfl (agenda_of_quiet rfl rfl rfl)
  | worker h_running h_found h_step =>
    have h_id := by simpa using List.find?_some h_found
    apply h_other rfl
    exact h_step.agenda_eq h_line h_numbered (h_id ▸ h_running) (List.mem_of_find?_eq_some h_found)
  | launcher _ h_step =>
    apply h_other rfl
    have h_outline := h_step.plan.2.2
    cases h_step <;> exact agenda_of_quiet rfl (toRequest_of_outline h_outline fun _ => .rfl) rfl

theorem plan_of_run {now : Moment} (h_run : run cfg env (start 1 now) ms = some (t, es)) :
    callsMade (history es) ++ t.agenda = plan cfg env (start 1 now) ms := by
  refine run_induction (P := fun ms t es =>
    callsMade (history es) ++ t.agenda = plan cfg env (start 1 now) ms) rfl ?_ h_run
  intro ms m t es u fs h_prefix h_alive h_before h_step
  rw [history_append, history_stamp, callsMade_append, List.append_assoc,
    h_step.agenda_eq (inLine_of_run h_prefix) (numbered_of_run h_prefix), plan,
    collect_concat h_prefix h_alive h_step, ← List.append_assoc, h_before, plan]

/-! ## The pool of a run -/

/-- The pool of a dispatcher has made the moves of a pool, in which the compile jobs have been
submitted in the order of their numbers. -/
theorem pool_of_run {threads : Nat} {now : Moment}
    (h_run : run cfg env (start threads now) ms = some (t, es)) :
    ∃ moves, (WorkerPool.ofThreads threads).run moves = some t.pool ∧
      WorkerPool.submitted moves = List.range t.submitted := by
  refine run_induction (P := fun _ t _ => ∃ moves,
    (WorkerPool.ofThreads threads).run moves = some t.pool ∧
      WorkerPool.submitted moves = List.range t.submitted) ⟨[], rfl, rfl⟩ ?_ h_run
  rintro ms m t es u fs - - ⟨moves, h_moves, h_submitted⟩ h_step
  have h_same (h_pool : u.pool = t.pool) (h_number : u.submitted = t.submitted) :
      ∃ moves, (WorkerPool.ofThreads threads).run moves = some u.pool ∧
        WorkerPool.submitted moves = List.range u.submitted :=
    ⟨moves, h_pool ▸ h_moves, h_number ▸ h_submitted⟩
  -- Moves of the pool that submit nothing.
  have h_more {more : List (PoolMove Nat)} (h_run : t.pool.run more = some u.pool)
      (h_none : WorkerPool.submitted more = []) (h_number : u.submitted = t.submitted) :
      ∃ moves, (WorkerPool.ofThreads threads).run moves = some u.pool ∧
        WorkerPool.submitted moves = List.range u.submitted := by
    refine ⟨moves ++ more, WorkerPool.run_append_eq_some.2 ⟨t.pool, h_moves, h_run⟩, ?_⟩
    rw [WorkerPool.submitted, List.filterMap_append, ← WorkerPool.submitted,
      ← WorkerPool.submitted, h_none, List.append_nil, h_submitted, h_number]
  cases h_step with
  | caller _ h_step =>
    cases h_step with
    | schedules =>
      refine ⟨moves ++ [.submit t.submitted], WorkerPool.run_append_eq_some.2
        ⟨t.pool, h_moves, rfl⟩, ?_⟩
      rw [WorkerPool.submitted_concat, h_submitted]
      exact List.range_succ.symm
    | _ => exact h_same rfl rfl
  | @pick take pool h_pick h_take =>
    have h_move : t.pool.run [take] = some pool :=
      WorkerPool.run_cons_eq_some.2 ⟨pool, h_pick, rfl⟩
    refine h_more h_move ?_ rfl
    cases take <;> first | rfl | cases h_take
  | worker h_running _ h_step =>
    cases h_step with
    | reports => exact h_more (WorkerPool.run_complete h_running false).1 rfl rfl
    | loses => exact h_more (WorkerPool.run_complete h_running true).1 rfl rfl
    | _ => exact h_same rfl rfl
  | launcher _ h_step => cases h_step <;> exact h_same rfl rfl
  | _ => exact h_same rfl rfl

/-- What a single worker makes of the compile jobs and the code generator in a run, by these moves,
that has come to the state `t` with these events. -/
structure InSubmissionOrder (cfg : Settings) (env : Environment C) (s : State C)
    (ms : List (Move C)) (t : State C) (es : List (Stamped C)) : Prop where
  /-- The jobs that have ended, the one in the hand of the worker, its own queue and the shared
  queue are all jobs, in the order of their submission. -/
  jobs : t.pool.course = List.range t.submitted
  /-- The calls that have been made and those that the queued jobs and the requests to come are
  going to make are the plan: flush after flush, one call for each text without an entry when the
  flush begins, in the order of the first records with them, with kernel and task of this record. -/
  calls : callsMade (history es) ++ t.agenda = plan cfg env s ms
  /-- Between flushes a text without an entry is one without an artifact, unless a caller has
  panicked. -/
  uncached : Calm (history es) → t.current = none → ∀ key,
    t.store.slot? key = none ↔ t.store.contains key = false

/-- Between flushes only artifacts have entries. -/
theorem slot?_eq_none_iff_of_ready (h : AllReady t) (key : TaskId) :
    t.store.slot? key = none ↔ t.store.contains key = false := by
  rw [ArtifactStore.contains]
  cases h_slot : t.store.slot? key with
  | none => simp
  | some slot => simp [h key slot h_slot]

/-- Any run with one compile worker, at any moment: any number of flushes, also of such that have
given up and left jobs in the pool, and batches of any size that the worker takes at any time. Jobs
run in the order of their submission, and the calls of the code generator follow the plans of the
flushes. -/
theorem single_worker_follows_submission {now : Moment}
    (h_run : run cfg env (start 1 now) ms = some (t, es)) :
    InSubmissionOrder cfg env (start 1 now) ms t es where
  jobs := by
    obtain ⟨moves, h_moves, h_submitted⟩ := pool_of_run h_run
    rw [WorkerPool.course_of_run h_moves, h_submitted]
  calls := plan_of_run h_run
  uncached h_calm h_idle := slot?_eq_none_iff_of_ready (ready_when_idle_of_run h_run h_calm h_idle)

/-- A flush of three records with two tasks gives up while its first job is running and its second
one waits in the worker's own queue. Then a flush begins of a new task and of the second one again.
-/
def flushAmidJobs : List (Move Nat) :=
  [[.enqueue ⟨0, "k", "a"⟩, .enqueue ⟨0, "l", "b"⟩, .enqueue ⟨0, "m", "a"⟩, .flush],
    List.replicate 4 .caller, [.pick (.takeShared 0 1), .worker 0, .tick 1],
    List.replicate 6 .caller, List.replicate 6 .launcher,
    [.caller, .enqueue ⟨0, "n", "c"⟩, .enqueue ⟨0, "o", "b"⟩, .flush], List.replicate 3 .caller,
    List.replicate 3 (.worker 0), [.pick (.takeOwn 0)], List.replicate 4 (.worker 0),
    [.pick (.takeShared 0 1)], List.replicate 4 (.worker 0),
    [.pick (.takeOwn 0), .worker 0]].flatten

theorem four_calls_in_order :
    ∃ t es, run impatient counted (start 1 0) flushAmidJobs = some (t, es) ∧
      t.pool.course = List.range 4 ∧
      callsMade (history es) = [⟨1, "k", "a"⟩, ⟨1, "l", "b"⟩, ⟨2, "n", "c"⟩, ⟨2, "o", "b"⟩] := by
  have h_summary : (run impatient counted (start 1 0) flushAmidJobs).map
      (fun r => (r.1.submitted, r.1.agenda)) = some (4, []) := rfl
  obtain ⟨⟨t, es⟩, h_run, h_eq⟩ := Option.map_eq_some_iff.1 h_summary
  obtain ⟨h_submitted, h_agenda⟩ := Prod.mk.inj h_eq
  have h_order := single_worker_follows_submission h_run
  have h_jobs := h_order.jobs
  have h_calls := h_order.calls
  rw [h_submitted] at h_jobs
  rw [h_agenda, List.append_nil] at h_calls
  exact ⟨t, es, h_run, h_jobs, h_calls.trans rfl⟩

end State

end KernelDispatch
