/-
  KernelDispatch.Proofs.Flush.Inversion

  The transitions are exactly the moves of a dispatcher (`move_eq_some_iff`).

  Each function of a move has one lemma that gives its transition; the converse
  evaluates the move at each transition. Nothing after this module unfolds a move.
-/
import KernelDispatch.Proofs.Flush.Transition

namespace KernelDispatch.State

variable {C : Type} {cfg : Settings} {env : Environment C} {s s' : State C} {es : List (Event C)}

/-- What relates the two parts of a pair relates what they are equal to. -/
theorem rel_of_some_eq {α β : Type} {P : α → β → Prop} {p : α × β} {a : α} {b : β}
    (h : some p = some (a, b)) (h_p : P p.1 p.2) : P a b := by
  cases h
  exact h_p

/-! ## The moves of the caller -/

theorem requestOne_step {f : Flush C} {r : Record C} {rest : List (Record C)}
    (h_stage : f.stage = .requesting (r :: rest)) :
    CallerStep cfg env s f (requestOne s f r rest).1 (requestOne s f r rest).2 := by
  -- The answer to the request decides the branch, and it tells whether the task had a slot.
  have h_new := s.store.request_eq_scheduled_iff r.key f.number
  unfold requestOne
  rw [show TaskId.ofText r.task = r.key from rfl]
  cases h_answer : (s.store.request r.key f.number).1 with
  | scheduled =>
    simp only [h_answer]
    exact .schedules h_stage (h_new.1 h_answer)
  | shared =>
    have h_known : s.store.slot? r.key ≠ none := by
      rw [Ne, ← h_new, h_answer]
      simp
    simp only [h_answer]
    exact .shares h_stage h_known h_answer
  | reused =>
    have h_known : s.store.slot? r.key ≠ none := by
      rw [Ne, ← h_new, h_answer]
      simp
    simp only [h_answer]
    exact .reuses h_stage h_known h_answer

theorem beginJoin_step {f : Flush C} (h_stage : f.stage = .requesting []) :
    CallerStep cfg env s f (beginJoin cfg s f).1 (beginJoin cfg s f).2 := by
  cases h_deadline : cfg.compilePatience.deadline? s.now with
  | none =>
    simp only [beginJoin, h_deadline]
    exact .unwinds h_stage h_deadline
  | some deadline =>
    simp only [beginJoin, h_deadline]
    exact .beginsJoin h_stage h_deadline

theorem submitOne_step {f : Flush C} {key : TaskId} {rest : List TaskId}
    (h_stage : f.stage = .submitting (key :: rest)) :
    CallerStep cfg env s f (submitOne cfg s f key rest).1 (submitOne cfg s f key rest).2 := by
  unfold submitOne
  split
  · next h => exact .submitsNothing h_stage h
  · next h => exact .submits h_stage h

theorem afterJoin_step {f : Flush C} (h_stage : f.stage = .joining)
    (h_over : f.join.isOver = true) :
    CallerStep cfg env s f (afterJoin cfg env s f).1 (afterJoin cfg env s f).2 := by
  unfold afterJoin
  split
  · next h => exact .drainsJoined h_stage h_over h
  · next h_pipelined =>
    have h_pipelined : cfg.pipelined = false := by simpa using h_pipelined
    split
    · next h_onFailure h_failures =>
      exact .abandons h_stage h_over h_pipelined h_onFailure h_failures
    · next h_not =>
      refine .submitsJoined h_stage h_over h_pipelined ?_
      -- The branch is taken unless the settings say to abandon and there is a failure.
      cases h_onFailure : cfg.onFailure with
      | runOthers => exact .inl rfl
      | abandonFlush =>
        cases h_failures : f.join.failures with
        | nil => exact .inr rfl
        | cons first rest => exact absurd h_failures (h_not first rest h_onFailure)

theorem joinOne_step {f : Flush C} (h_stage : f.stage = .joining)
    (h_over : f.join.isOver = false) (h : joinOne s f = some (s', es)) :
    CallerStep cfg env s f s' es := by
  unfold joinOne at h
  split at h
  · contradiction
  · next h_poll =>
    cases h
    exact .polls h_stage h_over h_poll

theorem conclude_step {f : Flush C} (h_stage : f.stage = .draining) (h_lane : s.lane = []) :
    CallerStep cfg env s f (conclude cfg env s f).1 (conclude cfg env s f).2 := by
  unfold conclude
  cases h_result : result f with
  | ok report => exact .succeeds h_stage h_lane h_result
  | error failure => exact .fails h_stage h_lane h_result

theorem callerMove_step (h : callerMove cfg env s = some (s', es)) :
    ∃ f, s.current = some f ∧ CallerStep cfg env s f s' es := by
  unfold callerMove at h
  split at h
  · contradiction
  · next f h_current =>
    refine ⟨f, h_current, ?_⟩
    split at h
    · next h_stage =>
      exact rel_of_some_eq h (requestOne_step h_stage)
    · next h_stage =>
      exact rel_of_some_eq h (beginJoin_step h_stage)
    · next h_stage =>
      exact rel_of_some_eq h (submitOne_step h_stage)
    · next h_stage =>
      split at h
      · next h_pipelined =>
        cases h
        exact .joins h_stage h_pipelined
      · next h_pipelined =>
        cases h
        exact .drains h_stage (by simpa using h_pipelined)
    · next h_stage =>
      split at h
      · next h_over =>
        exact rel_of_some_eq h (afterJoin_step h_stage h_over)
      · next h_over => exact joinOne_step h_stage (by simpa using h_over) h
    · next h_stage =>
      split at h
      · next h_lane =>
        exact rel_of_some_eq h (conclude_step h_stage (by simpa using h_lane))
      · contradiction

/-! ## The moves of a compile worker -/

/-- The code generator's result if it is not a panic that ends the process. -/
theorem endCodegen_eq {job : CompileJob C} (call : CodegenCall) {result : Generated C}
    (since : Moment)
    (h_survives : ∀ cause, result.attempt.panic? = some cause → cfg.onPanic ≠ .abort) :
    endCodegen cfg s job call result since =
      (s.setPhase job.id (afterCodegen call result).1,
        [.codegenEnded job.flush job.key (s.now - since) (afterCodegen call result).2.1
          (afterCodegen call result).2.2]) := by
  cases result with
  | code | failed | lost => rfl
  | panicked cause | lostPanicking cause =>
    -- Of the results only a panic asks for the settings.
    have h_onPanic : cfg.panicGuard.onPanic ≠ .abort := h_survives cause rfl
    simp only [endCodegen, Generated.attempt, PanicGuard.contain_panicked, if_neg h_onPanic]
    rfl

/-- The code generator's result if that is a panic that ends the process. -/
theorem endCodegen_aborts {job : CompileJob C} (call : CodegenCall) {result : Generated C}
    (since : Moment) {cause : Panic} (h_panic : result.attempt.panic? = some cause)
    (h_onPanic : cfg.onPanic = .abort) :
    endCodegen cfg s job call result since =
      ({ s with aborted := true }, [.aborted .compile "codegen" cause]) := by
  cases result with
  | code | failed | lost => cases h_panic
  | panicked | lostPanicking =>
    cases h_panic
    have h_guard : cfg.panicGuard.onPanic = .abort := h_onPanic
    simp only [endCodegen, Generated.attempt, PanicGuard.contain_panicked, if_pos h_guard]
    rfl

theorem endCodegen_step {worker : Nat} {job : CompileJob C} {call : CodegenCall}
    {result : Generated C} {since : Moment} (h_phase : job.phase = .generating call result since) :
    WorkerStep cfg env s worker job (endCodegen cfg s job call result since).1
      (endCodegen cfg s job call result since).2 := by
  by_cases h_aborts : ∃ cause, result.attempt.panic? = some cause ∧ cfg.onPanic = .abort
  · obtain ⟨cause, h_panic, h_onPanic⟩ := h_aborts
    rw [endCodegen_aborts call since h_panic h_onPanic]
    exact .aborts h_phase h_panic h_onPanic
  · have h_survives (cause : Panic) (h_panic : result.attempt.panic? = some cause) :
        cfg.onPanic ≠ .abort := fun h_onPanic => h_aborts ⟨cause, h_panic, h_onPanic⟩
    rw [endCodegen_eq call since h_survives]
    exact .generates h_phase h_survives

theorem settleJob_step {worker : Nat} {job : CompileJob C}
    {result : Except Failure (Artifact C)} (h_phase : job.phase = .generated result) :
    WorkerStep cfg env s worker job (settleJob s job result).1 (settleJob s job result).2 := by
  cases result with
  | ok artifact => exact .settles h_phase
  | error cause => exact .settles h_phase

theorem workerMove_step {index : Nat} (h : workerMove cfg env s index = some (s', es)) :
    ∃ id job, s.pool.runningAt? index = some id ∧ s.job? id = some job ∧
      WorkerStep cfg env s index job s' es := by
  unfold workerMove at h
  split at h
  · contradiction
  · next job h_job =>
    obtain ⟨id, h_running, h_job⟩ := Option.bind_eq_some_iff.1 h_job
    refine ⟨id, job, h_running, h_job, ?_⟩
    split at h
    · next h_phase =>
      cases h
      exact .starts h_phase rfl
    · next h_phase =>
      exact rel_of_some_eq h (endCodegen_step h_phase)
    · next h_phase =>
      exact rel_of_some_eq h (settleJob_step h_phase)
    · next h_phase =>
      cases h
      exact .reports h_phase
    · next h_phase =>
      cases h
      exact .loses h_phase

/-! ## The moves of the launch thread -/

theorem beginWait_step {job : LaunchJob C} {rest : List (LaunchJob C)}
    (h_lane : s.lane = job :: rest) (h_phase : job.phase = .queued) :
    LauncherStep cfg env s job rest (beginWait cfg s job).1 (beginWait cfg s job).2 := by
  unfold beginWait
  cases h_deadline : cfg.dispatchPatience.deadline? s.now with
  | none =>
    simp only [loseFirst, h_lane, List.tail_cons]
    exact .overflows h_phase h_deadline
  | some deadline =>
    simp only [holdFirst, h_lane, List.tail_cons]
    exact .waits h_phase h_deadline

theorem endFirst_eq {job : LaunchJob C} {rest : List (LaunchJob C)} {since : Moment}
    {outcome : Outcome} (h_lane : s.lane = job :: rest) :
    endFirst s job since outcome =
      ({ s with
          lane := rest
          current := posted s.current job outcome },
        [.recordEnded job.flush job.seq job.key (s.now - since) outcome]) := by
  simp only [endFirst, updateFlush, posted, h_lane, List.tail_cons]

theorem failFirst_step {job : LaunchJob C} {rest : List (LaunchJob C)} {since deadline : Moment}
    (h_lane : s.lane = job :: rest) (h_phase : job.phase = .waiting since deadline)
    (h_slot : ∀ artifact, s.store.slot? job.key ≠ some (.ready artifact))
    (h_late : s.store.slot? job.key = some .pending → deadline ≤ s.now) :
    LauncherStep cfg env s job rest
      (failFirst env s job since (missFailure job since s.now (s.store.slot? job.key))).1
      (failFirst env s job since (missFailure job since s.now (s.store.slot? job.key))).2 := by
  unfold failFirst
  split
  · next h_mute =>
    -- Only a pending slot leaves a failure that says the job is late.
    cases h_found : s.store.slot? job.key with
    | none =>
      simp only [missFailure, dispatchFailure, loseFirst, h_lane, List.tail_cons]
      exact .mutes h_phase h_slot (by simp [h_found]) h_mute
    | some slot =>
      cases slot with
      | ready artifact => exact absurd h_found (h_slot artifact)
      | pending =>
        simp only [missFailure, loseFirst, h_lane, List.tail_cons]
        exact .expires h_phase h_found (h_late h_found) h_mute
      | failed message =>
        simp only [missFailure, dispatchFailure, loseFirst, h_lane, List.tail_cons]
        exact .mutes h_phase h_slot (by simp [h_found]) h_mute
  · next h_told =>
    rw [endFirst_eq h_lane]
    exact .misses h_phase h_slot h_late (by simpa using h_told)

/-- What a launch job without an artifact comes to is decided by its slot, and for a pending one by
the clock. -/
theorem seekArtifact_of_miss {job : LaunchJob C} {since deadline : Moment}
    (h_slot : ∀ artifact, s.store.slot? job.key ≠ some (.ready artifact))
    (h_late : s.store.slot? job.key = some .pending → deadline ≤ s.now) :
    seekArtifact env s job since deadline =
      some (failFirst env s job since (missFailure job since s.now (s.store.slot? job.key))) := by
  unfold seekArtifact ArtifactStore.examine
  cases h_found : s.store.slot? job.key with
  | none => rfl
  | some slot =>
    cases slot with
    | pending => simp only [h_late h_found, decide_true, if_true, missFailure]
    | ready artifact => exact absurd h_found (h_slot artifact)
    | failed message => rfl

theorem seekArtifact_step {job : LaunchJob C} {rest : List (LaunchJob C)}
    {since deadline : Moment} (h_lane : s.lane = job :: rest)
    (h_phase : job.phase = .waiting since deadline)
    (h : seekArtifact env s job since deadline = some (s', es)) :
    LauncherStep cfg env s job rest s' es := by
  have h_miss (h_slot : ∀ artifact, s.store.slot? job.key ≠ some (.ready artifact))
      (h_late : s.store.slot? job.key = some .pending → deadline ≤ s.now) :
      LauncherStep cfg env s job rest s' es := by
    rw [seekArtifact_of_miss h_slot h_late] at h
    exact rel_of_some_eq h (failFirst_step h_lane h_phase h_slot h_late)
  -- What the job finds is decided by its slot, and for a pending one by the clock.
  cases h_slot : s.store.slot? job.key with
  | none => exact h_miss (by simp [h_slot]) (by simp [h_slot])
  | some slot =>
    cases slot with
    | pending =>
      by_cases h_late : deadline ≤ s.now
      · exact h_miss (by simp [h_slot]) fun _ => h_late
      · simp [seekArtifact, ArtifactStore.examine, h_slot, h_late] at h
    | ready artifact =>
      simp only [seekArtifact, ArtifactStore.examine, h_slot, holdFirst, h_lane,
        List.tail_cons] at h
      cases h
      exact .finds h_phase h_slot
    | failed message => exact h_miss (by simp [h_slot]) (by simp [h_slot])

theorem runFirst_step {job : LaunchJob C} {rest : List (LaunchJob C)} {since : Moment}
    {artifact : Artifact C} (h_lane : s.lane = job :: rest)
    (h_phase : job.phase = .holding since artifact) :
    LauncherStep cfg env s job rest (runFirst cfg s job since artifact).1
      (runFirst cfg s job since artifact).2 := by
  unfold runFirst
  cases h_result : artifact.code s.runs job.record.context with
  | completed context =>
    simp only [Execution.attempt, PanicGuard.contain_returned,
      endFirst_eq (s := { s with runs := s.runs + 1 }) h_lane]
    exact .completes h_phase h_result
  | panicked cause =>
    simp only [Execution.attempt, PanicGuard.contain_panicked]
    by_cases h_onPanic : cfg.panicGuard.onPanic = .abort
    · simp only [h_onPanic, if_true]
      exact .aborts h_phase (.inl h_result) h_onPanic
    · simp only [h_onPanic, if_false, Execution.isLost, Bool.false_eq_true,
        endFirst_eq (s := { s with runs := s.runs + 1 }) h_lane]
      exact .panics h_phase h_result h_onPanic rfl
  | lost cause =>
    simp only [Execution.attempt, PanicGuard.contain_panicked]
    by_cases h_onPanic : cfg.panicGuard.onPanic = .abort
    · simp only [h_onPanic, if_true]
      exact .aborts h_phase (.inr h_result) h_onPanic
    · simp only [h_onPanic, if_false, Execution.isLost, if_true, loseFirst, h_lane,
        List.tail_cons]
      exact .loses h_phase h_result h_onPanic

theorem launcherMove_step (h : launcherMove cfg env s = some (s', es)) :
    ∃ job rest, s.lane = job :: rest ∧ LauncherStep cfg env s job rest s' es := by
  unfold launcherMove at h
  split at h
  · contradiction
  · next job rest h_lane =>
    refine ⟨job, rest, h_lane, ?_⟩
    split at h
    · next h_phase => exact rel_of_some_eq h (beginWait_step h_lane h_phase)
    · next h_phase => exact seekArtifact_step h_lane h_phase h
    · next h_phase => exact rel_of_some_eq h (runFirst_step h_lane h_phase)

/-! ## All moves -/

theorem pickMove_transition {take : PoolMove Nat} (h : pickMove s take = some (s', es)) :
    Transition cfg env s (.pick take) s' es := by
  unfold pickMove at h
  -- The pool has more moves than these three; the others are not moves of a dispatcher.
  split at h
  all_goals first
    | contradiction
    | obtain ⟨pool, h_pick, h_eq⟩ := Option.map_eq_some_iff.1 h
      cases h_eq
      exact .pick h_pick rfl

theorem beginFlush_transition (h_idle : s.current = none) :
    Transition cfg env s .flush (beginFlush s).1 (beginFlush s).2 := by
  unfold beginFlush
  cases h_backlog : s.backlog with
  | nil => exact .returns h_idle h_backlog
  | cons r backlog =>
    have h_some : s.backlog ≠ [] := by simp [h_backlog]
    have h_begins : Transition cfg env s .flush _ _ := .begins h_idle h_some
    simpa only [firstFlush, h_backlog] using h_begins

/-- Everything a move does is a transition. -/
theorem move_transition {m : Move C} (h : move cfg env s m = some (s', es)) :
    Transition cfg env s m s' es := by
  unfold move at h
  cases m with
  | enqueue r =>
    simp only [Option.isNone_iff_eq_none] at h
    split at h
    · next h_idle =>
      cases h
      exact .enqueue h_idle
    · contradiction
  | dropArtifacts =>
    simp only [Option.isNone_iff_eq_none] at h
    split at h
    · next h_idle =>
      cases h
      exact .dropArtifacts h_idle
    · contradiction
  | flush =>
    simp only [Option.isNone_iff_eq_none] at h
    split at h
    · next h_idle => exact rel_of_some_eq h (beginFlush_transition h_idle)
    · contradiction
  | caller =>
    obtain ⟨f, h_current, h_step⟩ := callerMove_step h
    exact .caller h_current h_step
  | pick take => exact pickMove_transition h
  | worker index =>
    obtain ⟨id, job, h_running, h_job, h_step⟩ := workerMove_step h
    exact .worker h_running h_job h_step
  | launcher =>
    obtain ⟨job, rest, h_lane, h_step⟩ := launcherMove_step h
    exact .launcher h_lane h_step
  | tick nanos =>
    cases h
    exact .tick

/-! ## From transitions to moves -/

theorem callerMove_of_step {f : Flush C} (h_current : s.current = some f)
    (h : CallerStep cfg env s f s' es) : callerMove cfg env s = some (s', es) := by
  -- Each constructor carries the guards under which the move takes its branch.
  unfold callerMove
  cases h with
  | schedules h_stage h_new =>
    have h_answer := (s.store.request_eq_scheduled_iff _ f.number).2 h_new
    simp only [h_current, h_stage, requestOne]
    rw [show TaskId.ofText _ = Record.key _ from rfl, h_answer]
    rfl
  | shares h_stage h_known h_answer =>
    simp only [h_current, h_stage, requestOne]
    rw [show TaskId.ofText _ = Record.key _ from rfl, h_answer]
    rfl
  | reuses h_stage h_known h_answer =>
    simp only [h_current, h_stage, requestOne]
    rw [show TaskId.ofText _ = Record.key _ from rfl, h_answer]
    rfl
  | unwinds h_stage h_deadline => simp only [h_current, h_stage, beginJoin, h_deadline]
  | beginsJoin h_stage h_deadline =>
    simp only [h_current, h_stage, beginJoin, h_deadline, Flush.joinFrom]
  | submits h_stage h_backlog =>
    simp only [h_current, h_stage, submitOne, h_backlog, Flush.launchJob]
  | submitsNothing h_stage h_backlog => simp only [h_current, h_stage, submitOne, h_backlog]
  | joins h_stage h_pipelined => simp only [h_current, h_stage, h_pipelined, if_true]
  | drains h_stage h_pipelined =>
    simp only [h_current, h_stage, h_pipelined, Bool.false_eq_true, if_false]
  | polls h_stage h_over h_poll =>
    simp only [h_current, h_stage, h_over, Bool.false_eq_true, if_false, joinOne, h_poll]
  | drainsJoined h_stage h_over h_pipelined =>
    simp only [h_current, h_stage, h_over, if_true, afterJoin, h_pipelined]
  | abandons h_stage h_over h_pipelined h_onFailure h_failures =>
    simp only [h_current, h_stage, h_over, if_true, afterJoin, h_pipelined, Bool.false_eq_true,
      if_false, h_onFailure, h_failures, closeFlush, closed, endedEvent]
  | submitsJoined h_stage h_over h_pipelined h_goesOn =>
    simp only [h_current, h_stage, h_over, if_true, afterJoin, h_pipelined, Bool.false_eq_true,
      if_false]
    rcases h_goesOn with h_goesOn | h_goesOn
    · simp only [h_goesOn]
    · rw [h_goesOn]
      cases cfg.onFailure <;> rfl
  | succeeds h_stage h_lane h_result =>
    simp only [h_current, h_stage, h_lane, List.isEmpty_nil, if_true, conclude, h_result,
      closeFlush, closed, endedEvent]
  | fails h_stage h_lane h_result =>
    simp only [h_current, h_stage, h_lane, List.isEmpty_nil, if_true, conclude, h_result,
      closeFlush, closed, endedEvent]

theorem workerMove_of_step {index id : Nat} {job : CompileJob C}
    (h_running : s.pool.runningAt? index = some id) (h_job : s.job? id = some job)
    (h : WorkerStep cfg env s index job s' es) : workerMove cfg env s index = some (s', es) := by
  simp only [workerMove, h_running, Option.bind_some, h_job]
  cases h with
  | starts h_phase h_call => simp only [h_phase, startJob, h_call]
  | generates h_phase h_survives => simp only [h_phase, endCodegen_eq _ _ h_survives]
  | aborts h_phase h_panic h_onPanic =>
    simp only [h_phase, endCodegen_aborts _ _ h_panic h_onPanic]
  | @settles result h_phase =>
    simp only [h_phase]
    cases result with
    | ok artifact => rfl
    | error cause => rfl
  | reports h_phase => simp only [h_phase]
  | loses h_phase => simp only [h_phase]

theorem launcherMove_of_step {job : LaunchJob C} {rest : List (LaunchJob C)}
    (h_lane : s.lane = job :: rest) (h : LauncherStep cfg env s job rest s' es) :
    launcherMove cfg env s = some (s', es) := by
  unfold launcherMove
  cases h with
  | waits h_phase h_deadline =>
    simp only [h_lane, h_phase, beginWait, h_deadline, holdFirst, List.tail_cons]
  | overflows h_phase h_deadline =>
    simp only [h_lane, h_phase, beginWait, h_deadline, loseFirst, List.tail_cons]
  | finds h_phase h_slot =>
    simp only [h_lane, h_phase, seekArtifact, ArtifactStore.examine, h_slot, holdFirst,
      List.tail_cons]
  | misses h_phase h_slot h_late h_told =>
    simp only [h_lane, h_phase, seekArtifact_of_miss h_slot h_late, failFirst, h_told,
      Bool.false_eq_true, if_false, endFirst_eq h_lane]
  | mutes h_phase h_slot h_settled h_mute =>
    simp only [h_lane, h_phase,
      seekArtifact_of_miss h_slot fun h_pending => absurd h_pending h_settled, failFirst, h_mute,
      if_true, loseFirst, List.tail_cons]
    cases h_found : s.store.slot? job.key with
    | none => rfl
    | some slot =>
      cases slot with
      | ready artifact => exact absurd h_found (h_slot artifact)
      | pending => exact absurd h_found h_settled
      | failed message => rfl
  | expires h_phase h_slot h_late h_mute =>
    simp only [h_lane, h_phase, seekArtifact, ArtifactStore.examine, h_slot, h_late, decide_true,
      if_true, failFirst, h_mute, loseFirst, List.tail_cons]
  | completes h_phase h_result =>
    simp only [h_lane, h_phase, runFirst, h_result, Execution.attempt,
      PanicGuard.contain_returned, endFirst, updateFlush, posted, List.tail_cons]
  | panics h_phase h_result h_onPanic h_failure =>
    have h_guard : cfg.panicGuard.onPanic ≠ .abort := h_onPanic
    simp only [h_lane, h_phase, runFirst, h_result, Execution.attempt,
      PanicGuard.contain_panicked, h_guard, if_false, Execution.isLost, Bool.false_eq_true,
      h_failure, endFirst, updateFlush, posted, List.tail_cons]
  | loses h_phase h_result h_onPanic =>
    have h_guard : cfg.panicGuard.onPanic ≠ .abort := h_onPanic
    simp only [h_lane, h_phase, runFirst, h_result, Execution.attempt,
      PanicGuard.contain_panicked, h_guard, if_false, Execution.isLost, if_true, loseFirst,
      List.tail_cons]
  | aborts h_phase h_result h_onPanic =>
    have h_guard : cfg.panicGuard.onPanic = .abort := h_onPanic
    simp only [h_lane, h_phase, runFirst]
    rcases h_result with h_result | h_result <;>
      simp only [h_result, Execution.attempt, PanicGuard.contain_panicked, h_guard, if_true] <;>
      rfl

/-- A transition is what a move does. -/
theorem move_of_transition {m : Move C} (h : Transition cfg env s m s' es) :
    move cfg env s m = some (s', es) := by
  cases h with
  | enqueue h_idle => simp only [move, h_idle, Option.isNone_none, if_true]
  | dropArtifacts h_idle => simp only [move, h_idle, Option.isNone_none, if_true]
  | returns h_idle h_empty =>
    simp only [move, h_idle, Option.isNone_none, if_true, beginFlush, h_empty]
  | begins h_idle h_some =>
    simp only [move, h_idle, Option.isNone_none, if_true, beginFlush]
    cases h_backlog : s.backlog with
    | nil => exact absurd h_backlog h_some
    | cons r backlog => simp only [firstFlush, h_backlog]
  | caller h_current h_step => exact callerMove_of_step h_current h_step
  | @pick take pool h_pick h_take =>
    simp only [move, pickMove]
    cases take with
    | takeOwn worker => simp only [h_pick, Option.map_some]
    | takeShared worker more => simp only [h_pick, Option.map_some]
    | steal worker victim more => simp only [h_pick, Option.map_some]
    | _ => simp at h_take
  | worker h_running h_job h_step => exact workerMove_of_step h_running h_job h_step
  | launcher h_lane h_step => exact launcherMove_of_step h_lane h_step
  | tick => rfl

/-- The transitions are exactly the moves. -/
theorem move_eq_some_iff {m : Move C} :
    move cfg env s m = some (s', es) ↔ Transition cfg env s m s' es :=
  ⟨move_transition, move_of_transition⟩

end KernelDispatch.State
