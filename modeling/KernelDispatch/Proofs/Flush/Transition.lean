/-
  KernelDispatch.Proofs.Flush.Transition

  Everything a move of a dispatcher can do, thread by thread.

  `CallerStep`, `WorkerStep` and `LauncherStep` list the atomic moves of the three
  kinds of threads with their guards, the state they lead to and the events they
  emit. `Transition` adds the moves between flushes and the clock. A property of
  all runs is proved by cases on a transition; that the transitions are exactly
  the moves of `State.move` is `move_eq_some_iff`.
-/
import KernelDispatch.ArtifactStore.Lemmas
import KernelDispatch.Flush.Step

namespace KernelDispatch

variable {C : Type}

/-- The task of a record. -/
def Record.key (r : Record C) : TaskId :=
  .ofText r.task

/-! ## The caller -/

/-- A report that counts one more requested record. -/
def Report.count (p : Report) (collisions : Nat) : Standing → Report
  | .scheduled => { p with compiled := p.compiled + 1, collisions := p.collisions + collisions }
  | .shared => { p with shares := p.shares + 1, collisions := p.collisions + collisions }
  | .reused => { p with reuses := p.reuses + 1, collisions := p.collisions + collisions }

namespace Flush

/-- The task that the task of a record collides with for the first time, if any. -/
def collision (f : Flush C) (r : Record C) : List TaskId :=
  (f.sightings.meet r.key).1.toList

/-- A flush that has requested the task of a record; the records `rest` are left. -/
def requested (f : Flush C) (r : Record C) (rest : List (Record C)) (answer : Standing) :
    Flush C :=
  { f with
    stage := .requesting rest
    sightings := (f.sightings.meet r.key).2
    keys := f.keys ++ [r.key]
    report := f.report.count (f.collision r).length answer }

/-- A flush that begins to wait for its compile jobs at the moment `now`. -/
def joinFrom (cfg : Settings) (f : Flush C) (now deadline : Moment) : Flush C :=
  { f with
    joinStart := now
    joinDeadline := deadline
    join := { expected := f.report.compiled }
    stage := if cfg.pipelined then .submitting f.keys else .joining }

/-- The launch job of a record for which this task is submitted; the tasks `rest` are left. -/
def launchJob (cfg : Settings) (f : Flush C) (r : Record C) (key : TaskId) (rest : List TaskId) :
    LaunchJob C where
  flush := f.number
  seq := f.keys.length - (rest.length + 1)
  record := r
  key := key
  artifactsDue := if cfg.pipelined then some f.joinDeadline else none

end Flush

namespace State

/-- The flush that begins with everything that is enqueued. -/
def firstFlush (s : State C) : Flush C where
  number := s.flushes + 1
  batch := s.backlog
  stage := .requesting s.backlog
  report := { flush := s.flushes + 1, records := s.backlog.length }

/-- A dispatcher that is back between flushes, with what the retention keeps of the store. -/
def closed (cfg : Settings) (env : Environment C) (s : State C) (f : Flush C) : State C :=
  { s with
    backlog := []
    store := (s.store.retain cfg.retention (env.rank f.number)).2
    current := none }

/-- The end of a flush in the history. -/
def endedEvent (cfg : Settings) (env : Environment C) (s : State C) (f : Flush C) : Event C :=
  .ended f.number (s.store.retain cfg.retention (env.rank f.number)).1

/-- The moves of the caller in a flush. -/
inductive CallerStep (cfg : Settings) (env : Environment C) (s : State C) (f : Flush C) :
    State C → List (Event C) → Prop where
  /-- A record's task is new. -/
  | schedules {r : Record C} {rest : List (Record C)}
      (h_stage : f.stage = .requesting (r :: rest)) (h_new : s.store.slot? r.key = none) :
      CallerStep cfg env s f
        { s with
          store := (s.store.request r.key f.number).2
          current := some (f.requested r rest .scheduled)
          submitted := s.submitted + 1
          jobs := s.jobs ++ [⟨s.submitted, f.number, r.kernel, r.key, .queued⟩]
          pool := s.pool.submit s.submitted }
        ((f.collision r).map (.collided · r.key) ++ [.scheduled f.number s.submitted r.key])
  /-- A record shares a task. -/
  | shares {r : Record C} {rest : List (Record C)}
      (h_stage : f.stage = .requesting (r :: rest)) (h_known : s.store.slot? r.key ≠ none)
      (h_answer : (s.store.request r.key f.number).1 = .shared) :
      CallerStep cfg env s f
        { s with
          store := (s.store.request r.key f.number).2
          current := some (f.requested r rest .shared) }
        ((f.collision r).map (.collided · r.key) ++ [.shared f.number r.key])
  /-- A record reuses an artifact. -/
  | reuses {r : Record C} {rest : List (Record C)}
      (h_stage : f.stage = .requesting (r :: rest)) (h_known : s.store.slot? r.key ≠ none)
      (h_answer : (s.store.request r.key f.number).1 = .reused) :
      CallerStep cfg env s f
        { s with
          store := (s.store.request r.key f.number).2
          current := some (f.requested r rest .reused) }
        ((f.collision r).map (.collided · r.key) ++ [.reused f.number r.key])
  /-- The clock cannot represent the deadline of the wait for the compile jobs. -/
  | unwinds (h_stage : f.stage = .requesting [])
      (h_deadline : cfg.compilePatience.deadline? s.now = none) :
      CallerStep cfg env s f { s with current := none } [.unwound overflowMessage]
  /-- The wait for the compile jobs begins. -/
  | beginsJoin {deadline : Moment} (h_stage : f.stage = .requesting [])
      (h_deadline : cfg.compilePatience.deadline? s.now = some deadline) :
      CallerStep cfg env s f { s with current := some (f.joinFrom cfg s.now deadline) } []
  /-- A record becomes a launch job. -/
  | submits {key : TaskId} {rest : List TaskId} {r : Record C} {backlog : List (Record C)}
      (h_stage : f.stage = .submitting (key :: rest)) (h_backlog : s.backlog = r :: backlog) :
      CallerStep cfg env s f
        { s with
          backlog := backlog
          lane := s.lane ++ [f.launchJob cfg r key rest]
          current := some { f with stage := .submitting rest } }
        []
  /-- There is a task to submit and no record for it. -/
  | submitsNothing {key : TaskId} {rest : List TaskId}
      (h_stage : f.stage = .submitting (key :: rest)) (h_backlog : s.backlog = []) :
      CallerStep cfg env s f { s with current := some { f with stage := .submitting [] } } []
  /-- A pipelined flush has submitted all its launch jobs. -/
  | joins (h_stage : f.stage = .submitting []) (h_pipelined : cfg.pipelined = true) :
      CallerStep cfg env s f { s with current := some { f with stage := .joining } } []
  /-- A flush in two phases has submitted all its launch jobs. -/
  | drains (h_stage : f.stage = .submitting []) (h_pipelined : cfg.pipelined = false) :
      CallerStep cfg env s f { s with current := some { f with stage := .draining } }
        [joinedEvent s f]
  /-- A poll for the outcome of a compile job shows something. -/
  | polls {found : Polled} {inbox : List Outcome} (h_stage : f.stage = .joining)
      (h_over : f.join.isOver = false)
      (h_poll : Polled.poll f.inbox (s.hasReporter f.number) f.joinStart f.joinDeadline s.now
        = some (found, inbox)) :
      CallerStep cfg env s f
        { s with
          store := storeAfter s.store found
          current := some { f with inbox := inbox, join := f.join.note found } }
        [.polled f.number found (f.join.note found)]
  /-- A pipelined flush has waited for its compile jobs. -/
  | drainsJoined (h_stage : f.stage = .joining) (h_over : f.join.isOver = true)
      (h_pipelined : cfg.pipelined = true) :
      CallerStep cfg env s f { s with current := some { f with stage := .draining } }
        [joinedEvent s f]
  /-- A compilation has failed, and nothing of the flush runs. -/
  | abandons {first : Failure} {rest : List Failure} (h_stage : f.stage = .joining)
      (h_over : f.join.isOver = true) (h_pipelined : cfg.pipelined = false)
      (h_onFailure : cfg.onFailure = .abandonFlush)
      (h_failures : f.join.failures = first :: rest) :
      CallerStep cfg env s f (closed cfg env s f)
        [.abandoned f.number (rest.length + 1), endedEvent cfg env s f,
          .returned (.error (.unfinished f.report.records f.report.records first))]
  /-- A flush in two phases has waited for its compile jobs. -/
  | submitsJoined (h_stage : f.stage = .joining) (h_over : f.join.isOver = true)
      (h_pipelined : cfg.pipelined = false)
      (h_goesOn : cfg.onFailure = .runOthers ∨ f.join.failures = []) :
      CallerStep cfg env s f { s with current := some { f with stage := .submitting f.keys } } []
  /-- Every record has run. -/
  | succeeds {report : Report} (h_stage : f.stage = .draining) (h_lane : s.lane = [])
      (h_result : result f = .ok report) :
      CallerStep cfg env s f (closed cfg env s f)
        [endedEvent cfg env s f, .returned (.ok report)]
  /-- Something has failed. -/
  | fails {failure : Failure} (h_stage : f.stage = .draining) (h_lane : s.lane = [])
      (h_result : result f = .error failure) :
      CallerStep cfg env s f (closed cfg env s f)
        [.unfinished f.number (recordFailures f).length f.report.records,
          endedEvent cfg env s f, .returned (.error failure)]

/-! ## The compile workers -/

/-- Where a compile job stands after its code generator has come to a result, whether that was
good, and the panic, if that is what it was. -/
def afterCodegen (call : CodegenCall) : Generated C → CompilePhase C × Bool × Option Panic
  | .code code => (.generated (.ok ⟨call, code⟩), true, none)
  | .failed cause => (.generated (.error cause), false, none)
  | .lost _ => (.lost, false, none)
  | .lostPanicking cause => (.lost, false, some cause)
  | .panicked cause =>
    (.generated (.error (.other ("codegen panicked: " ++ cause.message))), false, some cause)

/-- What a compile job puts into its slot. -/
def jobContent (job : CompileJob C) : Except Failure (Artifact C) → Slot (Artifact C)
  | .ok artifact => .ready artifact
  | .error cause => .failed (compileFailure job cause).message

/-- What a compile job reports. -/
def jobOutcome (job : CompileJob C) : Except Failure (Artifact C) → Outcome
  | .ok _ => .ok ()
  | .error cause => .error (compileFailure job cause)

/-- The moves of a compile worker with its job. -/
inductive WorkerStep (cfg : Settings) (env : Environment C) (s : State C) (worker : Nat)
    (job : CompileJob C) : State C → List (Event C) → Prop where
  /-- It calls the code generator. -/
  | starts {call : CodegenCall} (h_phase : job.phase = .queued)
      (h_call : call = .next s.calls job.kernel job.key.text) :
      WorkerStep cfg env s worker job
        { s.setPhase job.id (.generating call (env.codegen s.calls call) s.now) with
          calls := call :: s.calls }
        [.codegenCalled job.flush worker job.key call]
  /-- The code generator comes to its result. -/
  | generates {call : CodegenCall} {result : Generated C} {since : Moment}
      (h_phase : job.phase = .generating call result since)
      (h_survives : ∀ cause, result.attempt.panic? = some cause → cfg.onPanic ≠ .abort) :
      WorkerStep cfg env s worker job
        (s.setPhase job.id (afterCodegen call result).1)
        [.codegenEnded job.flush job.key (s.now - since) (afterCodegen call result).2.1
          (afterCodegen call result).2.2]
  /-- The code generator panics, and that ends the process. -/
  | aborts {call : CodegenCall} {result : Generated C} {cause : Panic} {since : Moment}
      (h_phase : job.phase = .generating call result since)
      (h_panic : result.attempt.panic? = some cause) (h_onPanic : cfg.onPanic = .abort) :
      WorkerStep cfg env s worker job { s with aborted := true }
        [.aborted .compile "codegen" cause]
  /-- It settles its slot. -/
  | settles {result : Except Failure (Artifact C)} (h_phase : job.phase = .generated result) :
      WorkerStep cfg env s worker job
        { s.setPhase job.id (.settled (jobOutcome job result)) with
          store := (s.store.settle job.key (jobContent job result)).2 }
        [.slotSettled job.flush job.id job.key (jobContent job result)
          (s.store.settle job.key (jobContent job result)).1]
  /-- It reports its outcome and is done. -/
  | reports {outcome : Outcome} (h_phase : job.phase = .settled outcome) :
      WorkerStep cfg env s worker job (finishJob (report s job outcome) worker job false)
        [.jobReported job.flush job.id outcome]
  /-- The job is lost. -/
  | loses (h_phase : job.phase = .lost) :
      WorkerStep cfg env s worker job (finishJob s worker job true)
        [.compileJobLost job.flush job.id worker]

/-! ## The launch thread -/

/-- What a launch job that gets no artifact fails with, if it has waited from `since` to
`now`. -/
def missFailure (job : LaunchJob C) (since now : Moment) :
    Option (Slot (Artifact C)) → Failure
  | some (.failed message) => dispatchFailure job ("artifact unavailable: " ++ message)
  | none => dispatchFailure job "no compilation was scheduled"
  -- Of the slots only a pending one is left here.
  | _ => .dispatchOverdue job.record.kernel job.key.digest (.ofNanos (now - since))

/-- The flush in progress has received the outcome of a launch job. -/
def posted (current : Option (Flush C)) (job : LaunchJob C) (outcome : Outcome) :
    Option (Flush C) :=
  current.map fun f =>
    if f.number == job.flush then { f with posted := f.posted ++ [(job.seq, outcome)] } else f

/-- The moves of the launch thread with the first launch job; the jobs `rest` come after it. -/
inductive LauncherStep (cfg : Settings) (env : Environment C) (s : State C) (job : LaunchJob C)
    (rest : List (LaunchJob C)) : State C → List (Event C) → Prop where
  /-- It begins to wait. -/
  | waits {deadline : Moment} (h_phase : job.phase = .queued)
      (h_deadline : cfg.dispatchPatience.deadline? s.now = some deadline) :
      LauncherStep cfg env s job rest
        { s with lane :=
            { job with phase := .waiting s.now (Nat.max (job.artifactsDue.getD 0) deadline) }
              :: rest }
        []
  /-- The clock cannot represent the deadline of its wait. -/
  | overflows (h_phase : job.phase = .queued)
      (h_deadline : cfg.dispatchPatience.deadline? s.now = none) :
      LauncherStep cfg env s job rest { s with lane := rest } [.launchJobLost job.flush job.seq]
  /-- It finds its artifact. -/
  | finds {since deadline : Moment} {artifact : Artifact C}
      (h_phase : job.phase = .waiting since deadline)
      (h_slot : s.store.slot? job.key = some (.ready artifact)) :
      LauncherStep cfg env s job rest
        { s with lane := { job with phase := .holding since artifact } :: rest }
        [.recordStarted job.flush job.seq job.key]
  /-- It finds that there will be no artifact, or it has waited long enough. -/
  | misses {since deadline : Moment} (h_phase : job.phase = .waiting since deadline)
      (h_slot : ∀ artifact, s.store.slot? job.key ≠ some (.ready artifact))
      (h_late : s.store.slot? job.key = some .pending → deadline ≤ s.now)
      (h_told : env.mute job.flush job.seq = false) :
      LauncherStep cfg env s job rest
        { s with
          lane := rest
          current := posted s.current job
            (.error (missFailure job since s.now (s.store.slot? job.key))) }
        [.recordEnded job.flush job.seq job.key (s.now - since)
          (.error (missFailure job since s.now (s.store.slot? job.key)))]
  /-- It finds that there will be no artifact, and it is lost before it can report that. -/
  | mutes {since deadline : Moment} (h_phase : job.phase = .waiting since deadline)
      (h_slot : ∀ artifact, s.store.slot? job.key ≠ some (.ready artifact))
      (h_settled : s.store.slot? job.key ≠ some .pending)
      (h_mute : env.mute job.flush job.seq = true) :
      LauncherStep cfg env s job rest { s with lane := rest } [.launchJobLost job.flush job.seq]
  /-- It has waited long enough, and it is lost before it can report that. -/
  | expires {since deadline : Moment} (h_phase : job.phase = .waiting since deadline)
      (h_slot : s.store.slot? job.key = some .pending) (h_late : deadline ≤ s.now)
      (h_mute : env.mute job.flush job.seq = true) :
      LauncherStep cfg env s job rest { s with lane := rest }
        [.launchJobExpired job.flush job.seq, .launchJobLost job.flush job.seq]
  /-- It runs its artifact, and that returns. -/
  | completes {since : Moment} {artifact : Artifact C} {context : C}
      (h_phase : job.phase = .holding since artifact)
      (h_result : artifact.code s.runs job.record.context = .completed context) :
      LauncherStep cfg env s job rest
        { s with
          runs := s.runs + 1
          lane := rest
          current := posted s.current job (.ok ()) }
        [.ran job.flush job.seq job.record artifact (.completed context),
          .recordEnded job.flush job.seq job.key (s.now - since) (.ok ())]
  /-- It runs its artifact, and that panics. -/
  | panics {since : Moment} {artifact : Artifact C} {cause : Panic} {failure : Failure}
      (h_phase : job.phase = .holding since artifact)
      (h_result : artifact.code s.runs job.record.context = .panicked cause)
      (h_onPanic : cfg.onPanic ≠ .abort)
      (h_failure : failure = dispatchFailure job ("artifact panicked: " ++ cause.message)) :
      LauncherStep cfg env s job rest
        { s with
          runs := s.runs + 1
          lane := rest
          current := posted s.current job (.error failure) }
        [.ran job.flush job.seq job.record artifact (.panicked cause),
          .recordEnded job.flush job.seq job.key (s.now - since) (.error failure)]
  /-- It runs its artifact, and that panics; the job cannot report it. -/
  | loses {since : Moment} {artifact : Artifact C} {cause : Panic}
      (h_phase : job.phase = .holding since artifact)
      (h_result : artifact.code s.runs job.record.context = .lost cause)
      (h_onPanic : cfg.onPanic ≠ .abort) :
      LauncherStep cfg env s job rest
        { s with
          runs := s.runs + 1
          lane := rest }
        [.ran job.flush job.seq job.record artifact (.lost cause),
          .launchJobLost job.flush job.seq]
  /-- It runs its artifact; that panics and ends the process. -/
  | aborts {since : Moment} {artifact : Artifact C} {cause : Panic}
      (h_phase : job.phase = .holding since artifact)
      (h_result : artifact.code s.runs job.record.context = .panicked cause ∨
        artifact.code s.runs job.record.context = .lost cause)
      (h_onPanic : cfg.onPanic = .abort) :
      LauncherStep cfg env s job rest
        { s with
          runs := s.runs + 1
          aborted := true }
        [.aborted .launch "artifact" cause]

/-! ## All moves -/

/-- Everything a move can do. -/
inductive Transition (cfg : Settings) (env : Environment C) (s : State C) :
    Move C → State C → List (Event C) → Prop where
  | enqueue {r : Record C} (h_idle : s.current = none) :
      Transition cfg env s (.enqueue r) { s with backlog := s.backlog ++ [r] } []
  | dropArtifacts (h_idle : s.current = none) :
      Transition cfg env s .dropArtifacts { s with store := ∅ } []
  /-- A flush of nothing. -/
  | returns (h_idle : s.current = none) (h_empty : s.backlog = []) :
      Transition cfg env s .flush s [.returned (.ok {})]
  | begins (h_idle : s.current = none) (h_some : s.backlog ≠ []) :
      Transition cfg env s .flush
        { s with
          flushes := s.flushes + 1
          current := some s.firstFlush }
        [.began (s.flushes + 1) s.backlog]
  | caller {f : Flush C} {s' : State C} {es : List (Event C)} (h_current : s.current = some f)
      (h_step : CallerStep cfg env s f s' es) :
      Transition cfg env s .caller s' es
  | pick {take : PoolMove Nat} {pool : WorkerPool Nat} (h_pick : s.pool.step take = some pool)
      (h_take : take matches .takeOwn _ | .takeShared .. | .steal ..) :
      Transition cfg env s (.pick take) { s with pool := pool } []
  | worker {index id : Nat} {job : CompileJob C} {s' : State C} {es : List (Event C)}
      (h_running : s.pool.runningAt? index = some id) (h_job : s.job? id = some job)
      (h_step : WorkerStep cfg env s index job s' es) :
      Transition cfg env s (.worker index) s' es
  | launcher {job : LaunchJob C} {rest : List (LaunchJob C)} {s' : State C}
      {es : List (Event C)} (h_lane : s.lane = job :: rest)
      (h_step : LauncherStep cfg env s job rest s' es) :
      Transition cfg env s .launcher s' es
  | tick {nanos : Nat} :
      Transition cfg env s (.tick nanos) { s with now := s.now + nanos } []

end State

end KernelDispatch
