/-
  KernelDispatch.Flush.Step

  The moves of a dispatcher.

  Three kinds of threads move: the caller, the compile workers and the launch
  thread. Each goes through its own sequence of atomic moves, and they interleave
  in any order; `Move` says whose move it is, `State.step` what it does and which
  events it emits. A move that is not possible yet gives `none`. Besides, time
  passes by moves of the clock, and between flushes the caller enqueues records,
  empties the store and calls `flush`.
-/
import KernelDispatch.Flush.Event

namespace KernelDispatch

/-- Whose move it is. -/
inductive Move (C : Type) where
  /-- The caller enqueues a record. -/
  | enqueue (record : Record C)
  /-- The caller empties the artifact store. -/
  | dropArtifacts
  /-- The caller calls `flush`. -/
  | flush
  /-- The caller goes on with the flush. -/
  | caller
  /-- A compile worker gets a job. -/
  | pick (take : PoolMove Nat)
  /-- A compile worker goes on with its job. -/
  | worker (index : Nat)
  /-- The launch thread goes on. -/
  | launcher
  /-- Time passes. -/
  | tick (nanos : Nat)

namespace State

variable {C : Type}

/-- A state with what led to it. -/
abbrev Moved (C : Type) := Option (State C × List (Event C))

/-! ## The caller -/

/-- Requests the task of one record: counts a collision, submits a compile job if the task is
new, and otherwise counts what the record shares. -/
def requestOne (s : State C) (f : Flush C) (r : Record C) (rest : List (Record C)) :
    State C × List (Event C) :=
  let key := TaskId.ofText r.task
  let (met, sightings) := f.sightings.meet key
  let collision := met.toList.map fun first => Event.collided first key
  let (answer, store) := s.store.request key f.number
  let f :=
    { f with
      stage := .requesting rest
      sightings := sightings
      keys := f.keys ++ [key]
      report := { f.report with collisions := f.report.collisions + met.toList.length } }
  match answer with
  | .scheduled =>
    let f := { f with report := { f.report with compiled := f.report.compiled + 1 } }
    let job : CompileJob C := ⟨s.submitted, f.number, r.kernel, key, .queued⟩
    ({ s with
        store := store
        current := some f
        submitted := s.submitted + 1
        jobs := s.jobs ++ [job]
        pool := s.pool.submit s.submitted },
      collision ++ [.scheduled f.number s.submitted key])
  | .shared =>
    let f := { f with report := { f.report with shares := f.report.shares + 1 } }
    ({ s with store := store, current := some f }, collision ++ [.shared f.number key])
  | .reused =>
    let f := { f with report := { f.report with reuses := f.report.reuses + 1 } }
    ({ s with store := store, current := some f }, collision ++ [.reused f.number key])

/-- What a caller panics with whose deadline the clock cannot represent. -/
def overflowMessage : String :=
  "overflow when adding duration to instant"

/-- All tasks have been requested: the wait for the compile jobs begins. A deadline that
the clock cannot represent makes the caller panic; the records stay enqueued. -/
def beginJoin (cfg : Settings) (s : State C) (f : Flush C) : State C × List (Event C) :=
  match cfg.compilePatience.deadline? s.now with
  | none => ({ s with current := none }, [.unwound overflowMessage])
  | some deadline =>
    let f :=
      { f with
        joinStart := s.now
        joinDeadline := deadline
        join := { expected := f.report.compiled }
        stage := if cfg.pipelined then .submitting f.keys else .joining }
    ({ s with current := some f }, [])

/-- Submits the launch job of one record, the first one that is enqueued. -/
def submitOne (cfg : Settings) (s : State C) (f : Flush C) (key : TaskId)
    (rest : List TaskId) : State C × List (Event C) :=
  match s.backlog with
  | [] => ({ s with current := some { f with stage := .submitting [] } }, [])
  | r :: backlog =>
    let job : LaunchJob C :=
      { flush := f.number
        -- The tasks that are left tell which record is next.
        seq := f.keys.length - (rest.length + 1)
        record := r
        key := key
        artifactsDue := if cfg.pipelined then some f.joinDeadline else none }
    ({ s with
        backlog := backlog
        lane := s.lane ++ [job]
        current := some { f with stage := .submitting rest } }, [])

/-- The event of a flush that has both waited for its compile jobs and submitted its launch
jobs. -/
def joinedEvent (s : State C) (f : Flush C) : Event C :=
  .joined f.number f.report.compiled (s.now - f.joinStart)

/-- Ends a flush with a result: nothing stays enqueued, and the store keeps what the retention
allows. -/
def closeFlush (cfg : Settings) (env : Environment C) (s : State C) (f : Flush C)
    (result : Except Failure Report) : State C × List (Event C) :=
  let (released, store) := s.store.retain cfg.retention (env.rank f.number)
  ({ s with backlog := [], store := store, current := none },
    [.ended f.number released, .returned result])

/-- The failures of launch jobs, in the order in which they came. -/
def recordFailures (f : Flush C) : List Failure :=
  f.posted.filterMap fun p => Join.failure? p.2

/-- The result of a flush whose launch jobs are done. The first failure of a compile job is named
before any failure of a launch job. -/
def result (f : Flush C) : Except Failure Report :=
  match f.join.failures ++ recordFailures f with
  | [] => .ok f.report
  | first :: _ => .error (.unfinished (recordFailures f).length f.report.records first)

/-- The launch jobs are done: the flush ends. -/
def conclude (cfg : Settings) (env : Environment C) (s : State C) (f : Flush C) :
    State C × List (Event C) :=
  let (s', es) := closeFlush cfg env s f (result f)
  match result f with
  | .ok _ => (s', es)
  | .error _ =>
    (s', .unfinished f.number (recordFailures f).length f.report.records :: es)

/-- The wait for the compile jobs is over. A pipelined flush has submitted its launch jobs
already; any other submits them now, unless a compilation has failed and the settings say to
abandon the flush. -/
def afterJoin (cfg : Settings) (env : Environment C) (s : State C) (f : Flush C) :
    State C × List (Event C) :=
  if cfg.pipelined then
    ({ s with current := some { f with stage := .draining } }, [joinedEvent s f])
  else
    match cfg.onFailure, f.join.failures with
    | .abandonFlush, first :: rest =>
      let total := f.report.records
      let (s', es) := closeFlush cfg env s f (.error (.unfinished total total first))
      (s', .abandoned f.number (rest.length + 1) :: es)
    | _, _ => ({ s with current := some { f with stage := .submitting f.keys } }, [])

/-- The store after a poll: a flush that gives up fails the slots that are still pending. -/
def storeAfter (store : ArtifactStore (Artifact C)) (found : Polled) : ArtifactStore (Artifact C) :=
  match found.slotMessage? with
  | some message => (store.rejectPending message).2
  | none => store

/-- The wait for the compile jobs goes on: an outcome is received, or the flush gives up, or the
caller has to go on waiting. -/
def joinOne (s : State C) (f : Flush C) : Moved C :=
  match Polled.poll f.inbox (s.hasReporter f.number) f.joinStart f.joinDeadline s.now with
  | none => none
  | some (found, inbox) =>
    let join := f.join.note found
    some ({ s with
        store := storeAfter s.store found
        current := some { f with inbox := inbox, join := join } },
      [.polled f.number found join])

/-- The caller goes on with its flush. -/
def callerMove (cfg : Settings) (env : Environment C) (s : State C) : Moved C :=
  match s.current with
  | none => none
  | some f =>
    match f.stage with
    | .requesting (r :: rest) => some (requestOne s f r rest)
    | .requesting [] => some (beginJoin cfg s f)
    | .submitting (key :: rest) => some (submitOne cfg s f key rest)
    | .submitting [] =>
      if cfg.pipelined then some ({ s with current := some { f with stage := .joining } }, [])
      else some ({ s with current := some { f with stage := .draining } }, [joinedEvent s f])
    | .joining => if f.join.isOver then some (afterJoin cfg env s f) else joinOne s f
    | .draining => if s.lane.isEmpty then some (conclude cfg env s f) else none

/-- The caller begins a flush of everything that is enqueued; if that is nothing, it returns at
once. -/
def beginFlush (s : State C) : State C × List (Event C) :=
  match s.backlog with
  | [] => (s, [.returned (.ok {})])
  | backlog =>
    let number := s.flushes + 1
    let f : Flush C :=
      { number := number
        batch := backlog
        stage := .requesting backlog
        report := { flush := number, records := backlog.length } }
    ({ s with flushes := number, current := some f }, [.began number backlog])

/-! ## The compile workers -/

/-- A worker gets a job, in one of the ways in which the pool hands jobs out. -/
def pickMove (s : State C) (take : PoolMove Nat) : Moved C :=
  match take with
  | .takeOwn _ | .takeShared .. | .steal .. =>
    (s.pool.step take).map fun pool => ({ s with pool := pool }, [])
  | _ => none

/-- A worker has done with a job. -/
def finishJob (s : State C) (worker : Nat) (job : CompileJob C) (panicked : Bool) : State C :=
  { s.dropJob job.id with pool := s.pool.complete worker panicked }

/-- A worker starts a compile job: it calls the code generator. -/
def startJob (env : Environment C) (s : State C) (worker : Nat) (job : CompileJob C) :
    State C × List (Event C) :=
  let call := CodegenCall.next s.calls job.kernel job.key.text
  let result := env.codegen s.calls call
  ({ s.setPhase job.id (.generating call result s.now) with calls := call :: s.calls },
    [.codegenCalled job.flush worker job.key call])

/-- The code generator comes to its result. A panic ends the process or becomes a failure. -/
def endCodegen (cfg : Settings) (s : State C) (job : CompileJob C) (call : CodegenCall)
    (result : Generated C) (since : Moment) : State C × List (Event C) :=
  let ends (phase : CompilePhase C) (ok : Bool) :=
    (s.setPhase job.id phase,
      [Event.codegenEnded job.flush job.key (s.now - since) ok result.attempt.panic?])
  -- A job that is lost has nothing to settle its slot with.
  let fails (cause : Failure) :=
    ends (if result.isLost then .lost else .generated (.error cause)) false
  match (cfg.panicGuard.contain "codegen" result.attempt).1 with
  | .value (.ok code) => ends (.generated (.ok ⟨call, code⟩)) true
  | .value (.error cause) => fails cause
  | .report message => fails (.other ("codegen panicked: " ++ message))
  | .aborted =>
    ({ s with aborted := true }, result.attempt.panic?.toList.map (.aborted .compile "codegen"))

/-- The failure of a compile job; the wording of its cause becomes its message. -/
def compileFailure (job : CompileJob C) (cause : Failure) : Failure :=
  .compilation job.kernel job.key.headline job.key.digest cause.message

/-- A compile job settles its slot, unless that has settled or gone. -/
def settleJob (s : State C) (job : CompileJob C) (result : Except Failure (Artifact C)) :
    State C × List (Event C) :=
  match result with
  | .ok artifact =>
    let (changed, store) := s.store.publish job.key artifact
    ({ s.setPhase job.id (.settled (.ok ())) with store := store },
      [.slotSettled job.flush job.id job.key (.ready artifact) changed])
  | .error cause =>
    let failure := compileFailure job cause
    let (changed, store) := s.store.fail job.key failure.message
    ({ s.setPhase job.id (.settled (.error failure)) with store := store },
      [.slotSettled job.flush job.id job.key (.failed failure.message) changed])

/-- A compile job reports to its flush. -/
def report (s : State C) (job : CompileJob C) (outcome : Outcome) : State C :=
  s.updateFlush job.flush fun f => { f with inbox := f.inbox ++ [outcome] }

/-- A worker goes on with its compile job. -/
def workerMove (cfg : Settings) (env : Environment C) (s : State C) (worker : Nat) : Moved C :=
  match (s.pool.runningAt? worker).bind s.job? with
  | none => none
  | some job =>
    match job.phase with
    | .queued => some (startJob env s worker job)
    | .generating call result since => some (endCodegen cfg s job call result since)
    | .generated result => some (settleJob s job result)
    | .settled outcome =>
      some (finishJob (report s job outcome) worker job false,
        [.jobReported job.flush job.id outcome])
    | .lost => some (finishJob s worker job true, [.compileJobLost job.flush job.id worker])

/-! ## The launch thread -/

/-- The first launch job gets another phase. -/
def holdFirst (s : State C) (job : LaunchJob C) (phase : LaunchPhase C) : State C :=
  { s with lane := { job with phase := phase } :: s.lane.tail }

/-- The first launch job is lost without an outcome. -/
def loseFirst (s : State C) (job : LaunchJob C) : State C × List (Event C) :=
  ({ s with lane := s.lane.tail }, [.launchJobLost job.flush job.seq])

/-- The first launch job has come to an outcome. -/
def endFirst (s : State C) (job : LaunchJob C) (since : Moment) (outcome : Outcome) :
    State C × List (Event C) :=
  let s' := { s with lane := s.lane.tail }
  (s'.updateFlush job.flush fun f => { f with posted := f.posted ++ [(job.seq, outcome)] },
    [.recordEnded job.flush job.seq job.key (s.now - since) outcome])

/-- The failure of a record that has no artifact. -/
def dispatchFailure (job : LaunchJob C) (message : String) : Failure :=
  .dispatch job.record.kernel job.key.digest message

/-- A launch job begins to wait for its artifact. A deadline that the clock cannot represent loses
the job. -/
def beginWait (cfg : Settings) (s : State C) (job : LaunchJob C) : State C × List (Event C) :=
  match cfg.dispatchPatience.deadline? s.now with
  | none => loseFirst s job
  | some deadline =>
    -- In a pipelined flush the task may take as long as the flush waits for it.
    let deadline := Nat.max (job.artifactsDue.getD 0) deadline
    (holdFirst s job (.waiting s.now deadline), [])

/-- The first launch job gets no artifact. It is lost if it cannot name the kernel of its record
for the failure. -/
def failFirst (env : Environment C) (s : State C) (job : LaunchJob C) (since : Moment)
    (failure : Failure) : State C × List (Event C) :=
  if env.mute job.flush job.seq then
    let (s', es) := loseFirst s job
    match failure with
    | .dispatchOverdue .. => (s', .launchJobExpired job.flush job.seq :: es)
    | _ => (s', es)
  else endFirst s job since (.error failure)

/-- A launch job looks at its slot. -/
def seekArtifact (env : Environment C) (s : State C) (job : LaunchJob C)
    (since deadline : Moment) : Moved C :=
  match s.store.examine job.key (deadline ≤ s.now) with
  | none => none
  | some (.ready artifact) =>
    some (holdFirst s job (.holding since artifact),
      [.recordStarted job.flush job.seq job.key])
  | some (.failed message) =>
    some (failFirst env s job since (dispatchFailure job ("artifact unavailable: " ++ message)))
  | some .missing =>
    some (failFirst env s job since (dispatchFailure job "no compilation was scheduled"))
  | some .tooLate =>
    some (failFirst env s job since
      (.dispatchOverdue job.record.kernel job.key.digest (Span.ofNanos (s.now - since))))

/-- A launch job runs its artifact on its record's context. -/
def runFirst (cfg : Settings) (s : State C) (job : LaunchJob C) (since : Moment)
    (artifact : Artifact C) : State C × List (Event C) :=
  let result := artifact.code s.runs job.record.context
  let s := { s with runs := s.runs + 1 }
  let ends (after : State C × List (Event C)) :=
    (after.1, .ran job.flush job.seq job.record artifact result :: after.2)
  match (cfg.panicGuard.contain "artifact" result.attempt).1 with
  | .value _ => ends (endFirst s job since (.ok ()))
  | .report message =>
    ends (if result.isLost then loseFirst s job
      else endFirst s job since
        (.error (dispatchFailure job ("artifact panicked: " ++ message))))
  | .aborted =>
    ({ s with aborted := true }, result.attempt.panic?.toList.map (.aborted .launch "artifact"))

/-- The launch thread goes on. -/
def launcherMove (cfg : Settings) (env : Environment C) (s : State C) : Moved C :=
  match s.lane with
  | [] => none
  | job :: _ =>
    match job.phase with
    | .queued => some (beginWait cfg s job)
    | .waiting since deadline => seekArtifact env s job since deadline
    | .holding since artifact => some (runFirst cfg s job since artifact)

/-! ## Moves and runs -/

/-- The state after a move, with the events of the move. -/
def move (cfg : Settings) (env : Environment C) (s : State C) : Move C → Moved C
  | .enqueue r =>
    if s.current.isNone then some ({ s with backlog := s.backlog ++ [r] }, []) else none
  | .dropArtifacts => if s.current.isNone then some ({ s with store := ∅ }, []) else none
  | .flush => if s.current.isNone then some (beginFlush s) else none
  | .caller => callerMove cfg env s
  | .pick take => pickMove s take
  | .worker i => workerMove cfg env s i
  | .launcher => launcherMove cfg env s
  | .tick nanos => some ({ s with now := s.now + nanos }, [])

/-- The state after a move, with its events and their moment; `none` if the move is not possible.
Nothing moves after the process has ended. -/
def step (cfg : Settings) (env : Environment C) (s : State C) (m : Move C) :
    Option (State C × List (Stamped C)) :=
  if s.aborted then none
  else (move cfg env s m).map fun (s', es) => (s', es.map fun e => (s.now, e))

/-- The state after a sequence of moves, with all events; `none` if one of them is not
possible. -/
def run (cfg : Settings) (env : Environment C) (s : State C) :
    List (Move C) → Option (State C × List (Stamped C))
  | [] => some (s, [])
  | m :: ms => do
    let (s, es) ← step cfg env s m
    let (s, fs) ← run cfg env s ms
    some (s, es ++ fs)

end State

end KernelDispatch
