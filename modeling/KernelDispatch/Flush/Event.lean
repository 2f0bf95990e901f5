/-
  KernelDispatch.Flush.Event

  What a dispatcher does, as a history of events.

  Tallies, timelines and the log are three views of one history: an event says
  once what happened, and `Event.measurements`, `Event.recorderOp?` and
  `Event.notices` say what each view makes of it. No move of the dispatcher
  depends on a view.
-/
import KernelDispatch.Containment
import KernelDispatch.Flush.State
import KernelDispatch.Tallies
import KernelDispatch.Timeline.Recorder

namespace KernelDispatch

/-- Something a dispatcher does. -/
inductive Event (C : Type) where
  /-- A launched kernel has been taken apart into tasks. -/
  | lowered (kernel : String) (tasks : Nat)
  /-- A flush of these records begins. -/
  | began (flush : Nat) (batch : List (Record C))
  /-- A task collides with an earlier one of the flush. -/
  | collided (first second : TaskId)
  /-- A record's task is new: a compile job is submitted. -/
  | scheduled (flush job : Nat) (key : TaskId)
  /-- A record shares a task that is scheduled already. -/
  | shared (flush : Nat) (key : TaskId)
  /-- A record reuses an artifact of an earlier flush. -/
  | reused (flush : Nat) (key : TaskId)
  /-- A worker calls the code generator. -/
  | codegenCalled (flush worker : Nat) (key : TaskId) (call : CodegenCall)
  /-- The code generator has returned or panicked; the time is in nanoseconds. -/
  | codegenEnded (flush : Nat) (key : TaskId) (elapsed : Nat) (ok : Bool)
      (panic : Option Panic)
  /-- A compile job has tried to settle its slot with this content; `changed` if the slot was
  still pending. -/
  | slotSettled (flush job : Nat) (key : TaskId) (content : Slot (Artifact C)) (changed : Bool)
  /-- A compile job has reported its outcome. -/
  | jobReported (flush job : Nat) (outcome : Outcome)
  /-- A compile job is lost. -/
  | compileJobLost (flush job worker : Nat)
  /-- The flush has polled for the outcome of a compile job, and its wait stands like this. -/
  | polled (flush : Nat) (found : Polled) (join : Join)
  /-- The flush is abandoned before anything has run. -/
  | abandoned (flush failures : Nat)
  /-- The flush has waited for its compile jobs and submitted its launch jobs. -/
  | joined (flush tasks nanos : Nat)
  /-- A record has its artifact. -/
  | recordStarted (flush seq : Nat) (key : TaskId)
  /-- A record's artifact has run. -/
  | ran (flush seq : Nat) (record : Record C) (artifact : Artifact C) (result : Execution C)
  /-- A launch job has come to its outcome; the time is in nanoseconds. -/
  | recordEnded (flush seq : Nat) (key : TaskId) (waited : Nat) (outcome : Outcome)
  /-- A launch job has waited too long for its artifact, and it will be lost. -/
  | launchJobExpired (flush seq : Nat)
  /-- A launch job is lost. -/
  | launchJobLost (flush seq : Nat)
  /-- Some records of the flush did not run. -/
  | unfinished (flush missing total : Nat)
  /-- The flush is over, and entries have left the store. -/
  | ended (flush released : Nat)
  /-- `flush` returns. -/
  | returned (result : Except Failure Report)
  /-- `flush` panics. -/
  | unwound (message : String)
  /-- A panic in some work of a compile worker or of the launch thread ends the process. -/
  | aborted (role : Role) (what : String) (cause : Panic)

/-- An event with its moment. -/
abbrev Stamped (C : Type) := Moment × Event C

namespace Event

variable {C : Type}

/-- Whether an outcome is good. -/
def isOk : Outcome → Bool
  | .ok () => true
  | .error _ => false

/-! ## Tallies -/

/-- What the tallies make of an event. -/
def measurements : Event C → List Measurement
  | began .. => [.flush]
  | collided .. => [.collision]
  | shared .. => [.share]
  | reused .. => [.reuse]
  | codegenEnded _ _ elapsed ok none => [.compilation elapsed ok]
  | codegenEnded _ _ elapsed ok (some _) => [.panic, .compilation elapsed ok]
  -- The panic counts even if its job is lost before it can report.
  | ran _ _ _ _ (.panicked _) => [.panic]
  | ran _ _ _ _ (.lost _) => [.panic]
  | recordEnded _ _ _ waited outcome => [.dispatch waited (isOk outcome)]
  | _ => []

/-- The tallies after some events. -/
def tally (t : Tallies) (es : List (Stamped C)) : Tallies :=
  es.foldl (fun t e => t.noteAll e.2.measurements) t

/-! ## Timelines -/

/-- What a recorder makes of an event. -/
def recorderOp? : Event C → Option RecorderOp
  | began flush _ => some (.start flush)
  | codegenCalled flush _ key _ => some (.mark flush (.buildStarted key.digest))
  | codegenEnded flush key _ ok _ => some (.mark flush (.buildEnded key.digest ok))
  | recordStarted flush seq key => some (.mark flush (.recordStarted seq key.digest))
  | recordEnded flush seq key _ outcome =>
    some (.mark flush (.recordEnded seq key.digest (isOk outcome)))
  | ended .. => some .finish
  | _ => none

/-- The recorder after some events. -/
def observe (r : Recorder) (es : List (Stamped C)) : Recorder :=
  r.applyAll (es.filterMap fun e => e.2.recorderOp?.map fun op => (e.1, op))

/-! ## The log -/

/-- What the log makes of an event. -/
def notices (onPanic : OnPanic) : Event C → List (Role × Notice)
  | lowered kernel tasks => [(.caller, .lowered kernel tasks)]
  | began _ batch => [(.caller, .flushing batch.length)]
  | collided first second => [(.caller, .collision first second)]
  | codegenCalled _ _ key call => [(.compile, .codegen key.digest call.kernel)]
  | codegenEnded _ _ _ _ (some cause) =>
    (PanicGuard.notices onPanic "codegen" cause.message).map fun n => (.compile, n)
  | compileJobLost _ job worker => [(.compile, .compileJobPanicked job worker)]
  -- Jobs that are gone leave no line of their own: each has been logged when it was lost.
  | polled _ (.received (.error failure)) _ => [(.caller, .failed failure)]
  | polled _ (.expired _) join => (join.failures.getLast?.map fun f => (.caller, .failed f)).toList
  | abandoned flush failures => [(.caller, .flushAborted flush failures)]
  | joined _ tasks nanos => [(.caller, .compiled tasks nanos)]
  | ran _ _ _ _ (.panicked cause) =>
    (PanicGuard.notices onPanic "artifact" cause.message).map fun n => (.launch, n)
  | ran _ _ _ _ (.lost cause) =>
    (PanicGuard.notices onPanic "artifact" cause.message).map fun n => (.launch, n)
  | recordEnded _ seq _ _ (.error failure) => [(.launch, .skipped seq failure)]
  | launchJobLost _ seq => [(.launch, .launchJobPanicked seq)]
  | unfinished flush missing total => [(.caller, .unfinished flush missing total)]
  | ended flush released => [(.caller, .released flush released)]
  | aborted role what cause =>
    (PanicGuard.notices onPanic what cause.message).map fun n => (role, n)
  | _ => []

/-- The log of some events. -/
def journal (onPanic : OnPanic) (es : List (Stamped C)) : List (Role × Notice) :=
  es.flatMap fun e => e.2.notices onPanic

end Event

end KernelDispatch
