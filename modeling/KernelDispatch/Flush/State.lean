/-
  KernelDispatch.Flush.State

  The state of a dispatcher: the records enqueued, the artifact store, the compile
  jobs and their pool, the launch jobs, and the flush in progress.

  A flush goes through stages. It requests every record's task from the store and
  submits a compile job for each task that is new; it joins the compile jobs; it
  submits a launch job for every record; and it drains the launch jobs. A
  pipelined flush submits the launch jobs before it joins.
-/
import KernelDispatch.Artifact
import KernelDispatch.ArtifactStore.Basic
import KernelDispatch.Content.Sightings
import KernelDispatch.Flush.Join
import KernelDispatch.WorkerPool

namespace KernelDispatch

/-! ## Compile jobs -/

/-- Where a compile job stands. -/
inductive CompilePhase (C : Type) where
  /-- No worker has started it. -/
  | queued
  /-- The code generator has been called at the moment `since` and will come to this result. -/
  | generating (call : CodegenCall) (result : Generated C) (since : Moment)
  /-- The code generator has come to an artifact or to a failure. -/
  | generated (result : Except Failure (Artifact C))
  /-- It cannot report the failure of the code generator. -/
  | lost
  /-- It has settled its slot, if that was still to be settled. -/
  | settled (outcome : Outcome)

/-- A compile job: its number, the flush that submitted it, and the task with the kernel it was
first enqueued for. -/
structure CompileJob (C : Type) where
  id : Nat
  flush : Nat
  kernel : String
  key : TaskId
  phase : CompilePhase C := .queued

/-! ## Launch jobs -/

/-- Where a launch job stands. -/
inductive LaunchPhase (C : Type) where
  /-- The launch thread has not reached it. -/
  | queued
  /-- It waits for its artifact. -/
  | waiting (since deadline : Moment)
  /-- It is about to run its artifact. -/
  | holding (since : Moment) (artifact : Artifact C)

/-- A launch job: one record of a flush, with its place in the flush. `artifactsDue` is the moment
at which the tasks of a pipelined flush settle at the latest. -/
structure LaunchJob (C : Type) where
  flush : Nat
  seq : Nat
  record : Record C
  key : TaskId
  artifactsDue : Option Moment
  phase : LaunchPhase C := .queued

/-! ## Flushes -/

/-- What a flush did, in numbers. -/
structure Report where
  flush : Nat := 0
  records : Nat := 0
  compiled : Nat := 0
  reuses : Nat := 0
  shares : Nat := 0
  collisions : Nat := 0
  deriving DecidableEq

/-- How far the caller has got with a flush. -/
inductive Stage (C : Type) where
  /-- It requests tasks; these records are left. -/
  | requesting (rest : List (Record C))
  /-- It submits launch jobs; these tasks are left. -/
  | submitting (rest : List TaskId)
  /-- It waits for the compile jobs. -/
  | joining
  /-- It waits for the launch jobs. -/
  | draining

/-- A flush in progress. -/
structure Flush (C : Type) where
  number : Nat
  /-- The records of the flush, in the order in which they were enqueued. -/
  batch : List (Record C)
  stage : Stage C
  report : Report
  sightings : Sightings := {}
  /-- The tasks of the records, in order. -/
  keys : List TaskId := []
  /-- When the wait for the compile jobs began. -/
  joinStart : Moment := 0
  /-- When that wait ends at the latest. -/
  joinDeadline : Moment := 0
  join : Join := {}
  /-- Outcomes of compile jobs that the caller has not received yet. -/
  inbox : List Outcome := []
  /-- Outcomes of launch jobs, in the order in which they came. -/
  posted : List (Nat × Outcome) := []

/-! ## The dispatcher -/

/-- What the dispatcher is given from outside. -/
structure Environment (C : Type) where
  codegen : Codegen C
  /-- The order in which entries of equal age leave the store at the end of a flush. -/
  rank : Nat → TaskId → Nat := fun _ _ => 0
  /-- Whether a launch job, by its flush and its place there, is lost when it has no artifact and is
  to name the kernel of its record in a failure. -/
  mute : Nat → Nat → Bool := fun _ _ => false

/-- The state of a dispatcher. -/
structure State (C : Type) where
  now : Moment
  /-- The number of flushes begun. -/
  flushes : Nat := 0
  /-- The records that are enqueued, oldest first. -/
  backlog : List (Record C) := []
  store : ArtifactStore (Artifact C) := ∅
  /-- The calls of the code generator, newest first. -/
  calls : List CodegenCall := []
  /-- The number of artifact runs. -/
  runs : Nat := 0
  /-- The number of compile jobs submitted. -/
  submitted : Nat := 0
  /-- The compile jobs that have not finished, in the order of submission. -/
  jobs : List (CompileJob C) := []
  /-- Which worker has which of them. -/
  pool : WorkerPool Nat
  /-- The launch jobs that have not finished, in the order of submission. -/
  lane : List (LaunchJob C) := []
  /-- The flush in progress; none if the caller is not in a flush. -/
  current : Option (Flush C) := none
  /-- Whether a panic has ended the process. -/
  aborted : Bool := false

namespace State

variable {C : Type}

/-- A dispatcher with `threads` compile workers at the moment `now`. -/
def start (threads : Nat) (now : Moment) : State C where
  now := now
  pool := .ofThreads threads

/-- The compile job with a number. -/
def job? (s : State C) (id : Nat) : Option (CompileJob C) :=
  s.jobs.find? (·.id == id)

/-- Changes the phase of the compile job with a number. -/
def setPhase (s : State C) (id : Nat) (phase : CompilePhase C) : State C :=
  { s with jobs := s.jobs.map fun j => if j.id == id then { j with phase := phase } else j }

/-- Removes the compile job with a number. -/
def dropJob (s : State C) (id : Nat) : State C :=
  { s with jobs := s.jobs.filter (·.id != id) }

/-- Changes the flush in progress if it has the given number; the messages of a job whose flush
is over go nowhere. -/
def updateFlush (s : State C) (number : Nat) (f : Flush C → Flush C) : State C :=
  { s with current := s.current.map fun x => if x.number == number then f x else x }

/-- Whether a compile job of the flush can still report. -/
def hasReporter (s : State C) (flush : Nat) : Bool :=
  s.jobs.any (·.flush == flush)

end State

end KernelDispatch
