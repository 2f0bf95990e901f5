/-
  KernelDispatch.WorkerPool

  A pool of workers that share jobs by stealing.

  A submitted job enters the shared queue. A worker without a job takes one from
  the front of its own queue, or a batch from the front of the shared queue, or a
  batch from the front of another worker's queue; of a batch it runs the first
  job and keeps the others in order in its own queue. A worker that has run a
  job counts it, as executed and, if it panicked, as panicked too. Then it drops
  what a panic has carried and takes the job off the number of pending jobs; but a
  payload that panics itself when it is dropped ends the worker, and the job stays
  pending. The queue of a worker that has died is still there to be stolen from.
  After a shutdown each worker stops when it has no job in hand; jobs that were
  not taken stay pending for good.
-/
import KernelDispatch.JobEnd
import KernelDispatch.Steps
import KernelDispatch.Text.Shown

namespace KernelDispatch

/-- Where a worker stands. -/
inductive WorkerPhase (J : Type) where
  /-- It has no job in hand. -/
  | idle
  /-- It runs a job. -/
  | running (job : J)
  /-- Its job has ended; the counters do not know yet. -/
  | ended (how : JobEnd)
  /-- Its job is counted and still pending. -/
  | counted
  /-- It has stopped. -/
  | stopped
  /-- The payload of a panic has ended it; its job is counted and stays pending. -/
  | died
  deriving DecidableEq

/-- A worker with its own queue and its counters. -/
structure Worker (J : Type) where
  queue : List J := []
  phase : WorkerPhase J := .idle
  executed : Nat := 0
  panicked : Nat := 0
  stolen : Nat := 0
  deriving DecidableEq

namespace Worker

variable {J : Type}

/-- The job that a worker runs. -/
def job? (w : Worker J) : Option J :=
  match w.phase with
  | .running j => some j
  | _ => none

/-- Whether a worker has no job in hand and has not stopped. -/
def isIdle (w : Worker J) : Bool :=
  match w.phase with
  | .idle => true
  | _ => false

/-- Whether the payload of a panic has ended a worker. -/
def hasDied (w : Worker J) : Bool :=
  match w.phase with
  | .died => true
  | _ => false

end Worker

/-- A job that has ended, with the worker that ran it. -/
structure EndedJob (J : Type) where
  job : J
  worker : Nat
  how : JobEnd
  deriving DecidableEq

/-- Whether a job that has ended panicked. -/
def EndedJob.panicked {J : Type} (e : EndedJob J) : Bool :=
  e.how.isPanic

/-- A pool of workers. -/
structure WorkerPool (J : Type) where
  /-- Submitted jobs that no worker has taken, oldest first. -/
  shared : List J := []
  workers : List (Worker J)
  pending : Nat := 0
  stopping : Bool := false
  /-- The jobs that have ended, in the order in which they did. -/
  ended : List (EndedJob J) := []
  deriving DecidableEq

/-- A move of the submitting thread or of a worker. -/
inductive PoolMove (J : Type) where
  /-- A job is submitted. -/
  | submit (job : J)
  /-- A worker takes a job from its own queue. -/
  | takeOwn (worker : Nat)
  /-- A worker takes a batch of `more + 1` jobs from the shared queue. -/
  | takeShared (worker more : Nat)
  /-- A worker takes a batch of `more + 1` jobs from another worker's queue. -/
  | steal (worker victim more : Nat)
  /-- The job that a worker runs ends. -/
  | finish (worker : Nat) (how : JobEnd)
  /-- A worker counts its job, and it drops what a panic has carried. -/
  | count (worker : Nat)
  /-- A worker takes its job off the pending ones. -/
  | release (worker : Nat)
  /-- The pool is told to stop. -/
  | shutdown
  /-- A worker without a job stops. -/
  | stop (worker : Nat)
  deriving DecidableEq

namespace WorkerPool

variable {J : Type}

/-- A pool of `n` workers without jobs. -/
def ofThreads (n : Nat) : WorkerPool J where
  workers := List.replicate n {}

/-- Replaces a worker. -/
def setWorker (p : WorkerPool J) (i : Nat) (w : Worker J) : WorkerPool J :=
  { p with workers := p.workers.set i w }

/-- Submits a job. -/
def submit (p : WorkerPool J) (job : J) : WorkerPool J :=
  { p with shared := p.shared ++ [job], pending := p.pending + 1 }

/-- The pool after a move; `none` if the move is not possible. -/
def step (p : WorkerPool J) : PoolMove J → Option (WorkerPool J)
  | .submit job => some (p.submit job)
  | .takeOwn i => do
    let w ← p.workers[i]?
    match w.phase, w.queue with
    | .idle, job :: rest => some (p.setWorker i { w with queue := rest, phase := .running job })
    | _, _ => none
  | .takeShared i more => do
    let w ← p.workers[i]?
    match w.phase, w.queue, p.shared with
    | .idle, [], job :: rest =>
      -- A batch is a piece of the front of the queue, of any length but zero.
      if more ≤ rest.length then
        some { p.setWorker i { w with queue := rest.take more, phase := .running job } with
          shared := rest.drop more }
      else none
    | _, _, _ => none
  | .steal i v more => do
    let w ← p.workers[i]?
    let victim ← p.workers[v]?
    match w.phase, w.queue, victim.queue with
    | .idle, [], job :: rest =>
      if i ≠ v ∧ more ≤ rest.length then
        -- Only batches taken from another worker count as stolen.
        let thief :=
          { w with queue := rest.take more, phase := .running job, stolen := w.stolen + 1 }
        some ((p.setWorker v { victim with queue := rest.drop more }).setWorker i thief)
      else none
    | _, _, _ => none
  | .finish i how => do
    let w ← p.workers[i]?
    let job ← w.job?
    some { p.setWorker i { w with phase := .ended how } with
      ended := p.ended ++ [⟨job, i, how⟩] }
  | .count i => do
    let w ← p.workers[i]?
    match w.phase with
    | .ended how =>
      some (p.setWorker i { w with
        -- The payload is dropped when the job has been counted.
        phase := if how.isFatal then .died else .counted
        executed := w.executed + 1
        panicked := w.panicked + how.isPanic.toNat })
    | _ => none
  | .release i => do
    let w ← p.workers[i]?
    match w.phase with
    | .counted => some { p.setWorker i { w with phase := .idle } with pending := p.pending - 1 }
    | _ => none
  | .shutdown => some { p with stopping := true }
  | .stop i => do
    let w ← p.workers[i]?
    if w.isIdle && p.stopping then some (p.setWorker i { w with phase := .stopped }) else none

/-- The pool after a sequence of moves; `none` if one of them is not possible. -/
def run (p : WorkerPool J) (moves : List (PoolMove J)) : Option (WorkerPool J) :=
  moves.foldlM step p

/-! ## Views -/

/-- The job that a worker runs. -/
def runningAt? (p : WorkerPool J) (i : Nat) : Option J :=
  p.workers[i]?.bind Worker.job?

/-- The jobs that workers are running. -/
def running (p : WorkerPool J) : List J :=
  p.workers.filterMap Worker.job?

/-- The jobs in the workers' own queues. -/
def queued (p : WorkerPool J) : List J :=
  p.workers.flatMap Worker.queue

/-- The number of workers. -/
def threads (p : WorkerPool J) : Nat :=
  p.workers.length

/-- The number of jobs that the workers have counted. -/
def executed (p : WorkerPool J) : Nat :=
  p.workers.foldr (fun w n => w.executed + n) 0

/-- The number of jobs that they have counted as panicked. -/
def panicked (p : WorkerPool J) : Nat :=
  p.workers.foldr (fun w n => w.panicked + n) 0

/-- The number of batches that they have stolen from each other. -/
def stolen (p : WorkerPool J) : Nat :=
  p.workers.foldr (fun w n => w.stolen + n) 0

/-- The number of workers that the payload of a panic has ended. -/
def dead (p : WorkerPool J) : Nat :=
  p.workers.countP Worker.hasDied

/-- Whether every worker has stopped or died. -/
def isStopped (p : WorkerPool J) : Bool :=
  p.workers.all fun w => match w.phase with
    | .stopped | .died => true
    | _ => false

/-- The shown form. -/
def shown (p : WorkerPool J) : String :=
  Text.shownRecord "CompilePool"
    [("num_threads", toString p.threads), ("pending_jobs", toString p.pending)]

/-! ## Whole jobs -/

/-- The job of a running worker ends, is counted and released. -/
def complete (p : WorkerPool J) (i : Nat) (panicked : Bool) : WorkerPool J :=
  (p.run [.finish i (.ofPanic panicked), .count i, .release i]).getD p

/-- How an idle worker gets its next job when no other worker interferes: from its own queue, or
else a single one from the shared queue. -/
def nextTake? (p : WorkerPool J) (i : Nat) : Option (PoolMove J) :=
  match p.workers[i]? with
  | some w =>
    if w.isIdle then
      if w.queue.isEmpty then
        if p.shared.isEmpty then none else some (.takeShared i 0)
      else some (.takeOwn i)
    else none
  | none => none

/-- The first worker that can get a job, with the move by which it does. -/
def nextPick? (p : WorkerPool J) : Option (PoolMove J) :=
  (List.range p.threads).findSome? p.nextTake?

/-- One job is taken and run to its end. -/
def serveOne (panics : J → Bool) (p : WorkerPool J) : Option (WorkerPool J) := do
  let take ← p.nextPick?
  let p ← p.step take
  let i ← (List.range p.threads).find? fun i => (p.runningAt? i).isSome
  let job ← p.runningAt? i
  some (p.complete i (panics job))

/-- Every submitted job is run, one after the other, where `panics` tells which of them panic. -/
def serve (panics : J → Bool) (p : WorkerPool J) : WorkerPool J :=
  stepsUpTo (serveOne panics) (p.shared.length + p.queued.length) p

/-- The pool is told to stop and its idle workers do. -/
def close (p : WorkerPool J) : WorkerPool J :=
  (List.range p.threads).foldl (fun p i => (p.step (.stop i)).getD p) { p with stopping := true }

end WorkerPool

end KernelDispatch
