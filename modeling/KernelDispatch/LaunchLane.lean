/-
  KernelDispatch.LaunchLane

  One launch thread behind a queue: jobs run one at a time in the order in which
  they were submitted.

  A barrier is a message in the same queue; the launch thread acknowledges it
  when it gets there, so every job submitted before it has finished by then. A
  panic ends the job and nothing else, unless its payload panics as well when the
  thread drops it: then the thread dies, the messages in the queue are dropped with
  it, and the callers are told so. After the lane has been closed no message is
  accepted; the thread works off the queue and exits.
-/
import KernelDispatch.Failure
import KernelDispatch.JobEnd
import KernelDispatch.Steps
import KernelDispatch.Text.Shown

namespace KernelDispatch

/-- A message in the queue of the launch thread. -/
inductive LaneMessage (J : Type) where
  | job (job : J)
  /-- A barrier with its number. -/
  | barrier (ticket : Nat)
  deriving DecidableEq

/-- The launch thread and its queue. -/
structure LaunchLane (J : Type) where
  accepting : Bool := true
  queue : List (LaneMessage J) := []
  /-- The job that is running. -/
  running : Option J := none
  /-- The jobs that have started, in that order. -/
  started : List J := []
  /-- The jobs that have ended, in that order, each with whether it panicked. -/
  ended : List (J × Bool) := []
  /-- The number of barriers that have been set up. -/
  tickets : Nat := 0
  /-- The barriers that have been acknowledged, in that order. -/
  acknowledged : List Nat := []
  /-- Whether the launch thread has worked off the queue of a closed lane and exited. -/
  exited : Bool := false
  /-- Whether the payload of a panic has ended the launch thread. -/
  died : Bool := false
  /-- The messages that were in the queue when it died. -/
  dropped : List (LaneMessage J) := []
  deriving DecidableEq

/-- A move of the submitting thread or of the launch thread. -/
inductive LaneMove (J : Type) where
  /-- A job is submitted. -/
  | submit (job : J)
  /-- A barrier is set up. -/
  | barrier
  /-- The lane is closed. -/
  | close
  /-- The launch thread takes the next message, or exits if none can come. -/
  | take
  /-- The running job ends. -/
  | finish (how : JobEnd)
  deriving DecidableEq

namespace LaunchLane

variable {J : Type}

/-- Why a closed lane takes no message. -/
def closedFailure : Failure :=
  .threads "launch worker is shut down"

/-- Why a lane takes no message whose thread has died. -/
def goneFailure : Failure :=
  .buildsLost "launch worker is gone"

/-- What those are told who wait for a barrier when the thread dies. -/
def droppedFailure : Failure :=
  .buildsLost "launch worker exited before flush"

/-- Why a lane takes no message, if it takes none. -/
def refusal? (l : LaunchLane J) : Option Failure :=
  if !l.accepting then some closedFailure
  else if l.died then some goneFailure
  else none

/-- Submits a job. -/
def submit (l : LaunchLane J) (job : J) : Except Failure (LaunchLane J) :=
  match l.refusal? with
  | some failure => .error failure
  | none => .ok { l with queue := l.queue ++ [.job job] }

/-- Sets up a barrier and gives its number. -/
def barrier (l : LaunchLane J) : Except Failure (Nat × LaunchLane J) :=
  match l.refusal? with
  | some failure => .error failure
  | none =>
    .ok (l.tickets,
      { l with queue := l.queue ++ [.barrier l.tickets], tickets := l.tickets + 1 })

/-- What the barrier with a number has come to: it is acknowledged, or the thread has died
before; `none` as long as its caller has to wait. -/
def answer? (l : LaunchLane J) (ticket : Nat) : Option (Except Failure Unit) :=
  if ticket ∈ l.acknowledged then some (.ok ())
  else if l.died then some (.error droppedFailure)
  else none

/-- Closes the lane. -/
def close (l : LaunchLane J) : LaunchLane J :=
  { l with accepting := false }

/-- The launch thread takes the next message. It acknowledges a barrier at once; it exits if the
queue is empty and the lane closed. -/
def take? (l : LaunchLane J) : Option (LaunchLane J) :=
  -- One job at a time: the next message has to wait for the running job.
  if l.running.isSome || l.exited || l.died then none
  else
    match l.queue with
    | .job j :: rest =>
      some { l with queue := rest, running := some j, started := l.started ++ [j] }
    | .barrier t :: rest => some { l with queue := rest, acknowledged := l.acknowledged ++ [t] }
    | [] => if l.accepting then none else some { l with exited := true }

/-- The running job ends, and with it the thread if that cannot drop the payload of its panic. -/
def finish? (l : LaunchLane J) (how : JobEnd) : Option (LaunchLane J) :=
  l.running.map fun j =>
    let l := { l with running := none, ended := l.ended ++ [(j, how.isPanic)] }
    if how.isFatal then { l with died := true, queue := [], dropped := l.queue } else l

/-- The lane after a move; `none` if the move is not possible. A refused message changes
nothing. -/
def step (l : LaunchLane J) : LaneMove J → Option (LaunchLane J)
  | .submit j => some ((l.submit j).toOption.getD l)
  | .barrier => some ((l.barrier.toOption.map Prod.snd).getD l)
  | .close => some l.close
  | .take => l.take?
  | .finish how => l.finish? how

/-- The lane after a sequence of moves; `none` if one of them is not possible. -/
def run (l : LaunchLane J) (moves : List (LaneMove J)) : Option (LaunchLane J) :=
  moves.foldlM step l

/-- The next move of the launch thread, where `panics` tells which jobs panic. -/
def work? (panics : J → Bool) (l : LaunchLane J) : Option (LaunchLane J) :=
  match l.running with
  | some j => l.finish? (.ofPanic (panics j))
  | none => l.take?

/-- The launch thread works until it has nothing to do. -/
def drain (panics : J → Bool) (l : LaunchLane J) : LaunchLane J :=
  stepsUpTo (work? panics) (2 * l.queue.length + 2) l

/-- The shown form. -/
def shown (l : LaunchLane J) : String :=
  -- A thread that has died is still to be joined.
  Text.shownRecord "LaunchWorker"
    [("running", Text.shownBool (l.accepting || !(l.exited || l.died)))]

end LaunchLane

end KernelDispatch
