/-
  KernelDispatch.Launcher

  Launching kernels: a kernel is lowered if it is not, its program is taken apart
  into one record per task, the batch of records goes through an optimizer, and
  the result is enqueued in order and flushed.

  A kernel that does not lower to a flat program is refused before anything is
  batched, so a refused launch leaves the launcher as it was.
-/
import KernelDispatch.Program
import KernelDispatch.Dispatcher

namespace KernelDispatch

/-- A kind of kernels: what their owner supplies. A kernel is a value of type `K`; lowering it
and asking it for a context may change it. -/
structure KernelKind (K C : Type) where
  name : K → String
  isLowered : K → Bool
  /-- Lowers the kernel. -/
  lower : K → Except Failure Unit × K
  /-- The lowered program, whose tasks are given by their canonical texts. -/
  program : K → Program String
  /-- The context for the next record. -/
  context : K → C × K

/-- A change of a batch of records before it is enqueued. -/
abbrev Optimizer (C : Type) := List (Record C) → List (Record C)

namespace KernelKind

variable {K C : Type}

/-- The failure of a launch whose lowering has failed: a malformed program stays one, anything
else is a failure to lower this kernel. -/
def loweringFailure (kind : KernelKind K C) (k : K) : Failure → Failure
  | .malformedProgram kernel reason => .malformedProgram kernel reason
  | other => .lowering (kind.name k) other.message

/-- Lowers a kernel unless it is lowered already. -/
def lowered (kind : KernelKind K C) (k : K) : Except Failure Unit × K :=
  if kind.isLowered k then (.ok (), k)
  else
    match kind.lower k with
    | (.ok (), k') => (.ok (), k')
    | (.error e, k') => (.error (loweringFailure kind k' e), k')

/-- One record per task, in order, each with a context of its own. -/
def recordsOf (kind : KernelKind K C) (k : K) : List String → List (Record C) × K
  | [] => ([], k)
  | task :: tasks =>
    let (context, k') := kind.context k
    let (records, k'') := recordsOf kind k' tasks
    (⟨context, kind.name k, task⟩ :: records, k'')

/-- The records of a kernel, or why it cannot be launched, and the kernel then. -/
def records (kind : KernelKind K C) (k : K) : Except Failure (List (Record C)) × K :=
  match kind.lowered k with
  | (.error e, k') => (.error e, k')
  | (.ok (), k') =>
    match (kind.program k').flatTasks? with
    | .error fault => (.error (.malformedProgram (kind.name k') fault.message), k')
    | .ok tasks =>
      let (records, k'') := kind.recordsOf k' tasks
      (.ok records, k'')

end KernelKind

/-- A launcher: a batch of records in front of a dispatcher. -/
structure Launcher (C : Type) where
  batch : List (Record C) := []
  queue : Dispatcher C

namespace Launcher

variable {K C : Type}

/-- Enqueues the batch in order and flushes the dispatcher. -/
def flush (l : Launcher C) : FlushAnswer × Launcher C × List (Stamped C) :=
  let (answer, queue, es) := (l.queue.enqueueAll l.batch).flush
  (answer, { batch := [], queue := queue }, es)

/-- Launches a kernel: how that ends, the launcher and the kernel then, and what happened. -/
def launch (l : Launcher C) (optimizer : Optimizer C) (kind : KernelKind K C) (k : K) :
    FlushAnswer × Launcher C × K × List (Stamped C) :=
  match kind.records k with
  | (.error e, k') => (.returned (.error e), l, k', [])
  | (.ok records, k') =>
    let lowered := (l.queue.state.now, Event.lowered (kind.name k') records.length)
    let (answer, l', es) := { l with batch := optimizer (l.batch ++ records) }.flush
    (answer, l', k', lowered :: es)

/-- The shown form. -/
def shown (l : Launcher C) : String :=
  Text.shownRecord "AsyncEngine"
    [("pending", toString l.batch.length), ("queue", l.queue.shown)]

end Launcher

end KernelDispatch
