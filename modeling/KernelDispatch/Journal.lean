/-
  KernelDispatch.Journal

  What a dispatcher writes into its log. A notice is an occasion with the data
  that its line names; `Notice.level` and `Notice.text` say how it is written.
-/
import KernelDispatch.Content.TaskId
import KernelDispatch.Failure

namespace KernelDispatch

/-- The weight of a notice. -/
inductive Level where
  | debug
  | info
  | warn
  | error
  deriving DecidableEq

/-- The name of a level. -/
def Level.text : Level → String
  | debug => "DEBUG"
  | info => "INFO"
  | warn => "WARN"
  | error => "ERROR"

/-- Which thread writes: the caller of the dispatcher, a compile worker or the launch thread. -/
inductive Role where
  | caller
  | compile
  | launch
  deriving DecidableEq

/-- Something worth a line in the log. -/
inductive Notice where
  /-- The compile workers have started. -/
  | poolStarted (workers : Nat)
  /-- A launched kernel has been taken apart. -/
  | lowered (kernel : String) (tasks : Nat)
  /-- A flush begins. -/
  | flushing (records : Nat)
  /-- Two tasks of a flush share a key. -/
  | collision (first second : TaskId)
  /-- The code generator is called. -/
  | codegen (digest : Digest) (kernel : String)
  /-- A panic in some work has become a failure. -/
  | panicked (what message : String)
  /-- A panic in some work ends the process. -/
  | aborted (what message : String)
  /-- A compile job is lost. -/
  | compileJobPanicked (job worker : Nat)
  /-- A launch job is lost. -/
  | launchJobPanicked (job : Nat)
  /-- The flush has learnt of a failure. -/
  | failed (failure : Failure)
  /-- The flush is given up before anything has run. -/
  | flushAborted (flush failures : Nat)
  /-- The flush has waited for its compilations; the time is in nanoseconds. -/
  | compiled (tasks nanos : Nat)
  /-- A record does not run. -/
  | skipped (seq : Nat) (failure : Failure)
  /-- Some records of the flush did not run. -/
  | unfinished (flush missing total : Nat)
  /-- The flush has ended and entries have left the store. -/
  | released (flush entries : Nat)
  deriving DecidableEq

namespace Notice

/-- The level of a notice. -/
def level : Notice → Level
  | poolStarted _ => .debug
  | lowered .. => .debug
  | flushing _ => .info
  | collision .. => .warn
  | codegen .. => .debug
  | panicked .. => .error
  | aborted .. => .error
  | compileJobPanicked .. => .error
  | launchJobPanicked _ => .error
  | failed _ => .error
  | flushAborted .. => .error
  | compiled .. => .info
  | skipped .. => .warn
  | unfinished .. => .error
  | released .. => .debug

/-- A job number as it is written. -/
def jobText (job : Nat) : String :=
  "JobId(" ++ toString job ++ ")"

/-- Nanoseconds as milliseconds with three places; the rest is cut off. -/
def milliseconds (nanos : Nat) : String :=
  let places := toString (1000 + nanos / 1000 % 1000)
  toString (nanos / 1000000) ++ "." ++ String.ofList (places.toList.drop 1)

/-- The wording of a notice. -/
def text : Notice → String
  | poolStarted workers => "compile pool started with " ++ toString workers ++ " workers"
  | lowered kernel tasks =>
    "kernel `" ++ kernel ++ "` lowered into " ++ toString tasks ++ " offloads"
  | flushing records => "Flushing execution queue with " ++ toString records ++ " tasks"
  | collision first second =>
    "content hash " ++ second.digest.text ++ " collides: `" ++ first.headline ++ "` vs `"
      ++ second.headline ++ "`; compiling both"
  | codegen digest kernel => "codegen " ++ digest.text ++ " for kernel `" ++ kernel ++ "`"
  | panicked what message => what ++ " panicked: " ++ message
  | aborted what message => what ++ " panicked (abort strategy): " ++ message
  | compileJobPanicked job worker =>
    "job " ++ jobText job ++ " panicked on compile worker " ++ toString worker
  | launchJobPanicked job => "launch job " ++ jobText job ++ " panicked"
  | failed failure => failure.message
  | flushAborted flush failures =>
    "aborting flush " ++ toString flush ++ ": " ++ toString failures
      ++ " compilation(s) failed, nothing dispatched"
  | compiled tasks nanos =>
    "Compiled " ++ toString tasks ++ " unique tasks in " ++ milliseconds nanos ++ " ms"
  | skipped seq failure => "skipping launch #" ++ toString seq ++ ": " ++ failure.message
  | unfinished flush missing total =>
    "flush " ++ toString flush ++ ": " ++ toString missing ++ " of " ++ toString total
      ++ " launches failed"
  | released flush entries =>
    "flush " ++ toString flush ++ " released " ++ toString entries ++ " cache entries"

/-- The line of a notice: its level, then its wording. -/
def line (n : Notice) : String :=
  n.level.text ++ " " ++ n.text

end Notice

end KernelDispatch
