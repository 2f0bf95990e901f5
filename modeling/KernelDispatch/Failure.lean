/-
  KernelDispatch.Failure

  What can go wrong between the launch of a kernel and the end of its flush.
  Each constructor is one cause with the data that names it; `Failure.message`
  gives the wording and `Failure.blamesCodegen` tells which causes lie with the
  code generator.
-/
import KernelDispatch.Content.Digest
import KernelDispatch.Span

namespace KernelDispatch

/-- A cause of failure. -/
inductive Failure where
  /-- The settings contradict themselves. -/
  | settings (message : String)
  /-- A thread could not be started or is gone. -/
  | threads (message : String)
  /-- The lowered program has the wrong shape. -/
  | malformedProgram (kernel reason : String)
  /-- Lowering the kernel failed. -/
  | lowering (kernel message : String)
  /-- The code generator failed on a task. -/
  | compilation (kernel task : String) (digest : Digest) (message : String)
  /-- Compilations were still running when the deadline passed. -/
  | compileOverdue (pending : Nat) (waited : Span)
  /-- The task of a record did not settle in time. -/
  | dispatchOverdue (kernel : String) (digest : Digest) (waited : Span)
  /-- A record could not be run. -/
  | dispatch (kernel : String) (digest : Digest) (message : String)
  /-- Some records of a flush did not run. -/
  | unfinished (failed total : Nat) (first : Failure)
  /-- A thread is gone, or a compile job, and with it what it had to do. -/
  | buildsLost (message : String)
  /-- A failure of the surrounding system. -/
  | system (message : String)
  /-- Any other failure, by its own words. -/
  | other (message : String)
  deriving DecidableEq

namespace Failure

/-- The wording of a failure. -/
def message : Failure → String
  | settings m => "config error: " ++ m
  | threads m => "executor error: " ++ m
  | malformedProgram kernel reason =>
    "kernel `" ++ kernel ++ "` lowered to malformed IR: " ++ reason
  | lowering kernel m => "lowering kernel `" ++ kernel ++ "` failed: " ++ m
  | compilation kernel task digest m =>
    "codegen failed for kernel `" ++ kernel ++ "` task `" ++ task ++ "` (" ++ digest.text
      ++ "): " ++ m
  | compileOverdue pending waited =>
    toString pending ++ " compilation(s) still running after " ++ waited.text
  | dispatchOverdue kernel digest waited =>
    "artifact " ++ digest.text ++ " for kernel `" ++ kernel ++ "` not available after "
      ++ waited.text
  | dispatch kernel digest m =>
    "dispatch of kernel `" ++ kernel ++ "` (" ++ digest.text ++ ") failed: " ++ m
  | unfinished failed total first =>
    toString failed ++ " of " ++ toString total ++ " launches failed; first: " ++ first.message
  | buildsLost m => "worker panic: " ++ m
  | system m => "I/O error: " ++ m
  | other m => m

/-- Whether a failing or hanging code generator is the cause. A failed flush takes after its
first failure. -/
def blamesCodegen : Failure → Bool
  | compilation .. => true
  | compileOverdue .. => true
  | unfinished _ _ first => first.blamesCodegen
  | _ => false

end Failure

end KernelDispatch
