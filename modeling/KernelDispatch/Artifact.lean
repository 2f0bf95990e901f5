/-
  KernelDispatch.Artifact

  Launch records, the artifacts compiled from their tasks, and what a call of
  the code generator or of an artifact can come to.

  Code generators and artifacts are supplied from outside. A code generator may
  answer each call by everything it was asked before, and an artifact may take
  the number of artifact runs before this one into account, so both may have
  memory; a run of the dispatcher is still determined by the order of its moves.
-/
import KernelDispatch.Failure
import KernelDispatch.Text.Quoted
import KernelDispatch.Text.Shown

namespace KernelDispatch

/-- One task of a launched kernel with the context it is to run in. -/
structure Record (C : Type) where
  context : C
  kernel : String
  /-- The canonical text of the task. -/
  task : String

/-- The shown form of a record: the kernel's name only. -/
def Record.shown {C : Type} (r : Record C) : String :=
  Text.shownPartial "LaunchRecord" [("kernel", Text.quoted r.kernel)]

/-- What a panic carries: a message, or something that is no text. -/
inductive Panic where
  | saying (message : String)
  | speechless
  deriving DecidableEq

/-- The message that is reported for a panic. -/
def Panic.message : Panic → String
  | saying m => m
  | speechless => "unknown panic payload"

/-- What one run of an artifact comes to. -/
inductive Execution (C : Type) where
  /-- It returned and left this context. -/
  | completed (context : C)
  /-- It panicked. -/
  | panicked (cause : Panic)
  /-- It panicked, and the launch job was lost before it could report that. -/
  | lost (cause : Panic)

/-- A request to the code generator: the task, the kernel it was enqueued for, and how many
times this text has been handed over, this time included. -/
structure CodegenCall where
  kernel : String
  task : String
  build : Nat
  deriving DecidableEq

/-- The next call for a text after some calls, newest first. -/
def CodegenCall.next (calls : List CodegenCall) (kernel task : String) : CodegenCall :=
  ⟨kernel, task, calls.countP (·.task == task) + 1⟩

/-- Compiled code: from the number of artifact runs so far and a context to what the run comes
to. -/
abbrev Code (C : Type) := Nat → C → Execution C

/-- A compiled task: its code and the call that produced it. -/
structure Artifact (C : Type) where
  origin : CodegenCall
  code : Code C

/-- What one call of the code generator comes to. -/
inductive Generated (C : Type) where
  /-- It returned code. -/
  | code (code : Code C)
  /-- It returned a failure. -/
  | failed (cause : Failure)
  /-- It panicked. -/
  | panicked (cause : Panic)
  /-- It returned a failure, and the compile job was lost before it could report that. -/
  | lost (cause : Failure)
  /-- It panicked, and the compile job was lost before it could report that. -/
  | lostPanicking (cause : Panic)

/-- A code generator: from the earlier calls, newest first, and this call to its result. -/
abbrev Codegen (C : Type) := List CodegenCall → CodegenCall → Generated C

end KernelDispatch
