/-
  KernelDispatch.JobEnd

  How a job ends on the thread that runs it.

  The thread catches the panic of a job and drops what the panic carried only after
  that, outside of the catch. So a job has three ends and not two: if the payload of
  its panic panics in turn when it is dropped, that second panic ends the thread.
-/

namespace KernelDispatch

/-- How a job ends. -/
inductive JobEnd where
  | returned
  /-- It panics, and the payload can be dropped. -/
  | panicked
  /-- It panics, and so does its payload when the thread drops it. -/
  | fatal
  deriving DecidableEq

namespace JobEnd

/-- The end of a job that panics or not, with a payload that can be dropped. -/
def ofPanic (panicked : Bool) : JobEnd :=
  if panicked then .panicked else .returned

/-- Whether the job panics. -/
def isPanic : JobEnd → Bool
  | returned => false
  | panicked | fatal => true

/-- Whether the thread ends with the job. -/
def isFatal : JobEnd → Bool
  | returned | panicked => false
  | fatal => true

/-- The end without the panic, if that is no matter of life and death. -/
def withoutPanic : JobEnd → JobEnd
  | returned | panicked => returned
  | fatal => fatal

@[simp]
theorem isPanic_ofPanic (panicked : Bool) : (ofPanic panicked).isPanic = panicked := by
  cases panicked <;> rfl

@[simp]
theorem isFatal_ofPanic (panicked : Bool) : (ofPanic panicked).isFatal = false := by
  cases panicked <;> rfl

end JobEnd

end KernelDispatch
