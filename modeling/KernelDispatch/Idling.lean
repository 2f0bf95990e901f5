/-
  KernelDispatch.Idling

  How a worker without work becomes idle: it first spins for a doubling number of
  rounds, then yields, and after that it is idle and may be parked.
-/
import KernelDispatch.Text.Shown

namespace KernelDispatch

/-- What one step of idling does. -/
inductive IdleAct where
  | spin (rounds : Nat)
  | yield
  deriving DecidableEq

/-- The number of idle steps since the last work. -/
structure Idling where
  step : Nat := 0
  deriving DecidableEq

namespace Idling

/-- The last step that spins. -/
def lastSpin : Nat := 6

/-- The last step that counts. -/
def lastYield : Nat := 10

/-- What the next idle step does: the rounds double as long as it spins. -/
def action (i : Idling) : IdleAct :=
  if i.step ≤ lastSpin then .spin (1 <<< i.step) else .yield

/-- One idle step; the count stops one past the last step that counts. -/
def rest (i : Idling) : Idling :=
  if i.step ≤ lastYield then ⟨i.step + 1⟩ else i

/-- There is work again. -/
def reset (_ : Idling) : Idling := {}

/-- Whether the worker may be parked. -/
def isExhausted (i : Idling) : Bool :=
  i.step > lastYield

/-- The shown form. -/
def shown (i : Idling) : String :=
  Text.shownRecord "Backoff" [("step", Text.shownRecord "Cell" [("value", toString i.step)])]

end Idling

end KernelDispatch
