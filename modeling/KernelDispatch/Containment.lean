/-
  KernelDispatch.Containment

  Panics of supplied code, turned into values.

  A guard runs a piece of work and counts the panics it catches. Its setting says
  what becomes of them: the process ends, or the panic becomes a report, with a
  line in the log or without.
-/
import KernelDispatch.Artifact
import KernelDispatch.Journal
import KernelDispatch.Settings

namespace KernelDispatch

/-- What a piece of supplied work does. -/
inductive Attempt (α : Type) where
  | returned (value : α)
  | panicked (cause : Panic)

/-- What a guard makes of it. -/
inductive Contained (α : Type) where
  /-- The value that the work returned. -/
  | value (a : α)
  /-- The message of a panic. -/
  | report (message : String)
  /-- The process has ended. -/
  | aborted
  deriving DecidableEq

/-- What the work of an artifact does, as its guard sees it. -/
def Execution.attempt {C : Type} : Execution C → Attempt C
  | completed context => .returned context
  | panicked cause | lost cause => .panicked cause

/-- Whether the launch job is lost with a run of an artifact. -/
def Execution.isLost {C : Type} : Execution C → Bool
  | completed _ | panicked _ => false
  | lost _ => true

/-- What the work of the code generator does, as its guard sees it. -/
def Generated.attempt {C : Type} : Generated C → Attempt (Except Failure (Code C))
  | code compiled => .returned (.ok compiled)
  | failed cause | lost cause => .returned (.error cause)
  | panicked cause | lostPanicking cause => .panicked cause

/-- Whether the compile job is lost with a call of the code generator. -/
def Generated.isLost {C : Type} : Generated C → Bool
  | code _ | failed _ | panicked _ => false
  | lost _ | lostPanicking _ => true

/-- The panic of a piece of work. -/
def Attempt.panic? {α : Type} : Attempt α → Option Panic
  | returned _ => none
  | panicked cause => some cause

/-- A guard against panics. -/
structure PanicGuard where
  onPanic : OnPanic := .log
  caught : Nat := 0
  deriving DecidableEq

namespace PanicGuard

/-- The notices of a panic in `what`. -/
def notices (onPanic : OnPanic) (what message : String) : List Notice :=
  match onPanic with
  | .abort => [.aborted what message]
  | .quiet => []
  | .log => [.panicked what message]

/-- Runs a piece of work: the result, the guard after it, and the notices. -/
def contain {α : Type} (g : PanicGuard) (what : String) (work : Attempt α) :
    Contained α × PanicGuard × List Notice :=
  match work with
  | .returned a => (.value a, g, [])
  | .panicked cause =>
    let g' := { g with caught := g.caught + 1 }
    let notices := notices g.onPanic what cause.message
    match g.onPanic with
    | .abort => (.aborted, g', notices)
    | _ => (.report cause.message, g', notices)

theorem contain_returned {α : Type} (g : PanicGuard) (what : String) (value : α) :
    (g.contain what (.returned value)).1 = .value value := rfl

theorem contain_panicked {α : Type} (g : PanicGuard) (what : String) (cause : Panic) :
    (g.contain what (.panicked cause : Attempt α)).1 =
      if g.onPanic = .abort then .aborted else .report cause.message := by
  cases h_onPanic : g.onPanic <;> simp [contain, h_onPanic]

/-- The shown form. -/
def shown (g : PanicGuard) : String :=
  Text.shownRecord "PanicHandler"
    [("strategy", g.onPanic.shown), ("panic_count", toString g.caught)]

end PanicGuard

/-- The guard under which code generators and artifacts run. -/
def Settings.panicGuard (cfg : Settings) : PanicGuard where
  onPanic := cfg.onPanic

/-- The shown form of a panic report. -/
def shownReport (message : String) : String :=
  Text.shownRecord "PanicReport" [("message", Text.quoted message)]

end KernelDispatch
