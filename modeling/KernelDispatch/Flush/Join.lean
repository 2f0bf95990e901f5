/-
  KernelDispatch.Flush.Join

  The bookkeeping of a flush that waits for its compile jobs.

  The flush expects one outcome from each compile job it has submitted. It stops
  waiting when it has them all, when its deadline passes, or when the jobs that
  are still missing can no longer report. In the last two cases it gives up: it
  adds one failure of its own and fails the slots that are still pending.
-/
import KernelDispatch.Failure

namespace KernelDispatch

/-- What a compile job reports: nothing, or why it failed. -/
abbrev Outcome := Except Failure Unit

/-- What a flush finds when it polls for an outcome. -/
inductive Polled where
  /-- The next outcome. -/
  | received (outcome : Outcome)
  /-- The deadline has passed; the flush has waited this long. -/
  | expired (waited : Span)
  /-- No job can report any more. -/
  | orphaned

/-- The state of the wait. -/
structure Join where
  expected : Nat := 0
  received : Nat := 0
  /-- The failures received, in order, with the flush's own last. -/
  failures : List Failure := []
  gaveUp : Bool := false
  deriving DecidableEq

namespace Join

/-- The number of outcomes that have not come. -/
def missing (j : Join) : Nat :=
  j.expected - j.received

/-- Whether the wait is over. -/
def isOver (j : Join) : Bool :=
  j.gaveUp || j.received == j.expected

/-- The failure in an outcome. -/
def failure? : Outcome → Option Failure
  | .ok () => none
  | .error e => some e

/-- The failure of a wait whose deadline has passed. -/
def timeout (j : Join) (waited : Span) : Failure :=
  .compileOverdue j.missing waited

/-- The failure of a wait for jobs that are gone. -/
def lost (j : Join) : Failure :=
  .buildsLost (toString j.missing ++ " compilation(s) lost with their worker")

/-- The wait after a poll has shown something. -/
def note (j : Join) : Polled → Join
  | .received o =>
    { j with received := j.received + 1, failures := j.failures ++ (failure? o).toList }
  | .expired waited => { j with failures := j.failures ++ [j.timeout waited], gaveUp := true }
  | .orphaned => { j with failures := j.failures ++ [j.lost], gaveUp := true }

end Join

namespace Polled

/-- What the pending slots are failed with if the flush gives up. -/
def slotMessage? : Polled → Option String
  | received _ => none
  | expired waited => some ("compilation timed out after " ++ waited.text)
  | orphaned => some "compile worker died"

/-- Polls for an outcome at the moment `now` of a wait that began at `start`. An outcome that has
come goes before everything else; with no outcome there and no job left to report, the deadline
does not matter any more. The answer comes with the outcomes left, and it is `none` as long as
the wait has to go on. -/
def poll (inbox : List Outcome) (connected : Bool) (start deadline now : Moment) :
    Option (Polled × List Outcome) :=
  match inbox with
  | o :: rest => some (.received o, rest)
  | [] =>
    if !connected then some (.orphaned, [])
    else if deadline ≤ now then some (.expired (.ofNanos (now - start)), [])
    else none

end Polled

end KernelDispatch
