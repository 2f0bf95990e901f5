/-
  KernelDispatch.Timeline.Recorder

  A recorder keeps the timeline of the running flush and the one that was closed
  last. Marks are taken only for the running flush; a compile job that outlives
  its flush leaves none. A recorder that is switched off keeps nothing.
-/
import KernelDispatch.Timeline.Basic

namespace KernelDispatch

/-- Something a recorder is told. -/
inductive RecorderOp where
  /-- A flush starts. -/
  | start (flush : Nat)
  /-- Something happened on behalf of a flush. -/
  | mark (flush : Nat) (mark : Mark)
  /-- The running flush ends. -/
  | finish
  deriving DecidableEq

/-- A recorder of timelines. -/
structure Recorder where
  enabled : Bool := true
  current : Option Timeline := none
  last : Option Timeline := none
  deriving DecidableEq

namespace Recorder

/-- The timeline with one more mark, if it is the timeline of that flush. -/
def noteMark (t : Timeline) (now : Moment) (flush : Nat) (m : Mark) : Timeline :=
  if t.flush = flush then { t with marks := t.marks ++ [⟨now, m⟩] } else t

/-- The recorder after it has been told something at a moment. -/
def apply (r : Recorder) (now : Moment) (op : RecorderOp) : Recorder :=
  if r.enabled then
    match op with
    -- A timeline that is still open is given up.
    | .start flush => { r with current := some { flush := flush, started := now } }
    | .mark flush m => { r with current := r.current.map fun t => noteMark t now flush m }
    | .finish =>
      match r.current with
      | some t => { r with current := none, last := some { t with finished := some now } }
      | none => r
  else r

/-- The recorder after a sequence of operations with their moments. -/
def applyAll (r : Recorder) (ops : List (Moment × RecorderOp)) : Recorder :=
  ops.foldl (fun r op => r.apply op.1 op.2) r

end Recorder

end KernelDispatch
