/-
  KernelDispatch.Tallies

  Counters and latencies of a dispatcher. A tally is a sum over measurements, so
  the order in which threads take them does not matter.
-/
import KernelDispatch.Latency

namespace KernelDispatch

/-- One thing worth counting. Durations are in nanoseconds. -/
inductive Measurement where
  | flush
  | compilation (elapsed : Nat) (ok : Bool)
  | dispatch (waited : Nat) (ok : Bool)
  | reuse
  | share
  | collision
  | panic
  deriving DecidableEq

/-- The counters. -/
structure Tallies where
  flushes : Nat := 0
  recordsRun : Nat := 0
  recordFailures : Nat := 0
  compilations : Nat := 0
  buildFailures : Nat := 0
  reuses : Nat := 0
  shares : Nat := 0
  collisions : Nat := 0
  panics : Nat := 0
  /-- How long each compilation took. -/
  buildTimes : Latency := {}
  /-- How long each record took from the start of its wait. -/
  waitTimes : Latency := {}
  deriving DecidableEq

namespace Tallies

/-- The tallies after one more measurement. -/
def note (t : Tallies) : Measurement → Tallies
  | .flush => { t with flushes := t.flushes + 1 }
  | .compilation elapsed ok =>
    { t with
      compilations := t.compilations + 1
      buildFailures := t.buildFailures + (!ok).toNat
      buildTimes := t.buildTimes.record elapsed }
  | .dispatch waited ok =>
    { t with
      recordsRun := t.recordsRun + ok.toNat
      recordFailures := t.recordFailures + (!ok).toNat
      waitTimes := t.waitTimes.record waited }
  | .reuse => { t with reuses := t.reuses + 1 }
  | .share => { t with shares := t.shares + 1 }
  | .collision => { t with collisions := t.collisions + 1 }
  | .panic => { t with panics := t.panics + 1 }

/-- The tallies after some measurements. -/
def noteAll (t : Tallies) (ms : List Measurement) : Tallies :=
  ms.foldl note t

/-- Forgets every measurement. -/
def reset (t : Tallies) : Tallies :=
  { t with
    flushes := 0
    recordsRun := 0
    recordFailures := 0
    compilations := 0
    buildFailures := 0
    reuses := 0
    shares := 0
    collisions := 0
    panics := 0
    buildTimes := t.buildTimes.reset
    waitTimes := t.waitTimes.reset }

/-- The share of records that did not need a compilation of their own; 0 without records. -/
def savedShare (compilations reuses shares : UInt64) : Float :=
  let total := compilations + reuses + shares
  if total = 0 then 0.0 else (reuses + shares).toFloat / total.toFloat

end Tallies

/-! ## Figures -/

/-- The figures of the tallies at one moment. -/
structure Figures where
  flushes : Nat
  recordsRun : Nat
  recordFailures : Nat
  compilations : Nat
  buildFailures : Nat
  reuses : Nat
  shares : Nat
  collisions : Nat
  panics : Nat
  averageBuild : Nat
  p99Build : Nat
  maxBuild : Nat
  p99Wait : Nat
  deriving DecidableEq

/-- The figures of some tallies. -/
def Tallies.figures (t : Tallies) : Figures where
  flushes := t.flushes
  recordsRun := t.recordsRun
  recordFailures := t.recordFailures
  compilations := t.compilations
  buildFailures := t.buildFailures
  reuses := t.reuses
  shares := t.shares
  collisions := t.collisions
  panics := t.panics
  averageBuild := t.buildTimes.average
  p99Build := t.buildTimes.quantile 0.99
  maxBuild := t.buildTimes.max
  p99Wait := t.waitTimes.quantile 0.99

/-- The saved share of some figures. -/
def Figures.savedShare (f : Figures) : Float :=
  Tallies.savedShare f.compilations.toUInt64 f.reuses.toUInt64 f.shares.toUInt64

end KernelDispatch
