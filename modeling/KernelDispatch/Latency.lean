/-
  KernelDispatch.Latency

  Counts of durations in bins of three significant digits.

  A duration below 2048 ns has a bin of its own. Above, the bins between two
  powers of two are equally wide, 1024 of them, so a bin is never wider than a
  thousandth of its content. Durations beyond the last bin count as one hour.
  The bins are kept in ascending order with their counts, so a collection of
  durations has one form whatever the order in which they were recorded; the
  average, the greatest and the quantiles are computed from the bins alone.
-/

namespace KernelDispatch

/-- A bin: its first value and the number of values it spans. -/
structure LatencyBin where
  first : Nat
  width : Nat
  deriving DecidableEq

namespace LatencyBin

/-- The greatest duration that is recorded as it is: 42 bits of ones. -/
def greatest : Nat := 4398046511103

/-- What a longer duration is recorded as: one hour. -/
def hour : Nat := 3600000000000

/-- The bin of a value. -/
def ofValue (v : Nat) : LatencyBin :=
  if v < 2048 then ⟨v, 1⟩
  else
    -- Eleven bits of the value tell its bin; the `b` bits below them do not matter.
    let b := v.log2 - 10
    ⟨(v >>> b) <<< b, 1 <<< b⟩

/-- The bin of a duration in nanoseconds. -/
def ofNanos (n : Nat) : LatencyBin :=
  ofValue (if n ≤ greatest then n else hour)

/-- The last value of a bin. -/
def last (b : LatencyBin) : Nat :=
  b.first + b.width - 1

/-- The value that stands for a bin in averages. -/
def median (b : LatencyBin) : Nat :=
  b.first + b.width / 2

end LatencyBin

/-- Durations by bin: ascending bins, each with the number of durations in it. -/
structure Latency where
  bins : List (LatencyBin × Nat) := []
  deriving DecidableEq

namespace Latency

/-- Adds one to the count of a bin. -/
def bump (b : LatencyBin) : List (LatencyBin × Nat) → List (LatencyBin × Nat)
  | [] => [(b, 1)]
  | (c, n) :: rest =>
    if b.first < c.first then (b, 1) :: (c, n) :: rest
    else if b.first = c.first then (c, n + 1) :: rest
    else (c, n) :: bump b rest

/-- Records a duration in nanoseconds. -/
def record (l : Latency) (nanos : Nat) : Latency :=
  ⟨bump (.ofNanos nanos) l.bins⟩

/-- Empties every bin. -/
def reset (l : Latency) : Latency :=
  { l with bins := [] }

/-- The number of durations. -/
def count (l : Latency) : Nat :=
  l.bins.foldr (fun bin n => bin.2 + n) 0

/-- The last value of the greatest bin, 0 if there is none. -/
def max (l : Latency) : Nat :=
  match l.bins.getLast? with
  | some (b, _) => b.last
  | none => 0

/-- A count as a floating-point number. -/
def toFloat (n : Nat) : Float :=
  n.toUInt64.toFloat

/-- The average over the bins' medians, in ascending order of the bins. -/
def mean (l : Latency) : Float :=
  let all := toFloat l.count
  l.bins.foldl (fun total (b, n) => total + toFloat b.median * toFloat n / all) 0.0

/-- The average in whole nanoseconds, 0 if there is none. -/
def average (l : Latency) : Nat :=
  if l.count = 0 then 0 else l.mean.toUInt64.toNat

/-- The last value of the first bin at which the running count reaches `target`. -/
def reach (target running : Nat) : List (LatencyBin × Nat) → Nat
  | [] => 0
  | (b, n) :: rest => if running + n ≥ target then b.last else reach target (running + n) rest

/-- The value that at least the share `q` of the durations do not exceed, 0 if there is none. -/
def quantile (l : Latency) (q : Float) : Nat :=
  let target := (q * toFloat l.count).ceil.toUInt64.toNat
  reach (Nat.max 1 target) 0 l.bins

end Latency

end KernelDispatch
