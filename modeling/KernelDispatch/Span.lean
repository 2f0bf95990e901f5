/-
  KernelDispatch.Span

  Spans of time and moments on the monotonic clock.

  A span has whole seconds and a rest in nanoseconds. A moment is a number of
  nanoseconds; the clock counts its seconds in a signed 64-bit number, so a
  deadline exists only if its seconds fit there.
-/

namespace KernelDispatch

/-- A length of time. -/
structure Span where
  seconds : Nat
  nanos : Nat
  nanos_lt : nanos < 1000000000 := by omega
  deriving DecidableEq

/-- A point on the monotonic clock, in nanoseconds. -/
abbrev Moment := Nat

namespace Span

/-- The length in nanoseconds. -/
def toNanos (s : Span) : Nat :=
  1000000000 * s.seconds + s.nanos

/-- The span of a number of nanoseconds. -/
def ofNanos (n : Nat) : Span :=
  ⟨n / 1000000000, n % 1000000000, Nat.mod_lt _ (by decide)⟩

/-- A span of whole seconds. -/
def ofSeconds (n : Nat) : Span :=
  ⟨n, 0, by decide⟩

/-- Whether the span has no length. -/
def isZero (s : Span) : Bool :=
  s.seconds == 0 && s.nanos == 0

@[simp] theorem toNanos_ofNanos (n : Nat) : (ofNanos n).toNanos = n := by
  simp only [ofNanos, toNanos]
  omega

theorem isZero_iff (s : Span) : s.isZero = true ↔ s.toNanos = 0 := by
  simp only [isZero, toNanos, Bool.and_eq_true, beq_iff_eq]
  omega

/-- The seconds that the clock can count: those of a signed 64-bit number. -/
def clockSeconds : Nat := 9223372036854775808

/-- The moment that lies the span after `now`, if the clock can represent it. -/
def deadline? (s : Span) (now : Moment) : Option Moment :=
  if (now + s.toNanos) / 1000000000 < clockSeconds then some (now + s.toNanos) else none

theorem deadline?_eq_some {s : Span} {now d : Moment} (h : s.deadline? now = some d) :
    d = now + s.toNanos := by
  simp only [deadline?] at h
  split at h
  · exact (Option.some.inj h).symm
  · contradiction

/-! ## The written form -/

/-- The digits of a fraction of `width` places, without trailing zeros. -/
def fractionDigits (width fraction : Nat) : List Char :=
  let digits := Nat.toDigits 10 fraction
  let filled := List.replicate (width - digits.length) '0' ++ digits
  (filled.reverse.dropWhile (· = '0')).reverse

/-- A decimal fraction without trailing zeros, and without a point if nothing follows it. -/
def decimal (whole width fraction : Nat) : String :=
  match fractionDigits width fraction with
  | [] => toString whole
  | digits => toString whole ++ "." ++ String.ofList digits

/-- The span in the largest of s, ms, µs and ns whose whole part is not zero, exactly. -/
def text (s : Span) : String :=
  if s.seconds > 0 then decimal s.seconds 9 s.nanos ++ "s"
  else if s.nanos ≥ 1000000 then decimal (s.nanos / 1000000) 6 (s.nanos % 1000000) ++ "ms"
  else if s.nanos ≥ 1000 then decimal (s.nanos / 1000) 3 (s.nanos % 1000) ++ "µs"
  else toString s.nanos ++ "ns"

end Span

end KernelDispatch
