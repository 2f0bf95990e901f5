/-
  KernelDispatch.Steps

  Running a partial step: as often as it can, within a bound.
-/

namespace KernelDispatch

/-- The state after at most `n` steps; it stops where no step is possible. -/
def stepsUpTo {σ : Type} (step : σ → Option σ) : Nat → σ → σ
  | 0, s => s
  | n + 1, s =>
    match step s with
    | some s' => stepsUpTo step n s'
    | none => s

/-- The state after at most `n` steps and what they emitted, in order. -/
def traceUpTo {σ ε : Type} (step : σ → Option (σ × List ε)) : Nat → σ → σ × List ε
  | 0, s => (s, [])
  | n + 1, s =>
    match step s with
    | some (s', es) =>
      let (t, fs) := traceUpTo step n s'
      (t, es ++ fs)
    | none => (s, [])

/-- What a choice between two alternatives yields comes from one of them. -/
theorem eq_some_of_orElse {α : Type} {a b : Option α} {r : α} (h : (a <|> b) = some r) :
    a = some r ∨ b = some r := by
  cases a with
  | none => exact .inr h
  | some x => exact .inl h

end KernelDispatch
