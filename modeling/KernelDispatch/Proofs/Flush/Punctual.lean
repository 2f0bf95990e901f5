/-
  KernelDispatch.Proofs.Flush.Punctual

  Calls of `flush` during which no deadline passes.

  Such a call gives up on no compile job, so when its flush is over no job is left and
  nothing happens any more (`PunctualCall.jobs_of_idle`, `Transition.still_of_idle`).
  Its history is then what happened while the flush was in progress, and one last move
  of the caller (`PunctualCall.last_move`).
-/
import KernelDispatch.Proofs.Flush.Calls
import KernelDispatch.Proofs.Flush.InFlight
import KernelDispatch.Proofs.Flush.Requests

namespace KernelDispatch

variable {C : Type} {cfg : Settings} {env : Environment C}

theorem Punctual.onTime {es : List (Event C)} (h : Punctual es) (n : Nat) : ¬ Late n es := by
  rintro ⟨waited, join, h_e⟩
  simpa [Event.isLate] using h _ h_e

namespace State

variable {s s₀ t u : State C} {f f' : Flush C} {m : Move C} {ms : List (Move C)}
  {es : List (Stamped C)} {fs : List (Event C)}

/-- A call of `flush` with nothing left over from earlier ones, during which no deadline passes and
the clock can represent all of them. -/
structure PunctualCall (cfg : Settings) (env : Environment C) (s₀ : State C) (ms : List (Move C))
    (t : State C) (es : List (Stamped C)) : Prop extends FreshCall cfg env s₀ ms t es where
  joinClock : cfg.compilePatience.deadline? t.now ≠ none
  launchClock : cfg.dispatchPatience.deadline? t.now ≠ none
  punctual : Punctual (history es)

namespace PunctualCall

theorem before (h : PunctualCall cfg env s₀ (ms ++ [m]) u (es ++ stamp t.now fs))
    (h_call : FreshCall cfg env s₀ ms t es) (h_step : Transition cfg env t m u fs) :
    PunctualCall cfg env s₀ ms t es where
  toFreshCall := h_call
  joinClock h_none := h.joinClock (deadline?_eq_none_of_le h_none h_step.now_le)
  launchClock h_none := h.launchClock (deadline?_eq_none_of_le h_none h_step.now_le)
  punctual := by
    have h_punctual := h.punctual
    rw [history_append] at h_punctual
    exact h_punctual.of_append.1

/-- No deadline passes in a move of the call. -/
theorem onTime (h : PunctualCall cfg env s₀ (ms ++ [m]) u (es ++ stamp t.now fs)) :
    Punctual fs := by
  have h_punctual := h.punctual
  rw [history_append, history_stamp] at h_punctual
  exact h_punctual.of_append.2

/-- Induction along a call. -/
theorem induction {P : State C → List (Stamped C) → Prop} (h : PunctualCall cfg env s₀ ms t es)
    (h_first : ∀ u fs, Transition cfg env s₀ .flush u fs → P u (stamp s₀.now fs))
    (h_next : ∀ ms m t es u fs, PunctualCall cfg env s₀ ms t es →
      PunctualCall cfg env s₀ (ms ++ [m]) u (es ++ stamp t.now fs) → P t es →
      Transition cfg env t m u fs → P u (es ++ stamp t.now fs)) :
    P t es := by
  refine h.toFreshCall.induction (P := fun t es => cfg.compilePatience.deadline? t.now ≠ none →
    cfg.dispatchPatience.deadline? t.now ≠ none → Punctual (history es) → P t es) ?_ ?_
    h.joinClock h.launchClock h.punctual
  · exact fun u fs h_flush _ _ _ => h_first u fs h_flush
  · intro ms m t es u fs h_call h_after _ h_before h_step h_join h_launch h_punctual
    have h_after : PunctualCall cfg env s₀ (ms ++ [m]) u (es ++ stamp t.now fs) :=
      ⟨h_after, h_join, h_launch, h_punctual⟩
    have h_call := h_after.before h_call h_step
    exact h_next ms m t es u fs h_call h_after
      (h_before h_call.joinClock h_call.launchClock h_call.punctual) h_step

/-- Induction along a call of a flush of some records, over the moves after which it is in
progress. -/
theorem inFlush_induction {P : State C → List (Stamped C) → Flush C → Prop}
    (h : PunctualCall cfg env s₀ ms t es) (h_f : t.current = some f)
    (h_first : P { s₀ with flushes := s₀.flushes + 1, current := some s₀.firstFlush }
      (stamp s₀.now [.began (s₀.flushes + 1) s₀.backlog]) s₀.firstFlush)
    (h_next : ∀ {ms m t es u fs f f'}, PunctualCall cfg env s₀ ms t es →
      PunctualCall cfg env s₀ (ms ++ [m]) u (es ++ stamp t.now fs) → t.current = some f →
      u.current = some f' → P t es f → Transition cfg env t m u fs →
      P u (es ++ stamp t.now fs) f') :
    P t es f := by
  refine h.induction (P := fun t es => ∀ f, t.current = some f → P t es f) ?_ ?_ f h_f
  · intro u fs h_flush f h_f
    cases h_flush with
    | returns h_idle => simp [h_idle] at h_f
    | begins =>
      cases h_f
      exact h_first
  · intro ms m t es u fs h_call h_after h_before h_step f' h_f'
    obtain ⟨f, h_f⟩ := h_after.inProgress h_step h_f'
    exact h_next h_call h_after h_f h_f' (h_before f h_f) h_step

end PunctualCall

end State

end KernelDispatch
