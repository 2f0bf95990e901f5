/-
  KernelDispatch.Proofs.Flush.Gathering

  What a flush has when its wait for the compile jobs is over.

  The failures of the wait follow from what the jobs come to before the deadline: the
  failures that they report, and one of the flush itself if outcomes are missing
  (`joinFailures`, `LoneCall.failures_eq`).
-/
import KernelDispatch.Proofs.Flush.Endings

namespace KernelDispatch

variable {C : Type} {cfg : Settings} {env : Environment C}

/-- A failure without the times in it. -/
def Failure.untimed : Failure → Failure
  | compileOverdue pending _ => .compileOverdue pending (.ofNanos 0)
  | dispatchOverdue kernel digest _ => .dispatchOverdue kernel digest (.ofNanos 0)
  | unfinished failed total first => .unfinished failed total first.untimed
  | e => e

/-- The failures in a wait for this many compile jobs, if this is what they come to before the
deadline. -/
def joinFailures (expected : Nat) (ends : List (Ending C)) : List Failure :=
  let outcomes := ends.filterMap Ending.outcome?
  let join : Join := { expected := expected, received := outcomes.length }
  outcomes.filterMap Join.failure? ++
    if outcomes.length = expected then []
    else if outcomes.length + ends.countP Ending.isLost = expected then [join.lost]
    else [join.timeout (.ofNanos 0)]

/-- Of the jobs that report only the order counts. -/
theorem joinFailures_congr {ends ends' : List (Ending C)} (h_ends : ends.Perm ends')
    (h_reports : ends.filterMap Ending.outcome? = ends'.filterMap Ending.outcome?)
    (expected : Nat) : joinFailures expected ends = joinFailures expected ends' := by
  rw [joinFailures, joinFailures, h_reports, h_ends.countP_eq]

theorem outcomes_of_endings (n : Nat) (es : List (Event C)) :
    (es.filterMap (Event.ending? n)).filterMap Ending.outcome? = reports n es := by
  rw [List.filterMap_filterMap, reports]
  refine List.filterMap_congr fun e _ => ?_
  cases e with
  | slotSettled | jobReported | compileJobLost =>
    simp only [Event.ending?, Event.report?]
    split <;> rfl
  | _ => rfl

theorem lost_of_endings (n : Nat) (es : List (Event C)) :
    (es.filterMap (Event.ending? n)).countP Ending.isLost = es.countP (Event.losesJob n) := by
  rw [List.countP_filterMap]
  refine List.countP_congr fun e _ => ?_
  cases e with
  | slotSettled | jobReported | compileJobLost =>
    simp only [Event.ending?, Event.losesJob]
    split <;> simp_all [Ending.isLost]
  | _ => simp [Event.ending?, Event.losesJob]

namespace State

variable {s s' s₀ t : State C} {f f' : Flush C} {due : Moment} {ms : List (Move C)}
  {es : List (Stamped C)} {fs : List (Event C)}

namespace LoneCall

/-! ## The books of the wait -/

/-- The books of a flush that has not given up: it has received or will receive what its jobs have
reported, and it is in time for all of it. -/
structure Balance (s₀ t : State C) (due : Moment) (es : List (Stamped C)) (f : Flush C)
    (taken : List Outcome) : Prop where
  onTime : ¬ Late (s₀.flushes + 1) (history es)
  outcomes : (endings (s₀.flushes + 1) due es).filterMap Ending.outcome? = taken ++ f.inbox
  received : taken.length = f.join.received
  failures : f.join.failures = taken.filterMap Join.failure?
  expected : f.join.expected = taken.length + f.inbox.length +
    (t.reporters (s₀.flushes + 1) +
      (endings (s₀.flushes + 1) due es).countP Ending.isLost)

theorem balance (h : LoneCall cfg env s₀ due ms t es) (h_f : t.current = some f)
    (h_stage : ¬ f.Requesting) (h_on : f.join.gaveUp = false) :
    ∃ taken, Balance s₀ t due es f taken := by
  obtain ⟨taken, own, h_reports, h_length, h_failures, h_own⟩ :=
    (h.consistent.joined f h_f).received
  have h_total := (h.consistent.counted f h_f).total
  rw [awaited_of_requested h_stage, unreported] at h_total
  rw [(h.number h_f).1] at h_reports h_total
  cases h_own with
  | waits _ h_quiet =>
    rw [(h.number h_f).1] at h_quiet
    have h_onTime : ¬ Late (s₀.flushes + 1) (history es) := by
      rintro ⟨waited, join, h_polled⟩
      cases h_quiet _ _ h_polled
    have h_endings := h.endings_of_not_late h_onTime
    refine ⟨taken, h_onTime, ?_, h_length, by simpa using h_failures, ?_⟩
    · rw [h_endings, outcomes_of_endings, h_reports]
    · rw [h_endings, lost_of_endings, h_length]
      exact h_total
  | expired h_over | orphaned h_over => simp [h_on] at h_over

/-! ## The failures of the wait -/

/-- A flush that has all outcomes has the failures in them. -/
theorem failures_of_received (h : LoneCall cfg env s₀ due ms t es) (h_f : t.current = some f)
    (h_stage : ¬ f.Requesting) (h_over : f.join.isOver = true) (h_on : f.join.gaveUp = false) :
    f.join.failures = joinFailures f.join.expected (endings (s₀.flushes + 1) due es) := by
  obtain ⟨taken, h_balance⟩ := h.balance h_f h_stage h_on
  have h_all : f.join.received = f.join.expected := by
    simpa [Join.isOver, h_on] using h_over
  have h_expected := h_balance.expected
  have h_received := h_balance.received
  have h_inbox : f.inbox = [] := List.length_eq_zero_iff.1 (by omega)
  have h_outcomes := h_balance.outcomes
  rw [h_inbox, List.append_nil] at h_outcomes
  rw [h_balance.failures, joinFailures, h_outcomes, if_pos (h_received.trans h_all),
    List.append_nil]

/-- A flush that gives up adds the failure that what its jobs have come to tells. -/
theorem failures_of_poll (h : LoneCall cfg env s₀ due ms t es) (h_f : t.current = some f)
    (h_stage : f.stage = .joining) (h_over : f.join.isOver = false) {found : Polled}
    {inbox : List Outcome}
    (h_poll : Polled.poll f.inbox (t.hasReporter f.number) f.joinStart f.joinDeadline t.now =
      some (found, inbox)) (h_gaveUp : (f.join.note found).gaveUp = true) :
    (f.join.note found).failures.map Failure.untimed =
      (joinFailures f.join.expected (endings (s₀.flushes + 1) due es)).map Failure.untimed := by
  obtain ⟨h_on, h_missing⟩ : f.join.gaveUp = false ∧ f.join.received ≠ f.join.expected := by
    simpa [Join.isOver] using h_over
  obtain ⟨taken, h_balance⟩ := h.balance h_f (by simp [Flush.Requesting, h_stage]) h_on
  have h_expected := h_balance.expected
  have h_received := h_balance.received
  have h_outcomes := h_balance.outcomes
  have h_ne : taken.length ≠ f.join.expected := by omega
  rcases poll_cases h_poll with ⟨o, rfl, -⟩ | ⟨rfl, h_empty, -, -, h_there⟩ |
    ⟨rfl, h_empty, -, h_gone⟩
  · simp [Join.note, h_on] at h_gaveUp
  · have h_some : t.reporters (s₀.flushes + 1) ≠ 0 := by
      rw [← (h.number h_f).1]
      intro h_zero
      simp [reporters_eq_zero_iff.2 h_zero] at h_there
    rw [h_empty, List.append_nil] at h_outcomes
    rw [h_empty, List.length_nil] at h_expected
    have h_short : ¬ taken.length + (endings (s₀.flushes + 1) due es).countP Ending.isLost =
        f.join.expected := by omega
    rw [joinFailures, h_outcomes, if_neg h_ne, if_neg h_short]
    simp [Join.note, Join.timeout, Join.missing, Failure.untimed, h_balance.failures, h_received]
  · have h_none : t.reporters (s₀.flushes + 1) = 0 := by
      rw [← (h.number h_f).1]
      exact reporters_eq_zero_iff.1 h_gone
    rw [h_empty, List.append_nil] at h_outcomes
    rw [h_empty, List.length_nil, h_none] at h_expected
    rw [joinFailures, h_outcomes, if_neg h_ne, if_pos (by omega)]
    simp [Join.note, Join.lost, Join.missing, h_balance.failures, h_received]

/-- When the wait is over, its failures are those that what the jobs have come to tells, up to the
times in them. -/
theorem failures_eq (h : LoneCall cfg env s₀ due ms t es) (h_f : t.current = some f)
    (h_stage : ¬ f.Requesting) (h_over : f.join.isOver = true) :
    f.join.failures.map Failure.untimed =
      (joinFailures f.join.expected (endings (s₀.flushes + 1) due es)).map Failure.untimed := by
  cases h_gaveUp : f.join.gaveUp with
  | false => rw [h.failures_of_received h_f h_stage h_over h_gaveUp]
  | true =>
    -- After it has given up nothing changes any more.
    refine h.inFlush_induction (P := fun _ es f => ¬ f.Requesting → f.join.gaveUp = true →
      f.join.failures.map Failure.untimed =
        (joinFailures f.join.expected (endings (s₀.flushes + 1) due es)).map Failure.untimed)
      h_f ?_ ?_ h_stage h_gaveUp
    · exact fun h_stage => absurd ⟨_, rfl⟩ h_stage
    · intro ms m t es u fs f f' h_call _ _ h_f _ h_before h_step h_change h_stage' h_gaveUp'
      have h_same (h_stage : ¬ f.Requesting) (h_join : f'.join = f.join) :
          f'.join.failures.map Failure.untimed = (joinFailures f'.join.expected
            (endings (s₀.flushes + 1) due (es ++ stamp t.now fs))).map Failure.untimed := by
        rw [h_join] at h_gaveUp' ⊢
        have h_over : f.join.isOver = true := by simp [Join.isOver, h_gaveUp']
        rw [h_call.endings_of_over h_step fun f₁ h_f₁ => ?_]
        · exact h_before h_stage h_gaveUp'
        · obtain rfl := Option.some.inj (h_f₁.symm.trans h_f)
          exact ⟨h_stage, h_over⟩
      cases h_change with
      | requests _ h_f' =>
        rw [h_f'] at h_stage'
        exact absurd ⟨_, rfl⟩ h_stage'
      | begins _ h_f' => simp [h_f', Flush.joinFrom] at h_gaveUp'
      | polls h_stage h_over h_poll h_f' _ h_fs =>
        have h_endings : endings (s₀.flushes + 1) due (es ++ stamp t.now fs) =
            endings (s₀.flushes + 1) due es := by
          rw [endings_append, endings_stamp, h_fs]
          simp [Event.ending?]
        have h_expected := (poll_counts h_poll f.join).1
        rw [h_f'] at h_gaveUp' ⊢
        rw [h_endings, h_expected]
        exact h_call.failures_of_poll h_f h_stage h_over h_poll h_gaveUp'
      | advances h_stage h_f' => exact h_same h_stage (by rw [h_f'])
      | still h_outline h_join =>
        refine h_same (fun h_requesting => h_stage' ?_) h_join
        exact requesting_of_outline_eq h_outline.symm h_requesting

end LoneCall

end State

end KernelDispatch
