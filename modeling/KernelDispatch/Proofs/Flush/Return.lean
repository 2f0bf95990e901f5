/-
  KernelDispatch.Proofs.Flush.Return

  Every call of `flush` comes to an end.

  `effort` bounds the moves that the caller and the launch thread still have to
  make in a flush; each of their moves takes it down, and no move of another thread
  takes it up (`effort_of_run`). As long as the flush goes on, one of the two can
  move once enough time has passed (`exists_own_move`). So the call comes to its end
  after a bounded number of moves, and it returns with nothing left enqueued, or it
  panics because the clock cannot represent the end of the wait for the compile jobs
  (`flush_ends`). Settings whose patience is that long are valid
  (`unwinds_and_keeps_its_records`).
-/
import Mathlib.Algebra.GroupWithZero.Nat
import KernelDispatch.Proofs.Flush.Completion
import KernelDispatch.Proofs.Flush.Jobs

namespace KernelDispatch

variable {C : Type} {cfg : Settings} {env : Environment C}

/-! ## Moves and answers -/

namespace Move

/-- Whether a move is a call of the dispatcher from outside. -/
def isCall : Move C → Bool
  | enqueue _ => true
  | dropArtifacts => true
  | flush => true
  | _ => false

/-- Whether a move brings the flush in progress forward. -/
def isOwn : Move C → Bool
  | caller => true
  | launcher => true
  | _ => false

end Move

/-- Whether an event ends a call of `flush`. -/
def Event.isAnswer : Event C → Bool
  | returned _ => true
  | unwound _ => true
  | _ => false

/-- The events that end calls of `flush`. -/
def answers (es : List (Event C)) : List (Event C) :=
  es.filter Event.isAnswer

@[simp] theorem answers_append (es fs : List (Event C)) :
    answers (es ++ fs) = answers es ++ answers fs :=
  List.filter_append ..

theorem answers_of_quiet {es : List (Event C)} (h : ∀ e ∈ es, e.isAnswer = false) :
    answers es = [] :=
  List.filter_eq_nil_iff.2 fun e h_e => by simp [h e h_e]

theorem mem_answers {es : List (Event C)} {e : Event C} :
    e ∈ answers es ↔ e ∈ es ∧ e.isAnswer = true :=
  List.mem_filter

/-! ## Effort -/

/-- The number of moves that a launch job takes until its end. -/
def LaunchPhase.effort : LaunchPhase C → Nat
  | queued => 3
  | waiting .. => 2
  | holding .. => 1

/-- The number of polls that a wait for compile jobs takes at most. -/
def Join.effort (j : Join) : Nat :=
  j.missing + if j.gaveUp then 0 else 1

/-- A bound on the moves that the caller has still to make in a flush. -/
def Flush.effort (cfg : Settings) (f : Flush C) : Nat :=
  match f.stage with
  | .requesting rest => 2 * rest.length + f.report.compiled + f.batch.length + 5
  | .submitting rest =>
    if cfg.pipelined then rest.length + f.join.effort + 3 else rest.length + 2
  | .joining =>
    if cfg.pipelined then f.join.effort + 2 else f.join.effort + f.batch.length + 3
  | .draining => 1

theorem Flush.effort_pos (cfg : Settings) (f : Flush C) : 0 < f.effort cfg := by
  unfold Flush.effort
  split
  · omega
  · split <;> omega
  · split <;> omega
  · omega

namespace State

variable {s s' t : State C} {f f' : Flush C} {es fs : List (Event C)}

/-- A bound on the moves that the launch thread has still to make for the jobs in the lane. -/
def laneEffort (s : State C) : Nat :=
  (s.lane.map (·.phase.effort)).sum

/-- A bound on the moves that the caller and the launch thread have still to make until the flush
in progress ends. A record that is enqueued is a launch job to come. -/
def effort (cfg : Settings) (s : State C) : Nat :=
  match s.current with
  | none => 0
  | some f => f.effort cfg + s.laneEffort + 3 * s.backlog.length

theorem effort_of_current (h_current : s.current = some f) :
    s.effort cfg = f.effort cfg + s.laneEffort + 3 * s.backlog.length := by
  simp only [effort, h_current]

theorem effort_of_idle (h_idle : s.current = none) : s.effort cfg = 0 := by
  simp only [effort, h_idle]

/-! ## The moves of the caller -/

/-- A poll that shows something brings the wait closer to its end. -/
theorem join_effort_lt {found : Polled} {inbox : List Outcome} (h : Counted s fs f)
    (h_stage : f.stage = .joining) (h_over : f.join.isOver = false)
    (h_poll : Polled.poll f.inbox (s.hasReporter f.number) f.joinStart f.joinDeadline s.now =
      some (found, inbox)) : (f.join.note found).effort < f.join.effort := by
  have h_total := h.total
  simp only [awaited, h_stage] at h_total
  simp only [Join.isOver, Bool.or_eq_false_iff] at h_over
  obtain ⟨h_on, -⟩ := h_over
  cases found with
  | received outcome =>
    -- There is an outcome in the inbox, so the flush expects more than it has received.
    have h_some : 0 < f.inbox.length := by
      have h_counts := (poll_counts h_poll f.join).2
      simp only [Join.note] at h_counts
      omega
    show f.join.expected - (f.join.received + 1) + (if f.join.gaveUp then 0 else 1) <
      f.join.expected - f.join.received + if f.join.gaveUp then 0 else 1
    omega
  | expired waited | orphaned =>
    simp only [Join.effort, Join.missing, Join.note, h_on, if_true, Bool.false_eq_true, if_false]
    omega

/-- Every move of the caller takes the effort down. -/
theorem CallerStep.effort_lt (h_current : s.current = some f) (h_counted : Counted s fs f)
    (h_layout : FlushLayout cfg s f) (h : CallerStep cfg env s f s' es) :
    s'.effort cfg < s.effort cfg := by
  rw [effort_of_current h_current]
  have h_stage' := h_layout.stage
  -- A flush that goes on with the same launch jobs and records has less to do itself.
  have h_on (f₁ : Flush C) (h_f₁ : s'.current = some f₁) (h_lane : s'.lane = s.lane)
      (h_backlog : s'.backlog = s.backlog) (h_less : f₁.effort cfg < f.effort cfg) :
      s'.effort cfg < f.effort cfg + s.laneEffort + 3 * s.backlog.length := by
    rw [effort_of_current h_f₁, h_backlog, laneEffort, h_lane, ← laneEffort]
    omega
  have h_ends (h_idle : s'.current = none) :
      s'.effort cfg < f.effort cfg + s.laneEffort + 3 * s.backlog.length := by
    have h_pos := f.effort_pos cfg
    rw [effort_of_idle h_idle]
    omega
  cases h with
  | schedules h_stage =>
    refine h_on _ rfl rfl rfl ?_
    simp only [Flush.effort, Flush.requested, Report.count, h_stage, List.length_cons]
    omega
  | shares h_stage | reuses h_stage =>
    refine h_on _ rfl rfl rfl ?_
    simp only [Flush.effort, Flush.requested, Report.count, h_stage, List.length_cons]
    omega
  | beginsJoin h_stage =>
    refine h_on _ rfl rfl rfl ?_
    have h_keys : f.keys.length = f.batch.length := by
      simp only [StageLayout, h_stage, List.map_nil, List.append_nil] at h_stage'
      rw [h_stage'.2.2, List.length_map]
    cases h_pipelined : cfg.pipelined with
    | true =>
      simp only [Flush.effort, Flush.joinFrom, h_stage, h_pipelined, if_true, Join.effort,
        Join.missing, List.length_nil, Bool.false_eq_true, if_false]
      omega
    | false =>
      simp only [Flush.effort, Flush.joinFrom, h_stage, h_pipelined, Join.effort,
        Join.missing, List.length_nil, Bool.false_eq_true, if_false]
      omega
  | @submits key rest r backlog h_stage h_backlog =>
    -- The record is a launch job now, and counts as much as before.
    rw [effort_of_current (s := { s with
      backlog := backlog
      lane := s.lane ++ [f.launchJob cfg r key rest]
      current := some { f with stage := .submitting rest } }) rfl]
    have h_lane : laneEffort { s with
        backlog := backlog
        lane := s.lane ++ [f.launchJob cfg r key rest]
        current := some { f with stage := .submitting rest } } = s.laneEffort + 3 := by
      simp [laneEffort, Flush.launchJob, LaunchPhase.effort]
    rw [h_lane, h_backlog, List.length_cons]
    have h_less : Flush.effort cfg { f with stage := .submitting rest } < f.effort cfg := by
      simp only [Flush.effort, h_stage, List.length_cons]
      split <;> omega
    simp only
    omega
  | submitsNothing h_stage h_backlog => simp [StageLayout, h_stage, h_backlog] at h_stage'
  | joins h_stage h_pipelined =>
    refine h_on _ rfl rfl rfl ?_
    simp only [Flush.effort, h_stage, h_pipelined, if_true]
    omega
  | drains h_stage h_pipelined =>
    refine h_on _ rfl rfl rfl ?_
    simp only [Flush.effort, h_stage, h_pipelined, Bool.false_eq_true, if_false]
    omega
  | polls h_stage h_over h_poll =>
    refine h_on _ rfl rfl rfl ?_
    have h_less := join_effort_lt h_counted h_stage h_over h_poll
    simp only [Flush.effort, h_stage]
    split <;> omega
  | drainsJoined h_stage h_over h_pipelined =>
    refine h_on _ rfl rfl rfl ?_
    simp only [Flush.effort, h_stage, h_pipelined, if_true]
    omega
  | submitsJoined h_stage h_over h_pipelined =>
    refine h_on _ rfl rfl rfl ?_
    have h_keys : f.keys.length = f.batch.length := by
      simp only [StageLayout, h_stage] at h_stage'
      rw [h_stage'.1, List.length_map]
    simp only [Flush.effort, h_stage, h_pipelined, Bool.false_eq_true, if_false]
    omega
  | unwinds | abandons | succeeds | fails => exact h_ends rfl

/-! ## All moves -/

/-- A flush that has received an outcome of a launch job has as much to do as before. -/
theorem posted_effort (current : Option (Flush C)) (job : LaunchJob C) (outcome : Outcome) :
    (posted current job outcome).map (Flush.effort cfg) = current.map (Flush.effort cfg) := by
  simp only [posted, Option.map_map]
  congr 1
  funext f
  simp only [Function.comp]
  split <;> rfl

/-- Every move of the launch thread takes the effort down, unless it ends the process. -/
theorem LauncherStep.effort_lt {job : LaunchJob C} {rest : List (LaunchJob C)}
    (h_onPanic : cfg.onPanic ≠ .abort) (h_current : s.current = some f)
    (h_lane : s.lane = job :: rest) (h : LauncherStep cfg env s job rest s' es) :
    s'.effort cfg < s.effort cfg := by
  obtain ⟨h_backlog, -, -⟩ := h.plan
  -- The caller has as much to do as before, and the lane has less.
  have h_less (h_same : s'.current.map (Flush.effort cfg) = s.current.map (Flush.effort cfg))
      (h_lane' : s'.laneEffort < s.laneEffort) : s'.effort cfg < s.effort cfg := by
    rw [h_current] at h_same
    obtain ⟨f', h_f', h_effort⟩ := Option.map_eq_some_iff.1 h_same
    rw [effort_of_current h_current, effort_of_current h_f', h_backlog, h_effort]
    omega
  have h_first : s.laneEffort = job.phase.effort + (rest.map (·.phase.effort)).sum := by
    rw [laneEffort, h_lane, List.map_cons, List.sum_cons]
  cases h with
  | waits h_phase | finds h_phase =>
    refine h_less rfl ?_
    rw [h_first, h_phase]
    simp only [laneEffort, List.map_cons, List.sum_cons, LaunchPhase.effort]
    omega
  | overflows h_phase | mutes h_phase | expires h_phase | loses h_phase =>
    refine h_less rfl ?_
    rw [h_first, h_phase]
    simp only [laneEffort, LaunchPhase.effort]
    omega
  | misses h_phase | completes h_phase | panics h_phase =>
    refine h_less (posted_effort _ _ _) ?_
    rw [h_first, h_phase]
    simp only [laneEffort, LaunchPhase.effort]
    omega
  | aborts _ _ h_abort => exact absurd h_abort h_onPanic

/-- A compile worker leaves the effort as it is. -/
theorem WorkerStep.effort_eq {worker : Nat} {job : CompileJob C}
    (h : WorkerStep cfg env s worker job s' es) : s'.effort cfg = s.effort cfg := by
  have h_plan := h.samePlan
  have h_current : s'.current.map (Flush.effort cfg) = s.current.map (Flush.effort cfg) := by
    cases h with
    | reports =>
      simp only [finishJob, dropJob, report, updateFlush, Option.map_map]
      congr 1
      funext f
      simp only [Function.comp]
      split <;> rfl
    | _ => rfl
  cases h_f : s.current with
  | none =>
    rw [h_f, Option.map_none, Option.map_eq_none_iff] at h_current
    rw [effort_of_idle h_f, effort_of_idle h_current]
  | some f =>
    rw [h_f] at h_current
    obtain ⟨f', h_f', h_effort⟩ := Option.map_eq_some_iff.1 h_current
    rw [effort_of_current h_f, effort_of_current h_f', h_effort, h_plan.backlog, laneEffort,
      h_plan.lane, laneEffort]

/-- A move of the caller or of the launch thread takes the effort down, and no other one takes it
up. -/
theorem Transition.effort_le {m : Move C} (h_onPanic : cfg.onPanic ≠ .abort)
    (h_layout : Layout cfg s) (h_counted : ∀ f, s.current = some f → Counted s fs f)
    (h_noCall : m.isCall = false) (h : Transition cfg env s m s' es) :
    s'.effort cfg + (if m.isOwn then 1 else 0) ≤ s.effort cfg := by
  cases h with
  | enqueue | dropArtifacts | returns | begins => simp [Move.isCall] at h_noCall
  | caller h_current h_step =>
    exact h_step.effort_lt h_current (h_counted _ h_current) (h_layout.inFlush _ h_current)
  | launcher h_lane h_step =>
    obtain ⟨f, h_f⟩ := h_layout.exists_flush h_lane
    exact h_step.effort_lt h_onPanic h_f h_lane
  | worker h_running h_job h_step => exact Nat.le_of_eq h_step.effort_eq
  | pick | tick => exact Nat.le_refl _

/-- In every run of a flush, the moves made by the caller and the launch thread and those still to
be made are no more than at its beginning. -/
theorem effort_of_run {threads : Nat} {now : Moment} {ms₀ ms : List (Move C)}
    {es₀ es : List (Stamped C)} (h_onPanic : cfg.onPanic ≠ .abort)
    (h_before : run cfg env (start threads now) ms₀ = some (s, es₀))
    (h_run : run cfg env s ms = some (t, es)) (h_noCall : ∀ m ∈ ms, m.isCall = false) :
    ms.countP Move.isOwn + t.effort cfg ≤ s.effort cfg := by
  refine run_induction (P := fun ms t _ => (∀ m ∈ ms, m.isCall = false) →
    ms.countP Move.isOwn + t.effort cfg ≤ s.effort cfg) (by simp) ?_ h_run h_noCall
  intro ms m t es u fs h_prefix _ h_le h_step h_noCall
  have h_whole := run_append.2 ⟨s, es₀, es, h_before, h_prefix, rfl⟩
  have h_rest := h_le fun m h_m => h_noCall m (List.mem_append_left _ h_m)
  have h_last := h_step.effort_le h_onPanic (layout_of_run h_whole) (counted_of_run h_whole)
    (h_noCall m (by simp))
  rw [List.countP_append, List.countP_singleton]
  omega

/-- A process whose panics do not end it goes on. -/
theorem Transition.aborted_eq {m : Move C} (h_onPanic : cfg.onPanic ≠ .abort)
    (h : Transition cfg env s m s' es) : s'.aborted = s.aborted := by
  cases h with
  | caller h_current h_step => cases h_step <;> rfl
  | worker h_running h_job h_step =>
    cases h_step with
    | aborts _ _ h_abort => exact absurd h_abort h_onPanic
    | _ => rfl
  | launcher h_lane h_step =>
    cases h_step with
    | aborts _ _ h_abort => exact absurd h_abort h_onPanic
    | _ => rfl
  | _ => rfl

theorem alive_of_run {threads : Nat} {now : Moment} {ms : List (Move C)}
    {es : List (Stamped C)} (h_onPanic : cfg.onPanic ≠ .abort)
    (h_run : run cfg env (start threads now) ms = some (t, es)) : t.aborted = false := by
  refine run_induction (P := fun _ t _ => t.aborted = false) rfl ?_ h_run
  intro ms m t es u fs _ _ h_alive h_step
  rw [h_step.aborted_eq h_onPanic]
  exact h_alive

/-! ## Nobody waits for ever -/

/-- Whether the caller or the launch thread can move after some time. -/
def GoesOn (cfg : Settings) (env : Environment C) (s : State C) : Prop :=
  ∃ nanos m s' es, m.isOwn = true ∧ Transition cfg env { s with now := s.now + nanos } m s' es

theorem GoesOn.of_caller (nanos : Nat) (h_current : s.current = some f)
    (h : CallerStep cfg env { s with now := s.now + nanos } f s' es) : GoesOn cfg env s :=
  ⟨nanos, .caller, s', es, rfl, .caller h_current h⟩

theorem GoesOn.of_launcher (nanos : Nat) {job : LaunchJob C} {rest : List (LaunchJob C)}
    (h_lane : s.lane = job :: rest)
    (h : LauncherStep cfg env { s with now := s.now + nanos } job rest s' es) : GoesOn cfg env s :=
  ⟨nanos, .launcher, s', es, rfl, .launcher h_lane h⟩

/-- The launch thread goes on at the latest when its job has waited until its deadline. -/
theorem goesOn_of_lane {job : LaunchJob C} {rest : List (LaunchJob C)}
    (h_lane : s.lane = job :: rest) : GoesOn cfg env s := by
  cases h_phase : job.phase with
  | queued => exact .of_launcher 0 h_lane (beginWait_step h_lane h_phase)
  | holding since artifact =>
    exact .of_launcher 0 h_lane (runFirst_step h_lane h_phase)
  | waiting since deadline =>
    by_cases h_ready : ∃ artifact, s.store.slot? job.key = some (.ready artifact)
    · obtain ⟨artifact, h_slot⟩ := h_ready
      exact .of_launcher 0 h_lane (.finds h_phase h_slot)
    · refine .of_launcher deadline h_lane (failFirst_step h_lane h_phase ?_ ?_)
      · exact fun artifact h_slot => h_ready ⟨artifact, h_slot⟩
      · exact fun _ => Nat.le_add_left _ _

/-- The caller goes on at the latest at the end of its wait, unless it has to wait for the launch
thread. -/
theorem goesOn_of_flush (cfg : Settings) (env : Environment C) (h_current : s.current = some f) :
    GoesOn cfg env s := by
  cases h_stage : f.stage with
  | requesting rest =>
    cases rest with
    | nil => exact .of_caller 0 h_current (beginJoin_step h_stage)
    | cons r rest => exact .of_caller 0 h_current (requestOne_step h_stage)
  | submitting rest =>
    cases rest with
    | cons key rest => exact .of_caller 0 h_current (submitOne_step h_stage)
    | nil =>
      cases h_pipelined : cfg.pipelined with
      | true => exact .of_caller 0 h_current (.joins h_stage h_pipelined)
      | false => exact .of_caller 0 h_current (.drains h_stage h_pipelined)
  | joining =>
    cases h_over : f.join.isOver with
    | true => exact .of_caller 0 h_current (afterJoin_step h_stage h_over)
    | false =>
      -- By then the poll shows an outcome, or that there will be none, or that it is too late.
      have h_poll : ∃ found inbox, Polled.poll f.inbox (s.hasReporter f.number) f.joinStart
          f.joinDeadline (s.now + f.joinDeadline) = some (found, inbox) := by
        unfold Polled.poll
        split
        · exact ⟨_, _, rfl⟩
        · split
          · exact ⟨_, _, rfl⟩
          · rw [if_pos (Nat.le_add_left _ _)]
            exact ⟨_, _, rfl⟩
      obtain ⟨found, inbox, h_poll⟩ := h_poll
      exact .of_caller f.joinDeadline h_current (.polls h_stage h_over h_poll)
  | draining =>
    cases h_lane : s.lane with
    | nil => exact .of_caller 0 h_current (conclude_step h_stage h_lane)
    | cons job rest => exact goesOn_of_lane h_lane

/-- From every state of a flush there is a run to its end. -/
theorem exists_run_to_end {threads : Nat} {now : Moment} {ms₀ : List (Move C)}
    {es₀ : List (Stamped C)} (h_onPanic : cfg.onPanic ≠ .abort)
    (h_before : run cfg env (start threads now) ms₀ = some (s, es₀)) :
    ∃ ms t es, run cfg env s ms = some (t, es) ∧ (∀ m ∈ ms, m.isCall = false) ∧
      t.current = none := by
  -- By induction on the effort: as long as the flush goes on, there is a move that takes it down.
  induction h_effort : s.effort cfg using Nat.strongRecOn generalizing s ms₀ es₀ with
  | ind n ih =>
    cases h_current : s.current with
    | none => exact ⟨[], s, [], rfl, by simp, h_current⟩
    | some f =>
      obtain ⟨nanos, m, s', fs, h_own, h_step⟩ := goesOn_of_flush cfg env h_current
      have h_alive := alive_of_run h_onPanic h_before
      have h_two : run cfg env s [.tick nanos, m] =
          some (s', stamp (s.now + nanos) fs) := by
        refine run_cons.2 ⟨{ s with now := s.now + nanos }, [], _, ?_, run_cons.2 ⟨s', _, [], ?_,
          rfl, (List.append_nil _).symm⟩, rfl⟩
        · exact step_eq_some_iff.2 ⟨h_alive, [], .tick, rfl⟩
        · exact step_eq_some_iff.2 ⟨h_alive, fs, h_step, rfl⟩
      have h_noCall : ∀ m' ∈ [.tick nanos, m], m'.isCall = false := by
        intro m' h_m'
        rcases List.mem_pair.1 h_m' with rfl | rfl
        · rfl
        · cases m' <;> simp_all [Move.isOwn, Move.isCall]
      have h_less := effort_of_run h_onPanic h_before h_two h_noCall
      have h_one : 0 < [.tick nanos, m].countP Move.isOwn :=
        List.countP_pos_iff.2 ⟨m, by simp, h_own⟩
      have h_reached := run_append.2 ⟨s, es₀, _, h_before, h_two, rfl⟩
      obtain ⟨ms, t, es, h_run, h_rest, h_idle⟩ :=
        ih (s'.effort cfg) (by omega) h_reached rfl
      refine ⟨[.tick nanos, m] ++ ms, t, _, run_append.2 ⟨s', _, es, h_two, h_run, rfl⟩, ?_, h_idle⟩
      intro m' h_m'
      rcases List.mem_append.1 h_m' with h_m' | h_m'
      · exact h_noCall m' h_m'
      · exact h_rest m' h_m'

/-! ## How a call ends -/

/-- Induction along a call of `flush`: what holds after its first move and is kept by all others
holds at every moment of the call. -/
theorem flush_induction {P : List (Move C) → State C → List (Stamped C) → Prop}
    {ms : List (Move C)} {es : List (Stamped C)}
    (h_run : run cfg env s (.flush :: ms) = some (t, es))
    (h_noCall : ∀ m ∈ ms, m.isCall = false)
    (h_first : ∀ u fs, Transition cfg env s .flush u fs → P [] u (stamp s.now fs))
    (h_next : ∀ ms m t es u fs, run cfg env s (.flush :: ms) = some (t, es) →
      (∀ m ∈ ms, m.isCall = false) → m.isCall = false → t.aborted = false → P ms t es →
      Transition cfg env t m u fs → P (ms ++ [m]) u (es ++ stamp t.now fs)) :
    P ms t es := by
  obtain ⟨s₁, _, es₁, h_begins, h_rest, rfl⟩ := run_cons.1 h_run
  obtain ⟨-, fs, h_flush, rfl⟩ := step_eq_some_iff.1 h_begins
  refine run_induction
    (P := fun ms t es => (∀ m ∈ ms, m.isCall = false) → P ms t (stamp s.now fs ++ es))
    (fun _ => ?_) ?_ h_rest h_noCall
  · rw [List.append_nil]
    exact h_first s₁ fs h_flush
  · intro ms m t es u fs' h_prefix h_alive h_before h_step h_noCall
    have h_past (m' : Move C) (h_m' : m' ∈ ms) : m'.isCall = false :=
      h_noCall m' (List.mem_append_left _ h_m')
    have h_call := run_cons.2 ⟨s₁, _, es, h_begins, h_prefix, rfl⟩
    rw [← List.append_assoc]
    exact h_next ms m t _ u fs' h_call h_past (h_noCall m (by simp)) h_alive (h_before h_past)
      h_step

/-- How a call of `flush` that began in the state `s` has ended: it has returned, with nothing left
enqueued, or it has panicked, and everything is enqueued as it was. -/
inductive Ended (s t : State C) (es : List (Event C)) : Prop where
  | returned (result : Except Failure Report) (h_answers : answers es = [.returned result])
      (h_backlog : t.backlog = [])
  | unwound (h_answers : answers es = [.unwound overflowMessage])
      (h_backlog : t.backlog = s.backlog)

/-- Where a call of `flush` stands that began in the state `s`: the flush of all records enqueued
goes on, or it has ended. -/
inductive Called (s t : State C) (es : List (Event C)) : Prop where
  | goesOn {f : Flush C} (h_current : t.current = some f) (h_number : f.number = s.flushes + 1)
      (h_batch : f.batch = s.backlog) (h_answers : answers es = [])
  | ends (h_idle : t.current = none) (h_ended : Ended s t es)

/-- A move that leaves the flush in progress gives no answer; one that ends it gives one. -/
theorem CallerStep.called {s₀ : State C} (h_layout : FlushLayout cfg s f)
    (h_number : f.number = s₀.flushes + 1) (h_batch : f.batch = s₀.backlog)
    (h_answers : answers fs = []) (h : CallerStep cfg env s f s' es) :
    Called s₀ s' (fs ++ es) := by
  have h_on (f₁ : Flush C) (h_f₁ : s'.current = some f₁) (h_same : f₁.number = f.number)
      (h_records : f₁.batch = f.batch) (h_quiet : ∀ e ∈ es, e.isAnswer = false) :
      Called s₀ s' (fs ++ es) := by
    refine .goesOn h_f₁ (h_same.trans h_number) (h_records.trans h_batch) ?_
    rw [answers_append, h_answers, answers_of_quiet h_quiet, List.append_nil]
  have h_returns (result : Except Failure Report) (h_idle : s'.current = none)
      (h_empty : s'.backlog = []) (h_last : answers es = [.returned result]) :
      Called s₀ s' (fs ++ es) := by
    refine .ends h_idle (.returned result ?_ h_empty)
    rw [answers_append, h_answers, h_last, List.nil_append]
  cases h with
  | schedules | shares | reuses =>
    refine h_on _ rfl rfl rfl ?_
    simp only [List.mem_append, List.mem_map, List.mem_singleton]
    rintro e (⟨_, -, rfl⟩ | rfl) <;> rfl
  | unwinds h_stage =>
    have h_stage' := h_layout.stage
    simp only [StageLayout, h_stage] at h_stage'
    refine .ends rfl (.unwound ?_ (h_stage'.2.1.trans h_batch))
    rw [answers_append, h_answers]
    rfl
  | abandons => exact h_returns _ rfl rfl rfl
  | succeeds => exact h_returns _ rfl rfl rfl
  | fails => exact h_returns _ rfl rfl rfl
  | _ => exact h_on _ rfl rfl rfl (by simp [Event.isAnswer, joinedEvent])

/-- The compile workers and the launch thread leave a call as it is. -/
theorem Called.of_outline_eq {s₀ : State C} (h : Called s₀ s fs)
    (h_backlog : s'.backlog = s.backlog)
    (h_current : s'.current.map Flush.outline = s.current.map Flush.outline)
    (h_quiet : ∀ e ∈ es, e.isAnswer = false) : Called s₀ s' (fs ++ es) := by
  have h_same : answers (fs ++ es) = answers fs := by
    rw [answers_append, answers_of_quiet h_quiet, List.append_nil]
  cases h with
  | goesOn h_f h_number h_batch h_answers =>
    obtain ⟨f', h_f', h_outline⟩ := exists_flush_of_outline_eq h_current.symm h_f
    have h_number' : _ = f'.number := congrArg (fun g => g.number) h_outline
    have h_batch' : _ = f'.batch := congrArg (fun g => g.batch) h_outline
    exact .goesOn h_f' (h_number'.symm.trans h_number) (h_batch'.symm.trans h_batch)
      (h_same.trans h_answers)
  | ends h_idle h_ended =>
    rw [h_idle, Option.map_none, Option.map_eq_none_iff] at h_current
    refine .ends h_current ?_
    cases h_ended with
    | returned result h_answers h_empty =>
      exact .returned result (h_same.trans h_answers) (h_backlog.trans h_empty)
    | unwound h_answers h_kept => exact .unwound (h_same.trans h_answers) (h_backlog.trans h_kept)

theorem Transition.called {m : Move C} {s₀ : State C} (h : Called s₀ s fs)
    (h_layout : Layout cfg s) (h_noCall : m.isCall = false)
    (h_step : Transition cfg env s m s' es) : Called s₀ s' (fs ++ es) := by
  cases h_step with
  | enqueue | dropArtifacts | returns | begins => simp [Move.isCall] at h_noCall
  | caller h_current h_step =>
    cases h with
    | goesOn h_f h_number h_batch h_answers =>
      obtain rfl := Option.some.inj (h_current.symm.trans h_f)
      exact h_step.called (h_layout.inFlush _ h_current) h_number h_batch h_answers
    | ends h_idle => simp [h_idle] at h_current
  | pick | tick => exact h.of_outline_eq rfl rfl (by simp)
  | worker h_running h_job h_step =>
    refine h.of_outline_eq h_step.samePlan.backlog h_step.samePlan.current ?_
    cases h_step <;> simp [Event.isAnswer]
  | launcher h_lane h_step =>
    refine h.of_outline_eq h_step.plan.1 h_step.plan.2.2 ?_
    cases h_step <;> simp [Event.isAnswer]

/-- A call of `flush` that has just begun. -/
theorem called_of_flush (h_layout : Layout cfg s) (h : Transition cfg env s .flush s' es) :
    Called s s' es ∧ s'.effort cfg ≤ 6 * s.backlog.length + 5 := by
  cases h with
  | returns h_idle h_empty =>
    refine ⟨.ends h_idle (.returned _ rfl h_empty), ?_⟩
    rw [effort_of_idle h_idle]
    exact Nat.zero_le _
  | begins h_idle h_some =>
    refine ⟨.goesOn rfl rfl rfl rfl, ?_⟩
    rw [effort_of_current (f := s.firstFlush) rfl]
    simp only [laneEffort, h_layout.idle h_idle, List.map_nil, List.sum_nil, Flush.effort,
      firstFlush]
    omega

theorem called_of_run {ms : List (Move C)} {es : List (Stamped C)} (h_layout : Layout cfg s)
    (h_run : run cfg env s (.flush :: ms) = some (t, es))
    (h_noCall : ∀ m ∈ ms, m.isCall = false) : Called s t (history es) := by
  have h_both : Layout cfg t ∧ Called s t (history es) := by
    refine flush_induction (P := fun _ t es => Layout cfg t ∧ Called s t (history es))
      h_run h_noCall ?_ ?_
    · intro u fs h_flush
      rw [history_stamp]
      exact ⟨h_flush.layout h_layout, (called_of_flush h_layout h_flush).1⟩
    · rintro ms m t es u fs - - h_noCall - ⟨h_layout, h_called⟩ h_step
      rw [history_append, history_stamp]
      exact ⟨h_step.layout h_layout, h_step.called h_called h_layout h_noCall⟩
  exact h_both.2

/-- The flush in progress during a call is the one that the call has begun. -/
theorem number_of_call {ms : List (Move C)} {es : List (Stamped C)} (h_layout : Layout cfg s)
    (h_run : run cfg env s (.flush :: ms) = some (t, es))
    (h_noCall : ∀ m ∈ ms, m.isCall = false) (h_f : t.current = some f) :
    f.number = s.flushes + 1 ∧ f.batch = s.backlog := by
  cases called_of_run h_layout h_run h_noCall with
  | goesOn h_f' h_number h_batch =>
    obtain rfl := Option.some.inj (h_f'.symm.trans h_f)
    exact ⟨h_number, h_batch⟩
  | ends h_idle => simp [h_f] at h_idle

/-- A call that goes on has given no answer. -/
theorem unanswered_of_call {ms : List (Move C)} {es : List (Stamped C)} (h_layout : Layout cfg s)
    (h_run : run cfg env s (.flush :: ms) = some (t, es))
    (h_noCall : ∀ m ∈ ms, m.isCall = false) (h_f : t.current = some f) :
    answers (history es) = [] := by
  cases called_of_run h_layout h_run h_noCall with
  | goesOn _ _ _ h_answers => exact h_answers
  | ends h_idle => simp [h_f] at h_idle

/-- A call that has not returned is about some records. -/
theorem backlog_ne_nil_of_call {ms : List (Move C)} {es : List (Stamped C)}
    (h_layout : Layout cfg s) (h_run : run cfg env s (.flush :: ms) = some (t, es))
    (h_noCall : ∀ m ∈ ms, m.isCall = false) (h_f : t.current = some f) : s.backlog ≠ [] := by
  intro h_empty
  have h_answers := unanswered_of_call h_layout h_run h_noCall h_f
  obtain ⟨_, _, es₁, h_begins, -, rfl⟩ := run_cons.1 h_run
  obtain ⟨-, fs, h_flush, rfl⟩ := step_eq_some_iff.1 h_begins
  cases h_flush with
  | returns =>
    rw [history_append, answers_append] at h_answers
    exact absurd (List.append_eq_nil_iff.1 h_answers).1 (List.cons_ne_nil _ _)
  | begins _ h_some => exact h_some h_empty

/-- Only a call begins a flush. -/
theorem Transition.idle_of_noCall {m : Move C} (h_idle : s.current = none)
    (h_noCall : m.isCall = false) (h_step : Transition cfg env s m s' es) : s'.current = none := by
  cases h_step with
  | enqueue | dropArtifacts | returns | begins => simp [Move.isCall] at h_noCall
  | caller h_current => simp [h_idle] at h_current
  | pick | tick => exact h_idle
  | worker h_running h_job h_step =>
    have h_current := h_step.samePlan.current
    rwa [h_idle, Option.map_none, Option.map_eq_none_iff] at h_current
  | launcher h_lane h_step =>
    have h_current := h_step.plan.2.2
    rwa [h_idle, Option.map_none, Option.map_eq_none_iff] at h_current

/-- Between flushes no launch job comes to its end. -/
theorem Transition.quiet_of_idle {m : Move C} (h_layout : Layout cfg s) (h_idle : s.current = none)
    (h_step : Transition cfg env s m s' es) : ∀ e ∈ es, e.isLaunch = false := by
  cases h_step with
  | caller h_current => simp [h_idle] at h_current
  | launcher h_lane => simp [h_layout.idle h_idle] at h_lane
  | worker h_running h_job h_step => exact h_step.quiet
  | _ => simp [Event.isLaunch]

/-- A dispatcher that is stuck does not return from a flush. -/
theorem Transition.noReturn_of_stuck {m : Move C} (h : Stuck cfg s) (h_noCall : m.isCall = false)
    (h_step : Transition cfg env s m s' es) (result : Except Failure Report) :
    Event.returned result ∉ es := by
  intro h_returned
  cases h_step with
  | enqueue | dropArtifacts | returns | begins => simp [Move.isCall] at h_noCall
  | caller h_current h_step =>
    obtain ⟨rest, h_requesting⟩ := h.requesting _ h_current
    cases h_step with
    | abandons h_stage | succeeds h_stage | fails h_stage =>
      exact absurd (h_stage.symm.trans h_requesting) (by simp)
    | schedules | shares | reuses => simp at h_returned
    | _ => simp [joinedEvent] at h_returned
  | worker h_running h_job h_step => cases h_step <;> simp at h_returned
  | launcher h_lane => simp [h.lane] at h_lane
  | pick | tick => simp at h_returned

theorem noReturn_of_stuck {ms : List (Move C)} {es : List (Stamped C)} (h : Stuck cfg s)
    (h_noCall : ∀ m ∈ ms, m.isCall = false) (h_run : run cfg env s ms = some (t, es))
    (result : Except Failure Report) : Event.returned result ∉ history es := by
  have h_both : Stuck cfg t ∧ Event.returned result ∉ history es := by
    refine history_induction (P := fun ms t es => (∀ m ∈ ms, m.isCall = false) →
      Stuck cfg t ∧ Event.returned result ∉ es) (fun _ => ⟨h, by simp⟩) ?_ h_run h_noCall
    intro ms m t es u fs _ _ h_before h_step h_noCall
    obtain ⟨h_stuck, h_none⟩ := h_before fun m h_m => h_noCall m (List.mem_append_left _ h_m)
    refine ⟨h_step.stuck h_stuck, fun h_returned => ?_⟩
    rcases List.mem_append.1 h_returned with h_old | h_new
    · exact h_none h_old
    · exact h_step.noReturn_of_stuck h_stuck (h_noCall m (by simp)) result h_new
  exact h_both.2

/-- If panics do not end the process, a call of `flush` takes a bounded number of moves of the
caller and the launch thread, it can always go on to its end, and in the end it has given exactly
one answer. It returns with nothing enqueued if the clock can represent the end of the wait for
the compile jobs, and it panics and keeps its records if the clock cannot. -/
theorem flush_ends {threads : Nat} {now : Moment} {ms₀ ms : List (Move C)}
    {es₀ es : List (Stamped C)} (h_onPanic : cfg.onPanic ≠ .abort)
    (h_before : run cfg env (start threads now) ms₀ = some (s, es₀))
    (h_run : run cfg env s (.flush :: ms) = some (t, es))
    (h_noCall : ∀ m ∈ ms, m.isCall = false) :
    ms.countP Move.isOwn ≤ 6 * s.backlog.length + 5 ∧
    (∃ ms' u fs, run cfg env t ms' = some (u, fs) ∧ (∀ m ∈ ms', m.isCall = false) ∧
      u.current = none) ∧
    (t.current = none → Ended s t (history es)) ∧
    (t.current = none → cfg.compilePatience.deadline? t.now ≠ none →
      (∃ result, answers (history es) = [.returned result]) ∧ t.backlog = []) ∧
    (t.current = none → s.backlog ≠ [] → cfg.compilePatience.deadline? s.now = none →
      answers (history es) = [.unwound overflowMessage] ∧ t.backlog = s.backlog) := by
  obtain ⟨s₁, fs₁, es₁, h_first, h_rest, rfl⟩ := run_cons.1 h_run
  obtain ⟨h_alive, fs, h_flush, rfl⟩ := step_eq_some_iff.1 h_first
  have h_begun : run cfg env (start threads now) (ms₀ ++ [.flush]) =
      some (s₁, es₀ ++ stamp s.now fs) :=
    run_concat.2 ⟨s, es₀, fs, h_before, h_alive, h_flush, rfl⟩
  have h_whole : run cfg env (start threads now) (ms₀ ++ .flush :: ms) = some (t, _) :=
    run_append.2 ⟨s, es₀, _, h_before, h_run, rfl⟩
  have h_layout := layout_of_run h_before
  obtain ⟨-, h_effort₁⟩ := called_of_flush h_layout h_flush
  have h_ended (h_idle : t.current = none) : Ended s t (history (stamp s.now fs ++ es₁)) := by
    cases called_of_run h_layout h_run h_noCall with
    | goesOn h_current => simp [h_idle] at h_current
    | ends _ h_ended => exact h_ended
  refine ⟨?_, exists_run_to_end h_onPanic h_whole, h_ended, ?_, ?_⟩
  · have h_effort := effort_of_run h_onPanic h_begun h_rest h_noCall
    omega
  · intro h_idle h_clock
    cases h_ended h_idle with
    | returned result h_answers h_backlog => exact ⟨⟨result, h_answers⟩, h_backlog⟩
    | unwound h_answers =>
      -- What the clock could not represent then, it cannot represent now.
      have h_unwound : Event.unwound overflowMessage ∈ history (stamp s.now fs ++ es₁) :=
        (mem_answers.1 (h_answers ▸ List.mem_singleton_self _)).1
      have h_stuck := stuck_of_run h_whole (by
        rw [history_append]
        exact List.mem_append_right _ h_unwound)
      exact absurd h_stuck.clock h_clock
  · intro h_idle h_some h_clock
    cases h_ended h_idle with
    | unwound h_answers h_backlog => exact ⟨h_answers, h_backlog⟩
    | returned result h_answers =>
      have h_returned : Event.returned result ∈ history (stamp s.now fs ++ es₁) :=
        (mem_answers.1 (h_answers ▸ List.mem_singleton_self _)).1
      rw [history_append, history_stamp] at h_returned
      cases h_flush with
      | returns _ h_empty => exact absurd h_empty h_some
      | begins h_none =>
        have h_stuck : Stuck cfg { s with
            flushes := s.flushes + 1
            current := some s.firstFlush } := by
          refine ⟨h_clock, (layout_of_run h_before).idle h_none, ?_⟩
          rintro f ⟨rfl⟩
          exact ⟨_, rfl⟩
        rcases List.mem_append.1 h_returned with h_now | h_later
        · simp at h_now
        · exact absurd h_later (noReturn_of_stuck h_stuck h_noCall h_rest result)

/-- The moves of a flush of one record after its call. -/
def soleFlush : List (Move Nat) :=
  [List.replicate 2 .caller, [.pick (.takeShared 0 0)], List.replicate 4 (.worker 0),
    List.replicate 4 .caller, List.replicate 3 .launcher, [.caller]].flatten

theorem one_record_returned :
    ∃ s es₀ t es, run {} adding (start 1 0) [.enqueue ⟨0, "k", "a"⟩] = some (s, es₀) ∧
      run {} adding s (.flush :: soleFlush) = some (t, es) ∧
      soleFlush.countP Move.isOwn ≤ 6 * s.backlog.length + 5 ∧
      (∃ result, answers (history es) = [.returned result]) ∧ t.backlog = [] := by
  have h_summary : ((run {} adding (start 1 0) [.enqueue ⟨0, "k", "a"⟩]).bind fun r₀ =>
      (run {} adding r₀.1 (.flush :: soleFlush)).map fun r =>
        (r.1.now, r.1.current.isNone)) = some (0, true) := rfl
  obtain ⟨⟨s, es₀⟩, h_before, h_later⟩ := Option.bind_eq_some_iff.1 h_summary
  obtain ⟨⟨t, es⟩, h_run, h_eq⟩ := Option.map_eq_some_iff.1 h_later
  obtain ⟨h_now, h_idle⟩ := Prod.mk.inj h_eq
  have h_idle : t.current = none := Option.isNone_iff_eq_none.1 h_idle
  have h_clock : (Settings.compilePatience {}).deadline? t.now ≠ none := by
    rw [show t.now = 0 from h_now]
    decide
  have h_onPanic : Settings.onPanic {} ≠ .abort := by decide
  obtain ⟨h_moves, -, -, h_returns, -⟩ := flush_ends h_onPanic h_before h_run (by decide)
  exact ⟨s, es₀, t, es, h_before, h_run, h_moves, h_returns h_idle h_clock⟩

/-- A flush may wait for its compile jobs as long as a span can express. -/
def endlessJoin : Settings where
  compilePatience := .ofSeconds 18446744073709551615

/-- These settings are valid, and panics do not end the process, but a flush of one record panics:
the clock cannot represent the end of its wait. It has given no other answer, and its record stays
enqueued. -/
theorem unwinds_and_keeps_its_records :
    endlessJoin.Valid ∧ endlessJoin.onPanic ≠ .abort ∧
      ∃ t es, run endlessJoin adding (start 1 0)
          [.enqueue ⟨0, "k", "a"⟩, .flush, .caller, .caller] = some (t, es) ∧
        t.current = none ∧ answers (history es) = [.unwound overflowMessage] ∧
        t.backlog ≠ [] := by
  have h_summary : (run endlessJoin adding (start 1 0)
      [.enqueue ⟨0, "k", "a"⟩, .flush, .caller, .caller]).map
        (fun r => (r.1.current.isNone, answers (history r.2), r.1.backlog.length)) =
      some (true, [.unwound overflowMessage], 1) := rfl
  obtain ⟨⟨t, es⟩, h_run, h_eq⟩ := Option.map_eq_some_iff.1 h_summary
  simp only [Prod.mk.injEq] at h_eq
  obtain ⟨h_idle, h_answers, h_length⟩ := h_eq
  refine ⟨by decide, by decide, t, es, h_run, Option.isNone_iff_eq_none.1 h_idle, h_answers, ?_⟩
  intro h_empty
  simp [h_empty] at h_length

end State

end KernelDispatch
