/-
  KernelDispatch.Proofs.LaunchLane.Dispatching

  The launch thread of a dispatcher is a launch lane.

  A dispatcher keeps its launch jobs in one list, of which only the first may have begun.
  Seen as a lane (`laneOf`) that job is the one that runs, the others are in the queue,
  and a caller that waits for its launch jobs has a barrier behind them. Every move of a
  dispatcher comes to some moves of the lane (`Transition.laneMoves`), so every run of
  it is one of a lane that nobody closes and whose thread does not die; the launch jobs end
  in the order in which they were submitted, and a flush goes on as soon as its barrier is
  acknowledged, and no sooner (`lane_of_run`). A launch job that is lost ends with a panic
  whose payload can be dropped: one that takes the thread with it is known to the lane
  only.
-/
import KernelDispatch.Proofs.Flush.History
import KernelDispatch.Proofs.LaunchLane.Barriers

namespace KernelDispatch

variable {C : Type} {cfg : Settings} {env : Environment C}

/-! ## A dispatcher as a lane -/

/-- A launch job as the lane knows it: its flush, and its place there. -/
def LaunchJob.place (job : LaunchJob C) : Nat × Nat :=
  (job.flush, job.seq)

/-- Whether the launch thread has begun with a launch job. -/
def LaunchPhase.hasBegun : LaunchPhase C → Bool
  | queued => false
  | waiting .. | holding .. => true

/-- The launch job that an event ends, with whether it has ended with a panic. -/
def Event.laneEnd? : Event C → Option ((Nat × Nat) × Bool)
  | recordEnded flush seq _ _ _ => some ((flush, seq), false)
  | launchJobLost flush seq => some ((flush, seq), true)
  | _ => none

/-- The launch jobs that have ended. -/
def laneEnds (es : List (Event C)) : List ((Nat × Nat) × Bool) :=
  es.filterMap Event.laneEnd?

@[simp]
theorem laneEnds_nil : laneEnds ([] : List (Event C)) = [] := rfl

@[simp]
theorem laneEnds_append (es fs : List (Event C)) :
    laneEnds (es ++ fs) = laneEnds es ++ laneEnds fs :=
  List.filterMap_append

theorem laneEnds_of_quiet {es : List (Event C)} (h : ∀ e ∈ es, e.isLaunch = false) :
    laneEnds es = [] := by
  refine List.filterMap_eq_nil_iff.2 fun e h_e => ?_
  have h_quiet := h e h_e
  cases e with
  | recordEnded | launchJobLost => simp [Event.isLaunch] at h_quiet
  | _ => rfl

namespace State

variable {s s' t : State C} {f : Flush C} {m : Move C} {ms : List (Move C)} {es : List (Stamped C)}
  {fs : List (Event C)} {ended : List ((Nat × Nat) × Bool)} {n : Nat}

/-- The launch job that the launch thread has begun with. -/
def runningJob? (s : State C) : Option (LaunchJob C) :=
  s.lane.head?.filter fun job => job.phase.hasBegun

/-- The launch jobs that the launch thread has not begun with. -/
def waitingJobs (s : State C) : List (LaunchJob C) :=
  s.lane.filter fun job => !job.phase.hasBegun

/-- Whether the caller waits for the launch jobs of its flush. -/
def atBarrier (s : State C) : Bool :=
  s.current.any fun f => f.stage matches .draining

/-- A dispatcher as a lane on which these jobs have ended and `n` barriers are acknowledged. -/
def laneOf (s : State C) (ended : List ((Nat × Nat) × Bool)) (n : Nat) :
    LaunchLane (Nat × Nat) where
  queue := s.waitingJobs.map (fun job => .job job.place) ++
    if s.atBarrier then [.barrier n] else []
  running := s.runningJob?.map LaunchJob.place
  started := ended.map Prod.fst ++ (s.runningJob?.map LaunchJob.place).toList
  ended := ended
  tickets := n + s.atBarrier.toNat
  acknowledged := List.range n

/-- Only what is in the lane and whether the caller waits for it counts. -/
theorem laneOf_congr (h_lane : s'.lane = s.lane) (h_barrier : s'.atBarrier = s.atBarrier) :
    s'.laneOf ended n = s.laneOf ended n := by
  simp only [laneOf, runningJob?, waitingJobs, h_lane, h_barrier]

theorem atBarrier_of_idle (h_idle : s.current = none) : s.atBarrier = false := by
  rw [atBarrier, h_idle]
  rfl

/-- Messages do not change what the caller waits for. -/
theorem atBarrier_of_outline (h : s'.current.map Flush.outline = s.current.map Flush.outline) :
    s'.atBarrier = s.atBarrier := by
  cases h_current : s'.current with
  | none =>
    rw [h_current, Option.map_none, eq_comm, Option.map_eq_none_iff] at h
    rw [atBarrier_of_idle h_current, atBarrier_of_idle h]
  | some f' =>
    obtain ⟨f, h_f, h_outline⟩ := exists_flush_of_outline_eq h h_current
    have h_outlined : f'.outline.stage = f.outline.stage := congrArg Flush.stage h_outline
    have h_stage : f'.stage = f.stage := h_outlined
    simp only [atBarrier, h_current, h_f, Option.any_some, h_stage]

/-- The launch jobs are the one that has begun and those that have not. -/
theorem lane_eq (h_queued : ∀ job ∈ s.lane.tail, job.phase = .queued) :
    s.runningJob?.toList ++ s.waitingJobs = s.lane := by
  have h_rest (rest : List (LaunchJob C)) (h_rest : ∀ job ∈ rest, job.phase = .queued) :
      rest.filter (fun job => !job.phase.hasBegun) = rest :=
    List.filter_eq_self.2 fun job h_job => by rw [h_rest job h_job]; rfl
  unfold runningJob? waitingJobs
  cases h_lane : s.lane with
  | nil => rfl
  | cons job rest =>
    rw [h_lane] at h_queued
    cases h_begun : job.phase.hasBegun <;>
      simp [Option.filter_some, h_begun, h_rest rest h_queued]

/-! ## The moves of the launch thread -/

/-- The launch thread begins with the first launch job. -/
theorem laneOf_take {job : LaunchJob C} {rest : List (LaunchJob C)} {phase : LaunchPhase C}
    (h_lane : s.lane = job :: rest) (h_waits : job.phase.hasBegun = false)
    (h_lane' : s'.lane = { job with phase := phase } :: rest) (h_begun : phase.hasBegun = true)
    (h_barrier : s'.atBarrier = s.atBarrier) :
    (s.laneOf ended n).step .take = some (s'.laneOf ended n) := by
  simp [LaunchLane.step, LaunchLane.take?, laneOf, runningJob?, waitingJobs, Option.filter_some,
    h_lane, h_lane', h_waits, h_begun, h_barrier, LaunchJob.place]

/-- The launch job that has begun goes on. -/
theorem laneOf_goesOn {job : LaunchJob C} {rest : List (LaunchJob C)} {phase : LaunchPhase C}
    (h_lane : s.lane = job :: rest) (h_begun : job.phase.hasBegun = true)
    (h_lane' : s'.lane = { job with phase := phase } :: rest) (h_begun' : phase.hasBegun = true)
    (h_barrier : s'.atBarrier = s.atBarrier) : s'.laneOf ended n = s.laneOf ended n := by
  simp [laneOf, runningJob?, waitingJobs, Option.filter_some, h_lane, h_lane', h_begun, h_begun',
    h_barrier, LaunchJob.place]

/-- The launch job that has begun ends, with a panic if it is lost. -/
theorem laneOf_finish {job : LaunchJob C} {rest : List (LaunchJob C)} (lost : Bool)
    (h_lane : s.lane = job :: rest) (h_begun : job.phase.hasBegun = true)
    (h_lane' : s'.lane = rest) (h_rest : ∀ job ∈ rest, job.phase = .queued)
    (h_barrier : s'.atBarrier = s.atBarrier) :
    (s.laneOf ended n).step (.finish (.ofPanic lost)) =
      some (s'.laneOf (ended ++ [(job.place, lost)]) n) := by
  have h_none : rest.head?.filter (fun job => job.phase.hasBegun) = none := by
    cases rest with
    | nil => rfl
    | cons next =>
      rw [List.head?_cons, Option.filter_some, h_rest next (List.mem_cons_self ..)]
      rfl
  simp [LaunchLane.step, LaunchLane.finish?, laneOf, runningJob?, waitingJobs, Option.filter_some,
    h_lane, h_lane', h_begun, h_none, h_barrier]

/-! ## The moves of the caller -/

/-- The caller submits a launch job. -/
theorem laneOf_submit {job : LaunchJob C} (h_queued : job.phase = .queued)
    (h_lane' : s'.lane = s.lane ++ [job]) (h_barrier : s.atBarrier = false)
    (h_barrier' : s'.atBarrier = false) :
    (s.laneOf ended n).step (.submit job.place) = some (s'.laneOf ended n) := by
  have h_begun : job.phase.hasBegun = false := by rw [h_queued]; rfl
  have h_running : s'.runningJob? = s.runningJob? := by
    unfold runningJob?
    rw [h_lane']
    cases s.lane with
    | nil => simp [Option.filter_some, h_begun]
    | cons => rfl
  simp [LaunchLane.step, LaunchLane.submit, LaunchLane.refusal?, Except.toOption, laneOf,
    waitingJobs, h_running, h_lane', h_begun, h_barrier, h_barrier']

/-- The caller begins to wait for its launch jobs. -/
theorem laneOf_barrier (h_lane' : s'.lane = s.lane) (h_barrier : s.atBarrier = false)
    (h_barrier' : s'.atBarrier = true) :
    (s.laneOf ended n).step .barrier = some (s'.laneOf ended n) := by
  simp [LaunchLane.step, LaunchLane.barrier, LaunchLane.refusal?, Except.toOption, laneOf,
    runningJob?, waitingJobs, h_lane', h_barrier, h_barrier']

/-- The launch thread gets to the barrier when no launch job is left. -/
theorem laneOf_acknowledge (h_lane : s.lane = []) (h_lane' : s'.lane = [])
    (h_barrier : s.atBarrier = true) (h_barrier' : s'.atBarrier = false) :
    (s.laneOf ended n).step .take = some (s'.laneOf ended (n + 1)) := by
  simp [LaunchLane.step, LaunchLane.take?, laneOf, runningJob?, waitingJobs, h_lane, h_lane',
    h_barrier, h_barrier', List.range_succ]

/-! ## The moves of a dispatcher -/

/-- What a dispatcher does between two states comes to moves of the lane, none of which closes it or
ends its thread. -/
def LaneMoves (s s' : State C) (fs : List (Event C)) : Prop :=
  ∀ ended n, ∃ lms n', LaunchLane.IsOpen lms ∧
    (s.laneOf ended n).run lms = some (s'.laneOf (ended ++ laneEnds fs) n')

theorem LaneMoves.none (h_same : ∀ ended n, s'.laneOf ended n = s.laneOf ended n)
    (h_ends : laneEnds fs = []) : LaneMoves s s' fs := by
  intro ended n
  refine ⟨[], n, by simp [LaunchLane.IsOpen], ?_⟩
  rw [h_ends, List.append_nil, h_same]
  rfl

theorem LaneMoves.still (h_lane : s'.lane = s.lane) (h_barrier : s'.atBarrier = s.atBarrier)
    (h_ends : laneEnds fs = []) : LaneMoves s s' fs :=
  .none (fun _ _ => laneOf_congr h_lane h_barrier) h_ends

theorem LaneMoves.single (lm : LaneMove (Nat × Nat)) (h_open : lm.isLast = false)
    (h : ∀ ended n, ∃ n', (s.laneOf ended n).step lm =
      some (s'.laneOf (ended ++ laneEnds fs) n')) : LaneMoves s s' fs := by
  intro ended n
  obtain ⟨n', h_step⟩ := h ended n
  exact ⟨[lm], n', LaunchLane.isOpen_iff.2 (by simp [h_open]),
    LaunchLane.run_cons_eq_some.2 ⟨_, h_step, rfl⟩⟩

theorem CallerStep.laneMoves (h_f : s.current = some f) (h_step : CallerStep cfg env s f s' fs) :
    LaneMoves s s' fs := by
  have h_ends := laneEnds_of_quiet h_step.quiet
  cases h_step with
  | schedules h_stage | shares h_stage | reuses h_stage =>
    exact .still rfl (by simp [atBarrier, h_f, h_stage, Flush.requested]) h_ends
  | unwinds h_stage | submitsNothing h_stage | joins h_stage | abandons h_stage
  | submitsJoined h_stage =>
    exact .still rfl (by simp [atBarrier, h_f, h_stage, closed]) h_ends
  | beginsJoin h_stage =>
    refine .still rfl ?_ h_ends
    cases h_pipelined : cfg.pipelined <;>
      simp [atBarrier, h_f, h_stage, Flush.joinFrom, h_pipelined]
  | polls h_stage => exact .still rfl (by simp [atBarrier, h_f, h_stage]) h_ends
  | @submits key rest r _ h_stage =>
    refine .single (.submit (f.launchJob cfg r key rest).place) rfl fun ended n => ⟨n, ?_⟩
    rw [h_ends, List.append_nil]
    exact laneOf_submit rfl rfl (by simp [atBarrier, h_f, h_stage]) rfl
  | drains h_stage | drainsJoined h_stage =>
    refine .single .barrier rfl fun ended n => ⟨n, ?_⟩
    rw [h_ends, List.append_nil]
    exact laneOf_barrier rfl (by simp [atBarrier, h_f, h_stage]) rfl
  | succeeds h_stage h_lane | fails h_stage h_lane =>
    refine .single .take rfl fun ended n => ⟨n + 1, ?_⟩
    rw [h_ends, List.append_nil]
    exact laneOf_acknowledge h_lane h_lane (by simp [atBarrier, h_f, h_stage]) rfl

theorem LauncherStep.laneMoves {job : LaunchJob C} {rest : List (LaunchJob C)}
    (h_lane : s.lane = job :: rest) (h_rest : ∀ job ∈ rest, job.phase = .queued)
    (h_step : LauncherStep cfg env s job rest s' fs) : LaneMoves s s' fs := by
  have h_posted (outcome : Outcome) (u : State C)
      (h_current : u.current = posted s.current job outcome) : u.atBarrier = s.atBarrier :=
    atBarrier_of_outline (by rw [h_current, posted_outline])
  cases h_step with
  | waits h_phase =>
    refine .single .take rfl fun ended n => ⟨n, ?_⟩
    rw [laneEnds_nil, List.append_nil]
    exact laneOf_take h_lane (by rw [h_phase]; rfl) rfl rfl rfl
  | overflows h_phase =>
    -- The job begins, and the panic of the clock ends it at once.
    obtain ⟨u, h_u⟩ : ∃ u, u = { s with lane := { job with phase := .waiting 0 0 } :: rest } :=
      ⟨_, rfl⟩
    have h_lane' : u.lane = { job with phase := .waiting 0 0 } :: rest := by rw [h_u]
    intro ended n
    have h_take : (s.laneOf ended n).step .take = some (u.laneOf ended n) :=
      laneOf_take h_lane (by rw [h_phase]; rfl) h_lane' rfl (by rw [h_u]; rfl)
    have h_finish : (u.laneOf ended n).step (.finish (.ofPanic true)) =
        some (({ s with lane := rest } : State C).laneOf
          (ended ++ [(({ job with phase := .waiting 0 0 } : LaunchJob C).place, true)]) n) :=
      laneOf_finish true h_lane' rfl rfl h_rest (by rw [h_u]; rfl)
    exact ⟨[.take, .finish (.ofPanic true)], n, by simp [LaunchLane.IsOpen, JobEnd.ofPanic],
      LaunchLane.run_cons_eq_some.2
        ⟨_, h_take, LaunchLane.run_cons_eq_some.2 ⟨_, h_finish, rfl⟩⟩⟩
  | finds h_phase =>
    exact .none (fun _ _ => laneOf_goesOn h_lane (by rw [h_phase]; rfl) rfl rfl rfl) rfl
  | misses h_phase | completes h_phase | panics h_phase =>
    refine .single (.finish (.ofPanic false)) rfl fun ended n => ⟨n, ?_⟩
    exact laneOf_finish false h_lane (by rw [h_phase]; rfl) rfl h_rest (h_posted _ _ rfl)
  | mutes h_phase | expires h_phase | loses h_phase =>
    refine .single (.finish (.ofPanic true)) rfl fun ended n => ⟨n, ?_⟩
    exact laneOf_finish true h_lane (by rw [h_phase]; rfl) rfl h_rest rfl
  | aborts => exact .still rfl rfl rfl

/-- Every move of a dispatcher comes to moves of the lane. -/
theorem Transition.laneMoves (h_layout : Layout cfg s) (h_step : Transition cfg env s m s' fs) :
    LaneMoves s s' fs := by
  cases h_step with
  | enqueue | dropArtifacts | returns | pick | tick => exact .still rfl rfl rfl
  | begins h_idle => exact .still rfl (atBarrier_of_idle h_idle).symm rfl
  | caller h_current h_step => exact h_step.laneMoves h_current
  | worker _ _ h_step =>
    exact .still h_step.samePlan.lane (atBarrier_of_outline h_step.samePlan.current)
      (laneEnds_of_quiet h_step.quiet)
  | launcher h_lane h_step =>
    obtain ⟨f, h_f⟩ := h_layout.exists_flush h_lane
    have h_queued := (h_layout.inFlush f h_f).queued
    rw [h_lane] at h_queued
    exact h_step.laneMoves h_lane h_queued

/-- A run of a dispatcher comes to a run of the lane. -/
theorem laneMoves_of_run {threads : Nat} {now : Moment}
    (h_run : run cfg env (start threads now) ms = some (t, es)) :
    LaneMoves (start threads now) t (history es) := by
  refine history_induction (P := fun _ t es => LaneMoves (start threads now) t es)
    (.still rfl rfl rfl) ?_ h_run
  intro ms m t es u fs h_prefix _ h_before h_step ended n
  obtain ⟨lms, n₁, h_open, h_lane⟩ := h_before ended n
  obtain ⟨lms', n₂, h_open', h_lane'⟩ := h_step.laneMoves (layout_of_run h_prefix)
    (ended ++ laneEnds (history es)) n₁
  refine ⟨lms ++ lms', n₂, LaunchLane.isOpen_iff.2 fun lm h_lm => ?_, ?_⟩
  · rcases List.mem_append.1 h_lm with h_old | h_new
    · exact LaunchLane.isOpen_iff.1 h_open lm h_old
    · exact LaunchLane.isOpen_iff.1 h_open' lm h_new
  · rw [laneEnds_append, ← List.append_assoc]
    exact LaunchLane.run_append_eq_some.2 ⟨_, h_lane, h_lane'⟩

/-- A caller that waits for its launch jobs goes on exactly if the next move of the launch thread
acknowledges its barrier. -/
theorem goesOn_iff_acknowledged (h_f : s.current = some f) (h_stage : f.stage = .draining) :
    (move cfg env s .caller).isSome = true ↔
      ∃ l, (s.laneOf ended n).step .take = some l ∧ l.answer? n = some (.ok ()) := by
  have h_barrier : s.atBarrier = true := by simp [atBarrier, h_f, h_stage]
  have h_move : (move cfg env s .caller).isSome = true ↔ s.lane = [] := by
    simp [move, callerMove, h_f, h_stage]
  rw [h_move]
  constructor
  · intro h_lane
    have h_take : (s.laneOf ended n).step .take =
        some (({ s with current := none } : State C).laneOf ended (n + 1)) :=
      laneOf_acknowledge h_lane h_lane h_barrier rfl
    exact ⟨_, h_take, LaunchLane.answer?_of_acknowledged (List.mem_range.2 (Nat.lt_succ_self n))⟩
  · rintro ⟨l, h_take, h_answer⟩
    cases h_lane : s.lane with
    | nil => rfl
    | cons job rest =>
      -- The launch thread has a job, or takes one: it does not get to the barrier.
      cases h_begun : job.phase.hasBegun with
      | true =>
        simp [LaunchLane.step, LaunchLane.take?, laneOf, runningJob?, Option.filter_some, h_lane,
          h_begun] at h_take
      | false =>
        have h_begins : (s.laneOf ended n).step .take = some (({ s with
            lane := { job with phase := .waiting 0 0 } :: rest } : State C).laneOf ended n) :=
          laneOf_take h_lane h_begun rfl rfl rfl
        obtain rfl := Option.some.inj (h_take.symm.trans h_begins)
        simp [LaunchLane.answer?, laneOf] at h_answer

/-- Every run of a dispatcher is one of a lane that nobody closes and whose thread does not die. The
launch jobs that have ended and those that are left are the submitted ones, in that order. A caller
that waits for its launch jobs goes on exactly if the next move of the launch thread acknowledges
its barrier. -/
theorem lane_of_run {threads : Nat} {now : Moment}
    (h_run : run cfg env (start threads now) ms = some (t, es)) :
    ∃ lms n, LaunchLane.IsOpen lms ∧
      LaunchLane.run {} lms = some (t.laneOf (laneEnds (history es)) n) ∧
      (laneEnds (history es)).map Prod.fst ++ t.lane.map LaunchJob.place =
        LaunchLane.submittedIn lms ∧
      ∀ f, t.current = some f → f.stage = .draining →
        ((move cfg env t .caller).isSome = true ↔
          ∃ l, (t.laneOf (laneEnds (history es)) n).step .take = some l ∧
            l.answer? n = some (.ok ())) := by
  obtain ⟨lms, n, h_open, h_moves⟩ := laneMoves_of_run h_run [] 0
  have h_lane : LaunchLane.run {} lms = some (t.laneOf (laneEnds (history es)) n) := h_moves
  refine ⟨lms, n, h_open, h_lane, ?_, fun f h_f => goesOn_iff_acknowledged h_f⟩
  have h_queued : ∀ job ∈ t.lane.tail, job.phase = .queued := by
    have h_layout := layout_of_run h_run
    cases h_current : t.current with
    | none => simp [h_layout.idle h_current]
    | some f => exact (h_layout.inFlush f h_current).queued
  have h_jobs := (LaunchLane.orderly_of_run h_lane).jobs
  rw [LaunchLane.accepted_of_open h_open] at h_jobs
  have h_untaken : LaunchLane.jobsIn (t.laneOf (laneEnds (history es)) n).untaken =
      t.waitingJobs.map LaunchJob.place := by
    cases h_barrier : t.atBarrier <;>
      simp [LaunchLane.untaken, LaunchLane.jobsIn, laneOf, h_barrier, List.filterMap_append,
        List.filterMap_map, Function.comp_def, LaneMessage.job?]
  rw [← h_jobs, h_untaken, ← lane_eq h_queued, List.map_append]
  cases h_running : t.runningJob? <;> simp [laneOf, h_running]

end State

end KernelDispatch
