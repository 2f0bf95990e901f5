/-
  KernelDispatch.Proofs.Flush.Layout

  Where the records of a flush are.

  A flush takes the records that are enqueued as its batch. From then on each of
  them is enqueued, or it is a launch job in the lane, or its launch job has come
  to an end; the first two make up a suffix of the batch, and the launch jobs
  carry their places in it. Between flushes the lane is empty. Every run keeps
  this (`layout_of_run`).
-/
import KernelDispatch.Proofs.Flush.Run

namespace KernelDispatch

variable {C : Type} {cfg : Settings} {env : Environment C}

/-- A flush without its messages: what is left is what its caller plans to do. -/
def Flush.outline (f : Flush C) : Flush C :=
  { f with join := {}, inbox := [], posted := [] }

namespace State

variable {s s' t : State C} {f : Flush C} {es : List (Event C)}

/-- The number of records of a flush whose launch jobs have come to an end. -/
def done (s : State C) (f : Flush C) : Nat :=
  f.batch.length - (s.lane.length + s.backlog.length)

/-- What the stage of a flush says about its records. -/
def StageLayout (cfg : Settings) (s : State C) (f : Flush C) : Prop :=
  match f.stage with
  | .requesting rest =>
    s.lane = [] ∧ s.backlog = f.batch ∧ f.keys ++ rest.map Record.key = f.batch.map Record.key
  | .submitting rest => f.keys = f.batch.map Record.key ∧ rest = s.backlog.map Record.key
  | .joining =>
    f.keys = f.batch.map Record.key ∧
      if cfg.pipelined then s.backlog = [] else s.lane = [] ∧ s.backlog = f.batch
  | .draining => f.keys = f.batch.map Record.key ∧ s.backlog = []

/-- Where the records of a flush are. -/
structure FlushLayout (cfg : Settings) (s : State C) (f : Flush C) : Prop where
  number : f.number = s.flushes
  positive : 0 < f.number
  report : f.report.flush = f.number ∧ f.report.records = f.batch.length
  remaining : s.lane.map (·.record) ++ s.backlog <:+ f.batch
  places : s.lane.map (·.seq) = List.range' (s.done f) s.lane.length
  own : ∀ job ∈ s.lane, job.flush = f.number ∧ job.key = job.record.key
  /-- Only the first launch job has begun. -/
  queued : ∀ job ∈ s.lane.tail, job.phase = .queued
  stage : StageLayout cfg s f

/-- Where the records are that have not come to an end. -/
structure Layout (cfg : Settings) (s : State C) : Prop where
  inFlush : ∀ f, s.current = some f → FlushLayout cfg s f
  idle : s.current = none → s.lane = []

/-- Only a flush has launch jobs. -/
theorem Layout.exists_flush {job : LaunchJob C} {rest : List (LaunchJob C)} (h : Layout cfg s)
    (h_lane : s.lane = job :: rest) : ∃ f, s.current = some f := by
  cases h_current : s.current with
  | none => simp [h.idle h_current] at h_lane
  | some f => exact ⟨f, rfl⟩

/-! ## What the layout does not depend on -/

/-- Two states that plan the same have the same layout. -/
structure SamePlan (s s' : State C) : Prop where
  lane : s'.lane = s.lane
  backlog : s'.backlog = s.backlog
  flushes : s'.flushes = s.flushes
  current : s'.current.map Flush.outline = s.current.map Flush.outline

/-- The flush in progress after a move that only delivers messages. -/
theorem exists_flush_of_outline_eq {current current' : Option (Flush C)} {f' : Flush C}
    (h : current'.map Flush.outline = current.map Flush.outline) (h_current : current' = some f') :
    ∃ f, current = some f ∧ f'.outline = f.outline := by
  subst h_current
  cases current with
  | none => simp at h
  | some f => exact ⟨f, rfl, by simpa using h⟩

theorem FlushLayout.of_outline_eq {f f' : Flush C} (h : FlushLayout cfg s f)
    (h_outline : f'.outline = f.outline) : FlushLayout cfg s f' := by
  have h_same : FlushLayout cfg s f.outline :=
    ⟨h.number, h.positive, h.report, h.remaining, h.places, h.own, h.queued, h.stage⟩
  rw [← h_outline] at h_same
  exact ⟨h_same.number, h_same.positive, h_same.report, h_same.remaining, h_same.places,
    h_same.own, h_same.queued, h_same.stage⟩

theorem Layout.of_samePlan (h : Layout cfg s) (h_same : SamePlan s s') : Layout cfg s' := by
  obtain ⟨h_lane, h_backlog, h_flushes, h_current⟩ := h_same
  constructor
  · intro f' h_f'
    obtain ⟨f, h_f, h_outline⟩ := exists_flush_of_outline_eq h_current h_f'
    have h_layout := (h.inFlush f h_f).of_outline_eq h_outline
    refine ⟨?_, h_layout.positive, h_layout.report, ?_, ?_, ?_, ?_, ?_⟩
    · rw [h_flushes]
      exact h_layout.number
    · rw [h_lane, h_backlog]
      exact h_layout.remaining
    · simp only [done, h_lane, h_backlog]
      exact h_layout.places
    · rw [h_lane]
      exact h_layout.own
    · rw [h_lane]
      exact h_layout.queued
    · have h_stage := h_layout.stage
      simp only [StageLayout, h_lane, h_backlog] at h_stage ⊢
      exact h_stage
  · intro h_idle
    rw [h_idle, Option.map_none, eq_comm, Option.map_eq_none_iff] at h_current
    rw [h_lane]
    exact h.idle h_current

theorem updateFlush_outline (s : State C) (number : Nat) (g : Flush C → Flush C)
    (h_g : ∀ f, (g f).outline = f.outline) :
    (s.updateFlush number g).current.map Flush.outline = s.current.map Flush.outline := by
  simp only [updateFlush, Option.map_map]
  congr 1
  funext f
  simp only [Function.comp]
  split
  · exact h_g f
  · rfl

theorem posted_outline (current : Option (Flush C)) (job : LaunchJob C) (outcome : Outcome) :
    (posted current job outcome).map Flush.outline = current.map Flush.outline := by
  simp only [posted, Option.map_map]
  congr 1
  funext f
  simp only [Function.comp]
  split <;> rfl

theorem WorkerStep.samePlan {worker : Nat} {job : CompileJob C}
    (h : WorkerStep cfg env s worker job s' es) : SamePlan s s' := by
  cases h with
  | reports h_phase =>
    exact ⟨rfl, rfl, rfl,
      updateFlush_outline s job.flush (fun f => { f with inbox := f.inbox ++ [_] })
        (fun _ => rfl)⟩
  | _ => exact ⟨rfl, rfl, rfl, rfl⟩

/-! ## The caller -/

/-- A layout without launch jobs, of a flush that has all its records enqueued. -/
theorem FlushLayout.ofEnqueued (h_number : f.number = s.flushes) (h_positive : 0 < f.number)
    (h_report : f.report.flush = f.number ∧ f.report.records = f.batch.length)
    (h_lane : s.lane = []) (h_backlog : s.backlog = f.batch) (h_stage : StageLayout cfg s f) :
    FlushLayout cfg s f where
  number := h_number
  positive := h_positive
  report := h_report
  remaining := by rw [h_lane, h_backlog]; exact List.suffix_refl _
  places := by rw [h_lane]; rfl
  own := by simp [h_lane]
  queued := by simp [h_lane]
  stage := h_stage

/-- The layout after a move that changes neither the lane nor the records of the flush. -/
theorem FlushLayout.withStage {f' : Flush C} (h : FlushLayout cfg s f) (h_lane : s'.lane = s.lane)
    (h_backlog : s'.backlog = s.backlog) (h_flushes : s'.flushes = s.flushes)
    (h_number : f'.number = f.number) (h_batch : f'.batch = f.batch)
    (h_report : f'.report.flush = f.report.flush ∧ f'.report.records = f.report.records)
    (h_stage : StageLayout cfg s' f') : FlushLayout cfg s' f' where
  number := by rw [h_number, h_flushes]; exact h.number
  positive := by rw [h_number]; exact h.positive
  report := by rw [h_report.1, h_report.2, h_number, h_batch]; exact h.report
  remaining := by rw [h_lane, h_backlog, h_batch]; exact h.remaining
  places := by simp only [done, h_lane, h_backlog, h_batch]; exact h.places
  own := by rw [h_lane, h_number]; exact h.own
  queued := by rw [h_lane]; exact h.queued
  stage := h_stage

theorem Report.count_same (p : Report) (collisions : Nat) (answer : Standing) :
    (p.count collisions answer).flush = p.flush ∧
      (p.count collisions answer).records = p.records := by
  cases answer <;> exact ⟨rfl, rfl⟩

/-- The stage after a request: one more task is known. -/
theorem StageLayout.requested {r : Record C} {rest : List (Record C)} {answer : Standing}
    (h : StageLayout cfg s f) (h_stage : f.stage = .requesting (r :: rest))
    (h_lane : s'.lane = s.lane) (h_backlog : s'.backlog = s.backlog) :
    StageLayout cfg s' (f.requested r rest answer) := by
  simp only [StageLayout, h_stage] at h
  obtain ⟨h_empty, h_all, h_keys⟩ := h
  refine ⟨h_lane.trans h_empty, h_backlog.trans h_all, ?_⟩
  simpa [Flush.requested] using h_keys

/-- The first record that is enqueued becomes a launch job. -/
theorem FlushLayout.submits {key : TaskId} {rest : List TaskId} {r : Record C}
    {backlog : List (Record C)} (h : FlushLayout cfg s f)
    (h_stage : f.stage = .submitting (key :: rest)) (h_backlog : s.backlog = r :: backlog) :
    FlushLayout cfg
      { s with
        backlog := backlog
        lane := s.lane ++ [f.launchJob cfg r key rest]
        current := some { f with stage := .submitting rest } }
      { f with stage := .submitting rest } := by
  have h_submitting := h.stage
  simp only [StageLayout, h_stage, h_backlog, List.map_cons, List.cons.injEq] at h_submitting
  obtain ⟨h_keys, rfl, rfl⟩ := h_submitting
  obtain ⟨past, h_batch⟩ := h.remaining
  have h_length : f.batch.length = past.length + (s.lane.length + (backlog.length + 1)) := by
    simp [← h_batch, h_backlog]
  -- What is before the lane in the batch has come to its end.
  have h_done : s.done f = past.length := by
    simp only [done, h_backlog, List.length_cons]
    omega
  -- The number of tasks left gives the place behind the last job of the lane.
  have h_seq : f.keys.length - ((backlog.map Record.key).length + 1) =
      past.length + s.lane.length := by
    rw [h_keys, List.length_map, List.length_map]
    omega
  refine ⟨h.number, h.positive, h.report, ?_, ?_, ?_, ?_, h_keys, rfl⟩
  · refine ⟨past, ?_⟩
    rw [← h_batch, h_backlog]
    simp [Flush.launchJob]
  · have h_places := h.places
    rw [h_done] at h_places
    simp only [done, List.map_append, h_places, List.length_append, List.length_singleton,
      List.map_singleton, Flush.launchJob, h_seq]
    rw [show f.batch.length - (s.lane.length + 1 + backlog.length) = past.length by omega,
      List.range'_1_concat]
  · intro job h_job
    rcases List.mem_append.1 h_job with h_job | h_job
    · exact h.own job h_job
    · obtain rfl := List.mem_singleton.1 h_job
      exact ⟨rfl, rfl⟩
  · intro job h_job
    -- Either the new job is the first one, or it stands in the tail and has not begun.
    cases h_lane : s.lane with
    | nil => simp [h_lane] at h_job
    | cons first others =>
      simp only [h_lane, List.cons_append, List.tail_cons, List.mem_append] at h_job
      rcases h_job with h_job | h_job
      · exact h.queued job (by simpa [h_lane] using h_job)
      · obtain rfl := List.mem_singleton.1 h_job
        rfl

/-- A dispatcher that is between flushes with an empty lane has a layout. -/
theorem Layout.ofIdle (h_current : s.current = none) (h_lane : s.lane = []) : Layout cfg s where
  inFlush f h_f := by simp [h_current] at h_f
  idle _ := h_lane

/-- A dispatcher in a flush with a layout. -/
theorem Layout.ofFlush (h_current : s.current = some f) (h : FlushLayout cfg s f) :
    Layout cfg s where
  inFlush f' h_f' := by
    obtain rfl : f = f' := by simpa [h_current] using h_f'
    exact h
  idle h_idle := by simp [h_current] at h_idle

theorem CallerStep.layout (h_current : s.current = some f) (h : FlushLayout cfg s f)
    (h_step : CallerStep cfg env s f s' es) : Layout cfg s' := by
  -- A move of the caller submits a record, or it changes the stage, or it ends the flush.
  have h_stage' := h.stage
  cases h_step with
  | schedules h_stage h_new =>
    exact .ofFlush rfl (h.withStage rfl rfl rfl rfl rfl (Report.count_same _ _ _)
      (h.stage.requested h_stage rfl rfl))
  | shares h_stage h_known h_answer =>
    exact .ofFlush rfl (h.withStage rfl rfl rfl rfl rfl (Report.count_same _ _ _)
      (h.stage.requested h_stage rfl rfl))
  | reuses h_stage h_known h_answer =>
    exact .ofFlush rfl (h.withStage rfl rfl rfl rfl rfl (Report.count_same _ _ _)
      (h.stage.requested h_stage rfl rfl))
  | unwinds h_stage h_deadline =>
    simp only [StageLayout, h_stage] at h_stage'
    exact .ofIdle rfl h_stage'.1
  | @beginsJoin deadline h_stage h_deadline =>
    simp only [StageLayout, h_stage, List.map_nil, List.append_nil] at h_stage'
    obtain ⟨h_lane, h_backlog, h_keys⟩ := h_stage'
    refine .ofFlush rfl (h.withStage rfl rfl rfl rfl rfl ⟨rfl, rfl⟩ ?_)
    -- The stage that follows depends on the mode; the records are where they were in both.
    cases h_pipelined : cfg.pipelined with
    | true =>
      simp only [StageLayout, Flush.joinFrom, h_pipelined, if_true]
      exact ⟨h_keys, by rw [h_keys, h_backlog]⟩
    | false =>
      simp only [StageLayout, Flush.joinFrom, h_pipelined, Bool.false_eq_true, if_false]
      exact ⟨h_keys, h_lane, h_backlog⟩
  | submits h_stage h_backlog => exact .ofFlush rfl (h.submits h_stage h_backlog)
  | submitsNothing h_stage h_backlog => simp [StageLayout, h_stage, h_backlog] at h_stage'
  | joins h_stage h_pipelined =>
    simp only [StageLayout, h_stage] at h_stage'
    refine .ofFlush rfl (h.withStage rfl rfl rfl rfl rfl ⟨rfl, rfl⟩ ?_)
    simp only [StageLayout, h_pipelined, if_true]
    exact ⟨h_stage'.1, by simpa using h_stage'.2⟩
  | drains h_stage h_pipelined =>
    simp only [StageLayout, h_stage] at h_stage'
    exact .ofFlush rfl (h.withStage rfl rfl rfl rfl rfl ⟨rfl, rfl⟩
      ⟨h_stage'.1, by simpa using h_stage'.2⟩)
  | polls h_stage h_over h_poll =>
    refine Layout.of_samePlan (.ofFlush h_current h) ⟨rfl, rfl, rfl, ?_⟩
    rw [h_current]
    rfl
  | drainsJoined h_stage h_over h_pipelined =>
    simp only [StageLayout, h_stage, h_pipelined, if_true] at h_stage'
    exact .ofFlush rfl (h.withStage rfl rfl rfl rfl rfl ⟨rfl, rfl⟩ h_stage')
  | abandons h_stage h_over h_pipelined h_onFailure h_failures =>
    simp only [StageLayout, h_stage, h_pipelined, Bool.false_eq_true, if_false] at h_stage'
    exact .ofIdle rfl h_stage'.2.1
  | submitsJoined h_stage h_over h_pipelined h_goesOn =>
    simp only [StageLayout, h_stage, h_pipelined, Bool.false_eq_true, if_false] at h_stage'
    refine .ofFlush rfl (h.withStage rfl rfl rfl rfl rfl ⟨rfl, rfl⟩ ?_)
    exact ⟨h_stage'.1, by rw [h_stage'.1, h_stage'.2.2]⟩
  | succeeds h_stage h_lane h_result => exact .ofIdle rfl h_lane
  | fails h_stage h_lane h_result => exact .ofIdle rfl h_lane

/-! ## The launch thread -/

/-- What a move of the launch thread does to the lane: the first job goes on, or it comes to an
end, or the process ends. -/
inductive LaneChange (s : State C) (job : LaunchJob C) (rest : List (LaunchJob C))
    (s' : State C) : Prop where
  | advances (phase : LaunchPhase C) (h_lane : s'.lane = { job with phase := phase } :: rest)
  | closes (h_lane : s'.lane = rest)
  | stays (h_lane : s'.lane = s.lane)

theorem LauncherStep.laneChange {job : LaunchJob C} {rest : List (LaunchJob C)}
    (h : LauncherStep cfg env s job rest s' es) : LaneChange s job rest s' := by
  cases h with
  | waits | finds => exact .advances _ rfl
  | overflows | misses | mutes | expires | completes | panics | loses => exact .closes rfl
  | aborts => exact .stays rfl

/-- The launch thread changes nothing that the caller plans. -/
theorem LauncherStep.plan {job : LaunchJob C} {rest : List (LaunchJob C)}
    (h : LauncherStep cfg env s job rest s' es) :
    s'.backlog = s.backlog ∧ s'.flushes = s.flushes ∧
      s'.current.map Flush.outline = s.current.map Flush.outline := by
  cases h with
  | misses | completes | panics => exact ⟨rfl, rfl, posted_outline _ _ _⟩
  | _ => exact ⟨rfl, rfl, rfl⟩

/-- A stage that allows launch jobs says nothing about them. -/
theorem StageLayout.withLane (h : StageLayout cfg s f) (h_some : s.lane ≠ [])
    (lane : List (LaunchJob C)) : StageLayout cfg { s with lane := lane } f := by
  -- The stages that speak about the lane say that it is empty.
  cases h_stage : f.stage with
  | requesting rest =>
    simp only [StageLayout, h_stage] at h
    exact absurd h.1 h_some
  | joining =>
    simp only [StageLayout, h_stage] at h ⊢
    refine ⟨h.1, ?_⟩
    split
    · next h_pipelined => simpa only [h_pipelined, if_true] using h.2
    · next h_pipelined =>
      simp only [h_pipelined, Bool.false_eq_true, if_false] at h
      exact absurd h.2.1 h_some
  | submitting rest | draining =>
    simp only [StageLayout, h_stage] at h ⊢
    exact h

/-- The layout with another phase of the first launch job. -/
theorem FlushLayout.advances {job : LaunchJob C} {rest : List (LaunchJob C)}
    (h : FlushLayout cfg s f) (h_lane : s.lane = job :: rest) (phase : LaunchPhase C) :
    FlushLayout cfg { s with lane := { job with phase := phase } :: rest } f := by
  have h_stage := h.stage.withLane (by simp [h_lane]) ({ job with phase := phase } :: rest)
  obtain ⟨h_number, h_positive, h_report, h_remaining, h_places, h_own, h_queued, -⟩ := h
  simp only [h_lane, List.map_cons, List.tail_cons, List.length_cons, done, List.mem_cons,
    forall_eq_or_imp] at h_remaining h_places h_own h_queued
  refine ⟨h_number, h_positive, h_report, h_remaining, h_places, ?_, h_queued, h_stage⟩
  simpa only [List.mem_cons, forall_eq_or_imp] using h_own

/-- The layout after the first launch job has come to an end. -/
theorem FlushLayout.closes {job : LaunchJob C} {rest : List (LaunchJob C)}
    (h : FlushLayout cfg s f) (h_lane : s.lane = job :: rest) :
    FlushLayout cfg { s with lane := rest } f := by
  have h_stage := h.stage.withLane (by simp [h_lane]) rest
  obtain ⟨h_number, h_positive, h_report, h_remaining, h_places, h_own, h_queued, -⟩ := h
  simp only [h_lane, List.map_cons, List.tail_cons, List.length_cons, done, List.mem_cons,
    forall_eq_or_imp, List.range'_succ, List.cons.injEq, List.cons_append]
    at h_remaining h_places h_own h_queued
  -- The places are those of the tail; one more record is done.
  have h_le := h_remaining.length_le
  simp only [List.length_cons, List.length_append, List.length_map] at h_le
  refine ⟨h_number, h_positive, h_report, (List.suffix_cons _ _).trans h_remaining, ?_, h_own.2,
    ?_, h_stage⟩
  · rw [h_places.2]
    congr 1
    simp only [done]
    omega
  · exact fun other h_other => h_queued other (List.mem_of_mem_tail h_other)

/-- The place of the first launch job is the number of those that have come to an end. -/
theorem FlushLayout.seq_eq {job : LaunchJob C} {rest : List (LaunchJob C)}
    (h : FlushLayout cfg s f) (h_lane : s.lane = job :: rest) : job.seq = s.done f := by
  have h_places := h.places
  rw [h_lane, List.map_cons, List.length_cons, List.range'_succ] at h_places
  exact (List.cons.inj h_places).1

/-- The record of the first launch job stands at its place in the batch. -/
theorem FlushLayout.record_at {job : LaunchJob C} {rest : List (LaunchJob C)}
    (h : FlushLayout cfg s f) (h_lane : s.lane = job :: rest) :
    f.batch[job.seq]? = some job.record := by
  -- The lane and the backlog are a suffix of the batch, so the lane starts where it does.
  obtain ⟨past, h_batch⟩ := h.remaining
  have h_done : s.done f = past.length := by
    simp only [done, ← h_batch, List.length_append, List.length_map]
    omega
  rw [h.seq_eq h_lane, h_done, ← h_batch, h_lane]
  simp

/-- Every launch job is for a task that its flush has requested. -/
theorem FlushLayout.key_mem {job : LaunchJob C} (h : FlushLayout cfg s f) (h_job : job ∈ s.lane) :
    job.key ∈ f.keys := by
  have h_keys : f.keys = f.batch.map Record.key := by
    -- While it still requests tasks, a flush has no launch jobs.
    have h_stage := h.stage
    unfold StageLayout at h_stage
    split at h_stage
    · simp [h_stage.1] at h_job
    all_goals exact h_stage.1
  have h_record : job.record ∈ f.batch :=
    h.remaining.subset (List.mem_append_left _ (List.mem_map_of_mem h_job))
  rw [h_keys, (h.own job h_job).2]
  exact List.mem_map_of_mem h_record

theorem done_closes {job : LaunchJob C} {rest : List (LaunchJob C)} (h : FlushLayout cfg s f)
    (h_lane : s.lane = job :: rest) : done { s with lane := rest } f = s.done f + 1 := by
  have h_le := h.remaining.length_le
  simp only [done, h_lane, List.map_cons, List.cons_append, List.length_cons, List.length_append,
    List.length_map] at h_le ⊢
  omega

theorem LauncherStep.layout {job : LaunchJob C} {rest : List (LaunchJob C)} (h : Layout cfg s)
    (h_lane : s.lane = job :: rest) (h_step : LauncherStep cfg env s job rest s' es) :
    Layout cfg s' := by
  obtain ⟨h_backlog, h_flushes, h_current⟩ := h_step.plan
  -- The lane changes first, and the messages of the flush after it.
  have h_after (lane : List (LaunchJob C)) (h_lane' : s'.lane = lane)
      (h_layout : ∀ f, FlushLayout cfg s f → FlushLayout cfg { s with lane := lane } f) :
      Layout cfg s' := by
    refine Layout.of_samePlan (s := { s with lane := lane }) ⟨?_, ?_⟩
      ⟨h_lane', h_backlog, h_flushes, h_current⟩
    · exact fun f h_f => (h_layout f (h.inFlush f h_f))
    · intro h_idle
      have h_empty := h.idle h_idle
      simp [h_lane] at h_empty
  cases h_step.laneChange with
  | advances phase h_lane' => exact h_after _ h_lane' fun f h_f => h_f.advances h_lane phase
  | closes h_lane' => exact h_after _ h_lane' fun f h_f => h_f.closes h_lane
  | stays h_lane' => exact h.of_samePlan ⟨h_lane', h_backlog, h_flushes, h_current⟩

/-! ## All moves -/

theorem Transition.layout {m : Move C} (h : Layout cfg s) (h_step : Transition cfg env s m s' es) :
    Layout cfg s' := by
  cases h_step with
  | enqueue h_idle | dropArtifacts h_idle => exact .ofIdle h_idle (h.idle h_idle)
  | returns => exact h
  | begins h_idle h_some =>
    exact .ofFlush rfl (.ofEnqueued rfl (Nat.succ_pos _) ⟨rfl, rfl⟩ (h.idle h_idle) rfl
      ⟨h.idle h_idle, rfl, rfl⟩)
  | caller h_current h_step => exact h_step.layout h_current (h.inFlush _ h_current)
  | pick | tick => exact h.of_samePlan ⟨rfl, rfl, rfl, rfl⟩
  | worker h_running h_job h_step => exact h.of_samePlan h_step.samePlan
  | launcher h_lane h_step => exact h_step.layout h h_lane

/-- The records are where the layout says after every run. -/
theorem Layout.of_run {ms : List (Move C)} {es : List (Stamped C)} (h : Layout cfg s)
    (h_run : run cfg env s ms = some (t, es)) : Layout cfg t :=
  run_induction (P := fun _ t _ => Layout cfg t) h
    (fun _ _ _ _ _ _ _ _ h_layout h_step => h_step.layout h_layout) h_run

theorem layout_of_run {threads : Nat} {now : Moment} {ms : List (Move C)} {es : List (Stamped C)}
    (h_run : run cfg env (start threads now) ms = some (t, es)) : Layout cfg t :=
  Layout.of_run (.ofIdle rfl rfl) h_run

end State

end KernelDispatch
