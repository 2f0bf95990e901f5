/-
  KernelDispatch.Proofs.Flush.Records

  What the moves of a dispatcher do to records.

  `RecordMove` sums it up: records are enqueued, a flush takes what is enqueued,
  the launch thread brings them to their end one by one, and a flush ends when
  all of them have come to it, or when it is abandoned, or when its caller panics
  and they stay enqueued. Every other move leaves them in the flush
  (`Transition.recordMove`).
-/
import KernelDispatch.Proofs.Flush.History

namespace KernelDispatch

variable {C : Type} {cfg : Settings} {env : Environment C}

/-- Whether an event tells what becomes of records. -/
def Event.isEntry : Event C → Bool
  | began .. => true
  | ran .. => true
  | recordEnded .. => true
  | launchJobLost .. => true
  | unwound _ => true
  | _ => false

theorem verdicts_of_noEntry (n : Nat) {es : List (Event C)} (h : ∀ e ∈ es, e.isEntry = false) :
    verdicts n es = [] := by
  refine List.filterMap_eq_nil_iff.2 fun e h_e => ?_
  have h_quiet := h e h_e
  cases e with
  | recordEnded | launchJobLost => simp [Event.isEntry] at h_quiet
  | _ => rfl

namespace State

variable {s s' : State C} {f f' : Flush C} {es : List (Event C)}

/-- A move that begins and ends nothing: at most a record becomes a launch job. -/
structure Onward (s s' : State C) (es : List (Event C)) : Prop where
  noEntry : ∀ e ∈ es, e.isEntry = false
  idle : s'.current = none → s.current = none ∧ s'.backlog = s.backlog
  inFlush : ∀ f', s'.current = some f' → ∃ f, s.current = some f ∧ f'.batch = f.batch
  length : s'.lane.length + s'.backlog.length = s.lane.length + s.backlog.length

theorem Onward.done_eq (h : Onward s s' es) (h_batch : f'.batch = f.batch) :
    s'.done f' = s.done f := by
  rw [done, h.length, h_batch, done]

/-- What a move does to records. -/
inductive RecordMove (cfg : Settings) (env : Environment C) (s : State C) (m : Move C)
    (s' : State C) (es : List (Event C)) : Prop where
  /-- Nothing begins or ends. -/
  | onward (h_enqueue : ∀ r, m ≠ .enqueue r)
      (h_flush : m = .flush → s.current = none ∧ s.backlog = []) (h_onward : Onward s s' es)
  /-- A record is enqueued. -/
  | enqueues {r : Record C} (h_m : m = .enqueue r) (h_idle : s.current = none)
      (h_s' : s' = { s with backlog := s.backlog ++ [r] }) (h_es : es = [])
  /-- A flush takes all records that are enqueued. -/
  | begins (h_m : m = .flush) (h_idle : s.current = none) (h_some : s.backlog ≠ [])
      (h_s' : s' = { s with flushes := s.flushes + 1, current := some s.firstFlush })
      (h_es : es = [.began (s.flushes + 1) s.backlog])
  /-- A launch job comes to its end. -/
  | launches {f f' : Flush C} {job : LaunchJob C} {rest : List (LaunchJob C)}
      (h_m : m = .launcher) (h_current : s.current = some f) (h_current' : s'.current = some f')
      (h_batch : f'.batch = f.batch) (h_lane : s.lane = job :: rest) (h_lane' : s'.lane = rest)
      (h_backlog : s'.backlog = s.backlog) (h_step : LauncherStep cfg env s job rest s' es)
  /-- A flush ends after all its launch jobs. -/
  | ends {f : Flush C} (h_m : m = .caller) (h_current : s.current = some f)
      (h_lane : s.lane = []) (h_backlog : s.backlog = []) (h_current' : s'.current = none)
      (h_backlog' : s'.backlog = []) (h_noEntry : ∀ e ∈ es, e.isEntry = false)
  /-- A flush is abandoned, and nothing of it runs. -/
  | abandons (h_m : m = .caller) (h_onFailure : cfg.onFailure = .abandonFlush)
      (h_noEntry : ∀ e ∈ es, e.isEntry = false) (h_current' : s'.current = none)
  /-- The caller panics, and the records of its flush stay enqueued. -/
  | unwinds {f : Flush C} (h_m : m = .caller) (h_current : s.current = some f)
      (h_lane : s.lane = []) (h_backlog : s.backlog = f.batch)
      (h_deadline : cfg.compilePatience.deadline? s.now = none)
      (h_s' : s' = { s with current := none }) (h_es : es = [.unwound overflowMessage])

theorem CallerStep.recordMove (h_current : s.current = some f) (h_layout : FlushLayout cfg s f)
    (h : CallerStep cfg env s f s' es) : RecordMove cfg env s .caller s' es := by
  -- A flush that goes on keeps its batch and the number of its records that are not done.
  have h_stage' := h_layout.stage
  have h_on (f₁ : Flush C) (h_f₁ : s'.current = some f₁) (h_batch : f₁.batch = f.batch)
      (h_length : s'.lane.length + s'.backlog.length = s.lane.length + s.backlog.length)
      (h_noEntry : ∀ e ∈ es, e.isEntry = false) : RecordMove cfg env s .caller s' es := by
    refine .onward (by simp) (by simp)
      ⟨h_noEntry, fun h_none => by simp [h_f₁] at h_none, ?_, h_length⟩
    intro f' h_f'
    obtain rfl : f₁ = f' := by simpa [h_f₁] using h_f'
    exact ⟨f, h_current, h_batch⟩
  cases h with
  | schedules | shares | reuses =>
    refine h_on _ rfl rfl rfl ?_
    simp only [List.mem_append, List.mem_map, List.mem_singleton]
    rintro e (⟨_, -, rfl⟩ | rfl) <;> rfl
  | submits h_stage h_backlog =>
    refine h_on _ rfl rfl ?_ (by simp)
    simp only [h_backlog, List.length_append, List.length_cons, List.length_nil]
    omega
  | unwinds h_stage h_deadline =>
    simp only [StageLayout, h_stage] at h_stage'
    exact .unwinds rfl h_current h_stage'.1 h_stage'.2.1 h_deadline rfl rfl
  | abandons _ _ _ h_onFailure =>
    exact .abandons rfl h_onFailure (by simp [Event.isEntry, endedEvent]) rfl
  | succeeds h_stage h_lane | fails h_stage h_lane =>
    simp only [StageLayout, h_stage] at h_stage'
    exact .ends rfl h_current h_lane h_stage'.2 rfl rfl (by simp [Event.isEntry, endedEvent])
  | _ => exact h_on _ rfl rfl rfl (by simp [Event.isEntry, joinedEvent])

theorem WorkerStep.onward {worker : Nat} {job : CompileJob C}
    (h : WorkerStep cfg env s worker job s' es) : Onward s s' es := by
  have h_plan := h.samePlan
  refine ⟨?_, fun h_none => ⟨?_, h_plan.backlog⟩, ?_, ?_⟩
  · cases h <;> simp [Event.isEntry]
  · have h_current := h_plan.current
    rwa [h_none, Option.map_none, eq_comm, Option.map_eq_none_iff] at h_current
  · intro f' h_f'
    obtain ⟨f, h_f, h_same⟩ := exists_flush_of_outline_eq h_plan.current h_f'
    exact ⟨f, h_f, congrArg (fun g => g.batch) h_same⟩
  · rw [h_plan.lane, h_plan.backlog]

theorem LauncherStep.recordMove {job : LaunchJob C} {rest : List (LaunchJob C)}
    (h_current : s.current = some f) (h_lane : s.lane = job :: rest)
    (h : LauncherStep cfg env s job rest s' es) : RecordMove cfg env s .launcher s' es := by
  obtain ⟨h_backlog, -, h_outline⟩ := h.plan
  obtain ⟨f', h_f', h_same⟩ := exists_flush_of_outline_eq h_outline.symm h_current
  have h_batch : f'.batch = f.batch := (congrArg (fun g => g.batch) h_same).symm
  -- Waiting, finding an artifact and the end of the process leave the job where it is.
  have h_on (h_length : s'.lane.length = s.lane.length)
      (h_noEntry : ∀ e ∈ es, e.isEntry = false) : RecordMove cfg env s .launcher s' es := by
    refine .onward (by simp) (by simp) ⟨h_noEntry, fun h_none => by simp [h_f'] at h_none, ?_, ?_⟩
    · intro f₁ h_f₁
      obtain rfl : f' = f₁ := by simpa [h_f'] using h_f₁
      exact ⟨f, h_current, h_batch⟩
    · rw [h_length, h_backlog]
  cases h_step : h with
  | waits | finds => exact h_on (by simp [h_lane]) (by simp [Event.isEntry])
  | aborts => exact h_on rfl (by simp [Event.isEntry])
  | overflows | misses | mutes | expires | completes | panics | loses =>
    exact .launches rfl h_current h_f' h_batch h_lane rfl h_backlog h

theorem Transition.recordMove {m : Move C} (h_layout : Layout cfg s)
    (h : Transition cfg env s m s' es) : RecordMove cfg env s m s' es := by
  cases h with
  | enqueue h_idle => exact .enqueues rfl h_idle rfl rfl
  | dropArtifacts h_idle =>
    exact .onward (by simp) (by simp)
      ⟨by simp, fun h_none => ⟨h_none, rfl⟩, fun f h_f => ⟨f, h_f, rfl⟩, rfl⟩
  | returns h_idle h_empty =>
    exact .onward (by simp) (fun _ => ⟨h_idle, h_empty⟩)
      ⟨by simp [Event.isEntry], fun h_none => ⟨h_none, rfl⟩, fun f h_f => ⟨f, h_f, rfl⟩, rfl⟩
  | begins h_idle h_some => exact .begins rfl h_idle h_some rfl rfl
  | caller h_current h_step => exact h_step.recordMove h_current (h_layout.inFlush _ h_current)
  | pick | tick =>
    exact .onward (by simp) (by simp)
      ⟨by simp, fun h_none => ⟨h_none, rfl⟩, fun f h_f => ⟨f, h_f, rfl⟩, rfl⟩
  | worker h_running h_job h_step => exact .onward (by simp) (by simp) h_step.onward
  | launcher h_lane h_step =>
    obtain ⟨f, h_f⟩ := h_layout.exists_flush h_lane
    exact h_step.recordMove h_f h_lane

/-- The move on which a caller panics. -/
theorem Transition.of_unwound {m : Move C} {message : String} (h_layout : Layout cfg s)
    (h : Transition cfg env s m s' es) (h_unwound : Event.unwound message ∈ es) :
    ∃ f, m = .caller ∧ s.current = some f ∧ s.lane = [] ∧ s.backlog = f.batch ∧
      cfg.compilePatience.deadline? s.now = none ∧ s' = { s with current := none } ∧
      es = [.unwound overflowMessage] := by
  have h_not (h_noEntry : ∀ e ∈ es, e.isEntry = false) : False := by
    simpa [Event.isEntry] using h_noEntry _ h_unwound
  cases h.recordMove h_layout with
  | unwinds h_m h_current h_lane h_backlog h_deadline h_s' h_es =>
    exact ⟨_, h_m, h_current, h_lane, h_backlog, h_deadline, h_s', h_es⟩
  | onward _ _ h_onward => exact (h_not h_onward.noEntry).elim
  | ends _ _ _ _ _ _ h_noEntry | abandons _ _ h_noEntry => exact (h_not h_noEntry).elim
  | enqueues _ _ _ h_es | begins _ _ _ _ h_es => simp [h_es] at h_unwound
  | launches _ _ _ _ _ _ _ h_step => cases h_step <;> simp at h_unwound

end State

end KernelDispatch
