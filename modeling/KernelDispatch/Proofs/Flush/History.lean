/-
  KernelDispatch.Proofs.Flush.History

  Readings of the history of a run: which launch jobs of a flush have come to an
  end and how, and which artifacts it has invoked.

  Only the launch thread adds to these readings (`CallerStep.quiet`,
  `WorkerStep.quiet`), and it does so for the flush in progress. The launch jobs of
  a flush come to an end one after the other, from the first on, and every outcome
  is posted to the flush (`recorded_of_run`). A history and its state are related
  move by move (`history_induction`).
-/
import KernelDispatch.Proofs.Flush.Layout

namespace KernelDispatch

variable {C : Type} {cfg : Settings} {env : Environment C}

/-! ## Readings -/

namespace Event

/-- Whether an event comes from the launch thread. -/
def isLaunch : Event C → Bool
  | recordStarted .. => true
  | ran .. => true
  | recordEnded .. => true
  | launchJobExpired .. => true
  | launchJobLost .. => true
  | _ => false

/-- The place and the outcome of a launch job of flush `n` that comes to an end; a lost job has no
outcome. -/
def verdict? (n : Nat) : Event C → Option (Nat × Option Outcome)
  | recordEnded flush seq _ _ outcome => if flush = n then some (seq, some outcome) else none
  | launchJobLost flush seq => if flush = n then some (seq, none) else none
  | _ => none

/-- The place of a record of flush `n` whose artifact runs, and what the run comes to. -/
def invocation? (n : Nat) : Event C → Option (Nat × Execution C)
  | ran flush seq _ _ result => if flush = n then some (seq, result) else none
  | _ => none

theorem verdict?_eq_none_of_quiet {e : Event C} (n : Nat) (h : e.isLaunch = false) :
    e.verdict? n = none := by
  cases e with
  | recordEnded | launchJobLost => simp [isLaunch] at h
  | _ => rfl

theorem invocation?_eq_none_of_quiet {e : Event C} (n : Nat) (h : e.isLaunch = false) :
    e.invocation? n = none := by
  cases e with
  | ran => simp [isLaunch] at h
  | _ => rfl

end Event

/-- How the launch jobs of flush `n` have come to an end. -/
def verdicts (n : Nat) (es : List (Event C)) : List (Nat × Option Outcome) :=
  es.filterMap (Event.verdict? n)

/-- The artifact runs of flush `n`. -/
def invocations (n : Nat) (es : List (Event C)) : List (Nat × Execution C) :=
  es.filterMap (Event.invocation? n)

/-- The outcomes among the ends of launch jobs. -/
def outcomes (vs : List (Nat × Option Outcome)) : List (Nat × Outcome) :=
  vs.filterMap fun v => v.2.map fun o => (v.1, o)

@[simp] theorem verdicts_nil (n : Nat) : verdicts n ([] : List (Event C)) = [] := rfl

@[simp] theorem invocations_nil (n : Nat) : invocations n ([] : List (Event C)) = [] := rfl

@[simp] theorem verdicts_cons (n : Nat) (e : Event C) (es : List (Event C)) :
    verdicts n (e :: es) = (e.verdict? n).toList ++ verdicts n es := by
  cases h : e.verdict? n <;> simp [verdicts, h]

@[simp] theorem invocations_cons (n : Nat) (e : Event C) (es : List (Event C)) :
    invocations n (e :: es) = (e.invocation? n).toList ++ invocations n es := by
  cases h : e.invocation? n <;> simp [invocations, h]

@[simp] theorem verdicts_append (n : Nat) (es fs : List (Event C)) :
    verdicts n (es ++ fs) = verdicts n es ++ verdicts n fs :=
  List.filterMap_append

@[simp] theorem invocations_append (n : Nat) (es fs : List (Event C)) :
    invocations n (es ++ fs) = invocations n es ++ invocations n fs :=
  List.filterMap_append

@[simp] theorem outcomes_append (vs ws : List (Nat × Option Outcome)) :
    outcomes (vs ++ ws) = outcomes vs ++ outcomes ws :=
  List.filterMap_append

theorem verdicts_of_quiet (n : Nat) {es : List (Event C)} (h : ∀ e ∈ es, e.isLaunch = false) :
    verdicts n es = [] :=
  List.filterMap_eq_nil_iff.2 fun e h_e => Event.verdict?_eq_none_of_quiet n (h e h_e)

theorem invocations_of_quiet (n : Nat) {es : List (Event C)}
    (h : ∀ e ∈ es, e.isLaunch = false) : invocations n es = [] :=
  List.filterMap_eq_nil_iff.2 fun e h_e => Event.invocation?_eq_none_of_quiet n (h e h_e)

/-- The events of a run without their moments. -/
def history (es : List (Stamped C)) : List (Event C) :=
  es.map Prod.snd

@[simp] theorem history_append (es fs : List (Stamped C)) :
    history (es ++ fs) = history es ++ history fs :=
  List.map_append

namespace State

variable {s s' t : State C} {f : Flush C} {es : List (Event C)}

@[simp] theorem history_stamp (now : Moment) (es : List (Event C)) :
    history (stamp now es) = es := by
  simp only [history, stamp, List.map_map]
  exact List.map_id es

/-- What holds at the start and is kept by every transition holds of the history of every run. -/
theorem history_induction {P : List (Move C) → State C → List (Event C) → Prop}
    {ms : List (Move C)} {es : List (Stamped C)} (h_nil : P [] s [])
    (h_concat : ∀ ms m t es u fs, run cfg env s ms = some (t, es) → t.aborted = false →
      P ms t (history es) → Transition cfg env t m u fs → P (ms ++ [m]) u (history es ++ fs))
    (h_run : run cfg env s ms = some (t, es)) : P ms t (history es) := by
  refine run_induction (P := fun ms t es => P ms t (history es)) h_nil ?_ h_run
  intro ms m t es u fs h_run h_alive h_P h_step
  rw [history_append, history_stamp]
  exact h_concat ms m t es u fs h_run h_alive h_P h_step

/-! ## Who adds to the readings -/

/-- The caller emits no event of the launch thread. -/
theorem CallerStep.quiet (h : CallerStep cfg env s f s' es) : ∀ e ∈ es, e.isLaunch = false := by
  cases h with
  | schedules | shares | reuses =>
    simp only [List.mem_append, List.mem_map, List.mem_singleton]
    rintro e (⟨_, -, rfl⟩ | rfl) <;> rfl
  | _ => simp [Event.isLaunch, joinedEvent, endedEvent]

/-- A compile worker emits no event of the launch thread. -/
theorem WorkerStep.quiet {worker : Nat} {job : CompileJob C}
    (h : WorkerStep cfg env s worker job s' es) : ∀ e ∈ es, e.isLaunch = false := by
  cases h <;> simp [Event.isLaunch]

/-! ## Launch jobs come to an end -/

/-- What a move of the launch thread does to the first launch job. -/
inductive Closing (s : State C) (job : LaunchJob C) (rest : List (LaunchJob C)) (s' : State C)
    (es : List (Event C)) : Prop where
  /-- It has not come to an end. -/
  | open (h_verdicts : ∀ n, verdicts n es = []) (h_current : s'.current = s.current)
      (h_lane : s'.lane.length = s.lane.length)
  /-- It has come to an outcome. -/
  | ended (outcome : Outcome)
      (h_verdicts : ∀ n, verdicts n es = if job.flush = n then [(job.seq, some outcome)] else [])
      (h_current : s'.current = posted s.current job outcome) (h_lane : s'.lane = rest)
  /-- It is lost. -/
  | lost (h_verdicts : ∀ n, verdicts n es = if job.flush = n then [(job.seq, none)] else [])
      (h_current : s'.current = s.current) (h_lane : s'.lane = rest)

theorem LauncherStep.closing {job : LaunchJob C} {rest : List (LaunchJob C)}
    (h_lane : s.lane = job :: rest) (h : LauncherStep cfg env s job rest s' es) :
    Closing s job rest s' es := by
  -- A closing event is read off for the flush it names, and for no other.
  have h_ended (n flush seq waited : Nat) (key : TaskId) (outcome : Outcome) :
      verdicts n [Event.recordEnded (C := C) flush seq key waited outcome] =
        if flush = n then [(seq, some outcome)] else [] := by
    by_cases h_flush : flush = n <;> simp [verdicts, Event.verdict?, h_flush]
  have h_lost (n flush seq : Nat) :
      verdicts n [Event.launchJobLost (C := C) flush seq] =
        if flush = n then [(seq, none)] else [] := by
    by_cases h_flush : flush = n <;> simp [verdicts, Event.verdict?, h_flush]
  cases h with
  | waits => exact .open (fun _ => rfl) rfl (by simp [h_lane])
  | finds => exact .open (fun _ => rfl) rfl (by simp [h_lane])
  | aborts => exact .open (fun _ => rfl) rfl rfl
  | expires =>
    refine .lost (fun n => ?_) rfl rfl
    rw [← h_lost n job.flush job.seq]
    rfl
  | overflows | mutes => exact .lost (fun n => h_lost n _ _) rfl rfl
  | misses => exact .ended _ (fun n => h_ended n _ _ _ _ _) rfl rfl
  | completes => exact .ended _ (fun n => h_ended n _ _ _ _ _) rfl rfl
  | panics => exact .ended _ (fun n => h_ended n _ _ _ _ _) rfl rfl
  | loses => exact .lost (fun n => h_lost n _ _) rfl rfl

/-- A history that tells how the launch jobs of the flush in progress have come to an end. -/
structure Recorded (s : State C) (es : List (Event C)) : Prop where
  places : ∀ f, s.current = some f → (verdicts f.number es).map Prod.fst = List.range (s.done f)
  posted : ∀ f, s.current = some f → f.posted = outcomes (verdicts f.number es)
  future : ∀ n, s.flushes < n → verdicts n es = []
  zero : verdicts 0 es = []

/-- A move that brings no launch job to an end. -/
structure SameProgress (s s' : State C) : Prop where
  flushes : s'.flushes = s.flushes
  current : ∀ f', s'.current = some f' → ∃ f, s.current = some f ∧ f'.number = f.number ∧
    f'.posted = f.posted ∧ s'.done f' = s.done f

theorem SameProgress.of_current_eq (h_flushes : s'.flushes = s.flushes)
    (h_current : s'.current = s.current) (h_done : ∀ f, s'.done f = s.done f) :
    SameProgress s s' :=
  ⟨h_flushes, fun f' h_f' => ⟨f', h_current ▸ h_f', rfl, rfl, h_done f'⟩⟩

theorem Recorded.of_sameProgress {fs : List (Event C)} (h : Recorded s fs)
    (h_same : SameProgress s s') (h_quiet : ∀ n, verdicts n es = []) :
    Recorded s' (fs ++ es) := by
  -- Nothing is added, so every field is the one before the move.
  have h_verdicts (n : Nat) : verdicts n (fs ++ es) = verdicts n fs := by
    rw [verdicts_append, h_quiet, List.append_nil]
  refine ⟨?_, ?_, ?_, (h_verdicts 0).trans h.zero⟩
  · intro f' h_f'
    obtain ⟨f, h_f, h_number, -, h_done⟩ := h_same.current f' h_f'
    rw [h_verdicts, h_number, h_done]
    exact h.places f h_f
  · intro f' h_f'
    obtain ⟨f, h_f, h_number, h_posted, -⟩ := h_same.current f' h_f'
    rw [h_verdicts, h_number, h_posted]
    exact h.posted f h_f
  · intro n h_n
    rw [h_verdicts]
    exact h.future n (h_same.flushes ▸ h_n)

theorem CallerStep.sameProgress (h_current : s.current = some f)
    (h : CallerStep cfg env s f s' es) : SameProgress s s' := by
  -- A flush that goes on keeps its number and its posted outcomes.
  have h_on (f₁ : Flush C) (h_f₁ : s'.current = some f₁) (h_flushes : s'.flushes = s.flushes)
      (h_number : f₁.number = f.number) (h_posted : f₁.posted = f.posted)
      (h_done : s'.done f₁ = s.done f) : SameProgress s s' := by
    refine ⟨h_flushes, fun f' h_f' => ?_⟩
    obtain rfl : f₁ = f' := by simpa [h_f₁] using h_f'
    exact ⟨f, h_current, h_number, h_posted, h_done⟩
  cases h with
  -- A record that becomes a launch job counts as not done before and after.
  | submits h_stage h_backlog =>
    refine h_on _ rfl rfl rfl rfl ?_
    simp only [done, h_backlog, List.length_append, List.length_cons, List.length_nil]
    omega
  | unwinds | abandons | succeeds | fails => exact ⟨rfl, fun f' h_f' => by cases h_f'⟩
  | _ => exact h_on _ rfl rfl rfl rfl rfl

theorem WorkerStep.sameProgress {worker : Nat} {job : CompileJob C}
    (h : WorkerStep cfg env s worker job s' es) : SameProgress s s' := by
  cases h with
  | reports =>
    refine ⟨rfl, fun f' h_f' => ?_⟩
    obtain ⟨f, h_f, rfl⟩ := Option.map_eq_some_iff.1 h_f'
    refine ⟨f, h_f, ?_⟩
    split <;> exact ⟨rfl, rfl, rfl⟩
  | _ => exact .of_current_eq rfl rfl fun _ => rfl

theorem LauncherStep.recorded {fs : List (Event C)} {job : LaunchJob C}
    {rest : List (LaunchJob C)} (h : Recorded s fs) (h_layout : Layout cfg s)
    (h_lane : s.lane = job :: rest) (h_step : LauncherStep cfg env s job rest s' es) :
    Recorded s' (fs ++ es) := by
  obtain ⟨h_backlog, h_flushes, -⟩ := h_step.plan
  obtain ⟨f, h_f⟩ := h_layout.exists_flush h_lane
  have h_flush := h_layout.inFlush f h_f
  have h_own : job.flush = f.number := (h_flush.own job (by simp [h_lane])).1
  -- The first launch job ends, with or without an outcome.
  have h_ends (o : Option Outcome) (f' : Flush C) (h_f' : s'.current = some f')
      (h_verdicts : ∀ n, verdicts n es = if job.flush = n then [(job.seq, o)] else [])
      (h_rest : s'.lane = rest) (h_number : f'.number = f.number) (h_batch : f'.batch = f.batch)
      (h_posted : f'.posted = f.posted ++ outcomes [(job.seq, o)]) : Recorded s' (fs ++ es) := by
    have h_done : s'.done f' = s.done f + 1 := by
      rw [← done_closes h_flush h_lane]
      simp only [done, h_rest, h_backlog, h_batch]
    -- Only the reading of the flush in progress gets longer.
    have h_other (n : Nat) (h_ne : f.number ≠ n) : verdicts n (fs ++ es) = verdicts n fs := by
      rw [verdicts_append, h_verdicts, h_own, if_neg h_ne, List.append_nil]
    refine ⟨?_, ?_, ?_, (h_other 0 (Nat.ne_of_gt h_flush.positive)).trans h.zero⟩
    · intro f₁ h_f₁
      obtain rfl : f' = f₁ := by simpa [h_f'] using h_f₁
      rw [verdicts_append, h_number, h_verdicts, h_own, if_pos rfl, List.map_append,
        h.places f h_f, h_done, List.range_succ, h_flush.seq_eq h_lane]
      rfl
    · intro f₁ h_f₁
      obtain rfl : f' = f₁ := by simpa [h_f'] using h_f₁
      rw [verdicts_append, h_number, h_verdicts, h_own, if_pos rfl, outcomes_append,
        ← h.posted f h_f, h_posted]
    · intro n h_n
      have h_ne : f.number ≠ n := by
        rw [h_flush.number]
        omega
      rw [h_other n h_ne]
      exact h.future n (by omega)
  cases h_step.closing h_lane with
  | «open» h_verdicts h_current h_length =>
    refine h.of_sameProgress (.of_current_eq h_flushes h_current fun f => ?_) h_verdicts
    simp only [done, h_length, h_backlog]
  | ended outcome h_verdicts h_current h_rest =>
    refine h_ends (some outcome) { f with posted := f.posted ++ [(job.seq, outcome)] } ?_
      h_verdicts h_rest rfl rfl rfl
    simp [h_current, State.posted, h_f, h_own]
  | lost h_verdicts h_current h_rest =>
    exact h_ends none f (h_current.trans h_f) h_verdicts h_rest rfl rfl (by simp [outcomes])

theorem Transition.recorded {m : Move C} {fs : List (Event C)} (h : Recorded s fs)
    (h_layout : Layout cfg s) (h_step : Transition cfg env s m s' es) :
    Recorded s' (fs ++ es) := by
  cases h_step with
  | begins h_idle h_some =>
    -- The new number has not been used, and nothing of the new flush is done.
    have h_same (n : Nat) :
        verdicts n (fs ++ [.began (s.flushes + 1) s.backlog]) = verdicts n fs := by
      rw [verdicts_append]
      exact List.append_nil _
    have h_new : verdicts (s.flushes + 1) (fs ++ [.began (s.flushes + 1) s.backlog]) = [] :=
      (h_same _).trans (h.future _ (Nat.lt_succ_self _))
    refine ⟨?_, ?_, fun n h_n => (h_same n).trans (h.future n (Nat.lt_of_succ_lt h_n)),
      (h_same 0).trans h.zero⟩
    · rintro f ⟨rfl⟩
      rw [show s.firstFlush.number = s.flushes + 1 from rfl, h_new]
      simp [firstFlush, done]
    · rintro f ⟨rfl⟩
      rw [show s.firstFlush.number = s.flushes + 1 from rfl, h_new]
      rfl
  | enqueue h_idle | dropArtifacts h_idle =>
    exact h.of_sameProgress ⟨rfl, fun f h_f => by simp [h_idle] at h_f⟩ fun _ => rfl
  | returns h_idle h_empty =>
    exact h.of_sameProgress (.of_current_eq rfl rfl fun _ => rfl) fun _ => rfl
  | caller h_current h_step =>
    exact h.of_sameProgress (h_step.sameProgress h_current)
      fun n => verdicts_of_quiet n h_step.quiet
  | worker h_running h_job h_step =>
    exact h.of_sameProgress h_step.sameProgress fun n => verdicts_of_quiet n h_step.quiet
  | launcher h_lane h_step => exact h_step.recorded h h_layout h_lane
  | pick | tick => exact h.of_sameProgress (.of_current_eq rfl rfl fun _ => rfl) fun _ => rfl

/-- The history of every run tells how the launch jobs of the flush in progress have come to an
end: one after the other, from the first on. -/
theorem recorded_of_run {threads : Nat} {now : Moment} {ms : List (Move C)}
    {es : List (Stamped C)} (h_run : run cfg env (start threads now) ms = some (t, es)) :
    Recorded t (history es) := by
  refine history_induction (P := fun _ t es => Recorded t es) ?_ ?_ h_run
  · refine ⟨?_, ?_, fun _ _ => rfl, rfl⟩
    all_goals
      intro f h_f
      cases h_f
  · intro ms m t es u fs h_run _ h_recorded h_step
    exact h_step.recorded h_recorded (layout_of_run h_run)

/-! ## Flushes that are over -/

/-- Launch jobs end in the flush in progress only. -/
theorem Transition.verdicts_eq_nil {m : Move C} (h : Transition cfg env s m s' es)
    (h_layout : Layout cfg s) {n : Nat} (h_n : ∀ f, s.current = some f → f.number ≠ n) :
    verdicts n es = [] := by
  cases h with
  | @launcher job rest _ _ h_lane h_step =>
    obtain ⟨f, h_f⟩ := h_layout.exists_flush h_lane
    have h_own := ((h_layout.inFlush f h_f).own job (by simp [h_lane])).1
    have h_ne : job.flush ≠ n := h_own ▸ h_n f h_f
    cases h_step.closing h_lane with
    | «open» h_verdicts => exact h_verdicts n
    | ended outcome h_verdicts => rw [h_verdicts, if_neg h_ne]
    | lost h_verdicts => rw [h_verdicts, if_neg h_ne]
  | caller h_current h_step => exact verdicts_of_quiet n h_step.quiet
  | worker h_running h_job h_step => exact verdicts_of_quiet n h_step.quiet
  | _ => rfl

/-- The number of flushes never goes down. -/
theorem Transition.flushes_le {m : Move C} (h : Transition cfg env s m s' es) :
    s.flushes ≤ s'.flushes := by
  cases h with
  | begins => exact Nat.le_succ _
  | caller h_current h_step => exact Nat.le_of_eq (h_step.sameProgress h_current).flushes.symm
  | worker h_running h_job h_step => exact Nat.le_of_eq h_step.sameProgress.flushes.symm
  | launcher h_lane h_step => exact Nat.le_of_eq h_step.plan.2.1.symm
  | _ => exact Nat.le_refl _

/-- The flush in progress after a move was in progress before it, or it begins. -/
theorem Transition.flush_origin {m : Move C} (h : Transition cfg env s m s' es) {f' : Flush C}
    (h_f' : s'.current = some f') :
    (s'.flushes = s.flushes ∧
      ∃ f, s.current = some f ∧ f'.number = f.number ∧ f'.batch = f.batch) ∨
    (s'.flushes = s.flushes + 1 ∧ s.current = none ∧ f' = s.firstFlush ∧
      es = [.began (s.flushes + 1) s.backlog]) := by
  -- Messages change neither the number nor the records of a flush.
  have h_on (h_flushes : s'.flushes = s.flushes)
      (h_outline : s'.current.map Flush.outline = s.current.map Flush.outline) :
      s'.flushes = s.flushes ∧
        ∃ f, s.current = some f ∧ f'.number = f.number ∧ f'.batch = f.batch := by
    obtain ⟨f, h_f, h_same⟩ := exists_flush_of_outline_eq h_outline h_f'
    exact ⟨h_flushes, f, h_f, congrArg (fun g => g.number) h_same,
      congrArg (fun g => g.batch) h_same⟩
  cases h with
  | begins h_idle h_some =>
    cases h_f'
    exact .inr ⟨rfl, h_idle, rfl, rfl⟩
  | enqueue h_idle | dropArtifacts h_idle | returns h_idle => simp [h_idle] at h_f'
  | pick | tick => exact .inl (h_on rfl rfl)
  | caller h_current h_step =>
    refine .inl ⟨(h_step.sameProgress h_current).flushes, _, h_current, ?_⟩
    cases h_step <;> cases h_f' <;> exact ⟨rfl, rfl⟩
  | worker h_running h_job h_step =>
    exact .inl (h_on h_step.samePlan.flushes h_step.samePlan.current)
  | launcher h_lane h_step => exact .inl (h_on h_step.plan.2.1 h_step.plan.2.2)

end State

end KernelDispatch
