/-
  KernelDispatch.Proofs.Flush.Calls

  Calls of `flush`, and calls that begin with no compile job left over from earlier ones.

  A `ReadyCall` begins with only artifacts in the store. At every moment at which its flush
  is in progress each slot has its origin in the call (`ReadyCall.origin`). A `FreshCall`
  begins without compile jobs besides. All compile jobs of the run belong to its flush then
  (`FreshCall.scheduled_flush`). When the wait for the compile jobs is over, no slot is pending any
  more (`FreshCall.not_pending`), and without failures every task of the flush has its
  artifact (`FreshCall.ready_of_no_failures`).
-/
import KernelDispatch.Proofs.Flush.Readiness
import KernelDispatch.Proofs.Flush.Return

namespace KernelDispatch.State

variable {C : Type} {cfg : Settings} {env : Environment C} {s₀ t u : State C} {f f' : Flush C}
  {m : Move C} {ms : List (Move C)} {es : List (Stamped C)} {fs : List (Event C)}

/-- A call of `flush` with only artifacts in the store when it begins. Compile jobs of earlier
flushes may still be under way. -/
structure ReadyCall (cfg : Settings) (env : Environment C) (s₀ : State C) (ms : List (Move C))
    (t : State C) (es : List (Stamped C)) : Prop where
  layout : Layout cfg s₀
  ready : AllReady s₀
  noCall : ∀ m ∈ ms, m.isCall = false
  reached : run cfg env s₀ (.flush :: ms) = some (t, es)

namespace ReadyCall

/-- Induction along a call. -/
theorem induction {P : State C → List (Stamped C) → Prop} (h : ReadyCall cfg env s₀ ms t es)
    (h_first : ∀ u fs, Transition cfg env s₀ .flush u fs → P u (stamp s₀.now fs))
    (h_next : ∀ ms m t es u fs, ReadyCall cfg env s₀ ms t es →
      ReadyCall cfg env s₀ (ms ++ [m]) u (es ++ stamp t.now fs) → t.aborted = false → P t es →
      Transition cfg env t m u fs → P u (es ++ stamp t.now fs)) :
    P t es := by
  refine flush_induction (P := fun _ t es => P t es) h.reached h.noCall h_first ?_
  intro ms m t es u fs h_run h_past h_noCall h_alive h_before h_step
  have h_call : ReadyCall cfg env s₀ ms t es := ⟨h.layout, h.ready, h_past, h_run⟩
  have h_reached : run cfg env s₀ (.flush :: (ms ++ [m])) = some (u, es ++ stamp t.now fs) :=
    run_concat.2 ⟨t, es, _, h_run, h_alive, h_step, rfl⟩
  refine h_next ms m t es u fs h_call ⟨h.layout, h.ready, fun m' h_m' => ?_, h_reached⟩ h_alive
    h_before h_step
  rcases List.mem_append.1 h_m' with h_old | h_new
  · exact h_past m' h_old
  · exact List.mem_singleton.1 h_new ▸ h_noCall

theorem number (h : ReadyCall cfg env s₀ ms t es) (h_f : t.current = some f) :
    f.number = s₀.flushes + 1 ∧ f.batch = s₀.backlog :=
  number_of_call h.layout h.reached h.noCall h_f

/-- A flush that is in progress after a move of the call was in progress before it. -/
theorem inProgress (h : ReadyCall cfg env s₀ (ms ++ [m]) u (es ++ stamp t.now fs))
    (h_step : Transition cfg env t m u fs) (h_f : u.current = some f) :
    ∃ f, t.current = some f := by
  refine Option.ne_none_iff_exists'.1 fun h_idle => ?_
  have h_noCall : m.isCall = false :=
    h.noCall m (List.mem_append_right _ (List.mem_singleton_self _))
  simp [h_step.idle_of_noCall h_idle h_noCall] at h_f

theorem tracked (h : ReadyCall cfg env s₀ ms t es) (h_f : t.current = some f) :
    Tracked s₀.store.slot? (s₀.flushes + 1) t (history es) :=
  tracked_of_run (backlog_ne_nil_of_call h.layout h.reached h.noCall h_f) h.ready h.reached

/-- Every slot has an origin in the call. -/
theorem origin (h : ReadyCall cfg env s₀ ms t es) (h_f : t.current = some f) (key : TaskId) :
    SlotOrigin (s₀.store.slot? key) key (history es) (t.store.slot? key) :=
  (h.tracked h_f).slots f h_f (h.number h_f).1 key

end ReadyCall

/-- A flush in progress has been begun by a call. -/
theorem call_of_run {threads : Nat} {now : Moment}
    (h_run : run cfg env (start threads now) ms = some (t, es)) (h_f : t.current = some f) :
    ∃ ms₀ s₀ es₀ ms₁ es₁, run cfg env (start threads now) ms₀ = some (s₀, es₀) ∧
      s₀.current = none ∧ run cfg env s₀ (.flush :: ms₁) = some (t, es₁) ∧
      (∀ m ∈ ms₁, m.isCall = false) ∧ es = es₀ ++ es₁ := by
  refine run_induction (P := fun _ t es => ∀ f, t.current = some f → ∃ ms₀ s₀ es₀ ms₁ es₁,
    run cfg env (start threads now) ms₀ = some (s₀, es₀) ∧ s₀.current = none ∧
      run cfg env s₀ (.flush :: ms₁) = some (t, es₁) ∧ (∀ m ∈ ms₁, m.isCall = false) ∧
      es = es₀ ++ es₁) (by simp [start]) ?_ h_run f h_f
  intro ms m t es u fs h_prefix h_alive h_before h_step f' h_f'
  cases h_call : m.isCall with
  | true =>
    cases h_step with
    | enqueue h_idle | dropArtifacts h_idle | returns h_idle => simp [h_idle] at h_f'
    | begins h_idle h_some =>
      refine ⟨ms, t, es, [], _, h_prefix, h_idle, ?_, by simp, rfl⟩
      exact run_concat.2 ⟨t, [], _, run_nil, h_alive, .begins h_idle h_some, rfl⟩
    | _ => simp [Move.isCall] at h_call
  | false =>
    obtain ⟨f, h_f⟩ : ∃ f, t.current = some f :=
      Option.ne_none_iff_exists'.1 fun h_idle => by
        simp [h_step.idle_of_noCall h_idle h_call] at h_f'
    obtain ⟨ms₀, s₀, es₀, ms₁, es₁, h_start, h_idle, h_reached, h_noCall, rfl⟩ := h_before f h_f
    refine ⟨ms₀, s₀, es₀, ms₁ ++ [m], es₁ ++ stamp t.now fs, h_start, h_idle,
      run_concat.2 ⟨t, es₁, _, h_reached, h_alive, h_step, rfl⟩, ?_, List.append_assoc ..⟩
    simpa [or_imp, forall_and, h_call] using h_noCall

/-- A flush is called between flushes. -/
theorem idle_of_flush (h_run : run cfg env s₀ (.flush :: ms) = some (t, es)) :
    s₀.current = none := by
  obtain ⟨_, _, _, h_first, -, -⟩ := run_cons.1 h_run
  obtain ⟨-, _, h_flush, -⟩ := step_eq_some_iff.1 h_first
  cases h_flush with
  | returns h_idle | begins h_idle => exact h_idle

/-- A call begins between flushes, and there only artifacts are in the store if no call before has
panicked. -/
theorem readyCall_of_calm {threads : Nat} {now : Moment} {ms₀ : List (Move C)}
    {es₀ : List (Stamped C)} (h_before : run cfg env (start threads now) ms₀ = some (s₀, es₀))
    (h_calm : Calm (history es₀)) (h_run : run cfg env s₀ (.flush :: ms) = some (t, es))
    (h_noCall : ∀ m ∈ ms, m.isCall = false) : ReadyCall cfg env s₀ ms t es := by
  have h_idle := idle_of_flush h_run
  exact ⟨layout_of_run h_before, ready_when_idle_of_run h_before h_calm h_idle, h_noCall, h_run⟩

/-- A flush that has got past its requests has been begun by a call that finds only artifacts in the
store. -/
theorem readyCall_of_run {threads : Nat} {now : Moment}
    (h_run : run cfg env (start threads now) ms = some (t, es)) (h_f : t.current = some f)
    (h_stage : ¬ f.Requesting) :
    ∃ ms₀ s₀ es₀ ms₁ es₁, run cfg env (start threads now) ms₀ = some (s₀, es₀) ∧
      ReadyCall cfg env s₀ ms₁ t es₁ ∧ es = es₀ ++ es₁ := by
  obtain ⟨ms₀, s₀, es₀, ms₁, es₁, h_before, h_idle, h_reached, h_noCall, rfl⟩ :=
    call_of_run h_run h_f
  have h_calm := calm_of_requested h_run h_f h_stage
  rw [history_append] at h_calm
  exact ⟨ms₀, s₀, es₀, ms₁, es₁, h_before, ⟨layout_of_run h_before,
    ready_when_idle_of_run h_before h_calm.of_append.1 h_idle, h_noCall, h_reached⟩, rfl⟩

/-- A call of `flush` with nothing left over from earlier ones: at rest before it, with only
artifacts in the store. -/
structure FreshCall (cfg : Settings) (env : Environment C) (s₀ : State C) (ms : List (Move C))
    (t : State C) (es : List (Stamped C)) : Prop where
  rested : Rested s₀
  ready : AllReady s₀
  noCall : ∀ m ∈ ms, m.isCall = false
  reached : run cfg env s₀ (.flush :: ms) = some (t, es)

theorem ReadyCall.fresh (h : ReadyCall cfg env s₀ ms t es) (h_rested : Rested s₀) :
    FreshCall cfg env s₀ ms t es :=
  ⟨h_rested, h.ready, h.noCall, h.reached⟩

namespace FreshCall

theorem layoutBefore (h : FreshCall cfg env s₀ ms t es) : Layout cfg s₀ :=
  Layout.ofIdle h.rested.idle h.rested.lane

theorem readyCall (h : FreshCall cfg env s₀ ms t es) : ReadyCall cfg env s₀ ms t es :=
  ⟨h.layoutBefore, h.ready, h.noCall, h.reached⟩

/-- Induction along a call. -/
theorem induction {P : State C → List (Stamped C) → Prop} (h : FreshCall cfg env s₀ ms t es)
    (h_first : ∀ u fs, Transition cfg env s₀ .flush u fs → P u (stamp s₀.now fs))
    (h_next : ∀ ms m t es u fs, FreshCall cfg env s₀ ms t es →
      FreshCall cfg env s₀ (ms ++ [m]) u (es ++ stamp t.now fs) → t.aborted = false → P t es →
      Transition cfg env t m u fs → P u (es ++ stamp t.now fs)) :
    P t es :=
  h.readyCall.induction h_first fun ms m t es u fs h_call h_after =>
    h_next ms m t es u fs (h_call.fresh h.rested) (h_after.fresh h.rested)

theorem consistent (h : FreshCall cfg env s₀ ms t es) : Consistent cfg t (history es) :=
  consistent_of_run h.rested h.reached

theorem filed (h : FreshCall cfg env s₀ ms t es) (j : Nat) : Filed t (history es) j :=
  filed_of_run h.rested h.reached j

theorem number (h : FreshCall cfg env s₀ ms t es) (h_f : t.current = some f) :
    f.number = s₀.flushes + 1 ∧ f.batch = s₀.backlog :=
  h.readyCall.number h_f

/-- A flush that is in progress after a move of the call was in progress before it. -/
theorem inProgress (h : FreshCall cfg env s₀ (ms ++ [m]) u (es ++ stamp t.now fs))
    (h_step : Transition cfg env t m u fs) (h_f : u.current = some f) :
    ∃ f, t.current = some f :=
  h.readyCall.inProgress h_step h_f

theorem tracked (h : FreshCall cfg env s₀ ms t es) (h_f : t.current = some f) :
    Tracked s₀.store.slot? (s₀.flushes + 1) t (history es) :=
  h.readyCall.tracked h_f

/-- Every slot has an origin in the call. -/
theorem origin (h : FreshCall cfg env s₀ ms t es) (h_f : t.current = some f) (key : TaskId) :
    SlotOrigin (s₀.store.slot? key) key (history es) (t.store.slot? key) :=
  h.readyCall.origin h_f key

/-- All compile jobs belong to the flush. -/
theorem scheduled_flush (h : FreshCall cfg env s₀ ms t es) {n j : Nat} {key : TaskId}
    (h_scheduled : Event.scheduled n j key ∈ history es) : n = s₀.flushes + 1 := by
  refine h.induction (P := fun _ es => Event.scheduled n j key ∈ history es → n = s₀.flushes + 1)
    ?_ ?_ h_scheduled
  · intro u fs h_flush h_e
    rw [history_stamp] at h_e
    cases h_flush <;> simp at h_e
  · intro ms m t es u fs h_call _ _ h_before h_step h_e
    rw [history_append, history_stamp] at h_e
    rcases List.mem_append.1 h_e with h_old | h_new
    · exact h_before h_old
    · obtain ⟨f, h_f, h_number⟩ := h_step.scheduled_current h_new
      rw [← h_number]
      exact (h_call.number h_f).1

theorem job_flush (h : FreshCall cfg env s₀ ms t es) {job : CompileJob C}
    (h_job : job ∈ t.jobs) : job.flush = s₀.flushes + 1 :=
  h.scheduled_flush ((h.filed job.id).scheduled_of_job h.consistent.numbered h_job rfl)

/-- A call whose deadline the clock can represent does not panic. -/
theorem calm (h : FreshCall cfg env s₀ ms t es)
    (h_clock : cfg.compilePatience.deadline? t.now ≠ none) : Calm (history es) := by
  refine h.induction (P := fun t es => cfg.compilePatience.deadline? t.now ≠ none →
    Calm (history es)) ?_ ?_ h_clock
  · intro u fs h_flush _ message h_unwound
    rw [history_stamp] at h_unwound
    cases h_flush <;> simp at h_unwound
  · intro ms m t es u fs h_call _ _ h_before h_step h_clock message h_unwound
    have h_earlier : cfg.compilePatience.deadline? t.now ≠ none :=
      fun h_none => h_clock (deadline?_eq_none_of_le h_none h_step.now_le)
    rw [history_append, history_stamp] at h_unwound
    rcases List.mem_append.1 h_unwound with h_old | h_new
    · exact h_before h_earlier message h_old
    · obtain ⟨_, -, -, -, -, h_none, -⟩ := h_step.of_unwound h_call.consistent.layout h_new
      exact h_earlier h_none

/-! ## The slots after the wait -/

/-- A task that the flush has requested has an entry. -/
theorem known (h : FreshCall cfg env s₀ ms t es) (h_f : t.current = some f) {key : TaskId}
    (h_key : key ∈ f.keys) : t.store.slot? key ≠ none :=
  known_of_run h.rested h.reached f h_f key h_key

/-- After the wait no slot is pending. -/
theorem not_pending (h : FreshCall cfg env s₀ ms t es) (h_calm : Calm (history es))
    (h_f : t.current = some f) (h_stage : ¬ f.Requesting) (h_over : f.join.isOver = true)
    (key : TaskId) : t.store.slot? key ≠ some .pending :=
  (awaited_of_run h.rested h.ready h.reached h_calm).settled h.consistent h.filed h_f h_stage
    h_over key

/-- After a wait without failures every task of the flush has its artifact. -/
theorem ready_of_no_failures (h : FreshCall cfg env s₀ ms t es) (h_calm : Calm (history es))
    (h_f : t.current = some f) (h_stage : ¬ f.Requesting) (h_over : f.join.isOver = true)
    (h_none : f.join.failures = []) {key : TaskId} (h_key : key ∈ f.keys) :
    ∃ artifact, t.store.slot? key = some (.ready artifact) := by
  obtain ⟨h_on, h_quiet⟩ : f.join.gaveUp = false ∧
      ∀ found join, Event.polled f.number found join ∈ history es →
        found.slotMessage? = none := by
    obtain ⟨_, own, -, -, h_failures, h_own⟩ := (h.consistent.joined f h_f).received
    cases h_own with
    | waits h_on h_quiet => exact ⟨h_on, h_quiet⟩
    | expired | orphaned => simp [h_none] at h_failures
  obtain ⟨h_failures, h_gone, h_kept⟩ := h.consistent.of_received h_f h_stage h_over h_on
  obtain ⟨slot, h_slot⟩ := Option.ne_none_iff_exists'.1 (h.known h_f h_key)
  rw [h_slot]
  cases slot with
  | ready artifact => exact ⟨artifact, rfl⟩
  | pending => exact absurd h_slot (h.not_pending h_calm h_f h_stage h_over key)
  | failed message =>
    exfalso
    have h_origin := h.origin h_f key
    rw [h_slot] at h_origin
    cases h_origin with
    | @written _ e _ _ _ h_writer h_content =>
      have h_e : e ∈ history es := List.mem_of_find?_eq_some h_writer
      have h_writes : e.writes key = true := List.find?_some h_writer
      cases e with
      | slotSettled n j k content changed =>
        -- The job that has settled with a failure has reported it.
        obtain rfl := Option.some.inj h_content
        have h_filed := h.filed j
        have h_scheduled := h_filed.scheduled_of_settled h_e
        obtain rfl := h.scheduled_flush h_scheduled
        rw [← (h.number h_f).1] at h_scheduled
        rcases h_filed.accounted h_scheduled with ⟨job, h_job, -, h_flush⟩ |
          ⟨content', _, outcome, h_settled, h_reported, h_good⟩ | ⟨worker, h_lost⟩
        · exact h_gone job h_job h_flush
        · obtain ⟨-, -, rfl⟩ := h_filed.settled_once h_e h_settled
          cases outcome with
          | ok => cases h_good
          | error failure =>
            have h_failure : failure ∈ f.join.failures := by
              rw [h_failures]
              exact List.mem_filterMap.2 ⟨_, mem_reports.2 ⟨j, h_reported⟩, rfl⟩
            rw [h_none] at h_failure
            cases h_failure
        · exact h_kept j worker h_lost
      | polled n found join =>
        obtain ⟨_, h_message, -⟩ := Option.map_eq_some_iff.1 h_content
        obtain rfl := ((h.tracked h_f).own f h_f (h.number h_f).1).2 n found join h_e
        rw [← (h.number h_f).1] at h_e
        rw [h_quiet found join h_e] at h_message
        cases h_message
      | _ => simp [Event.writes] at h_writes

end FreshCall

end KernelDispatch.State
