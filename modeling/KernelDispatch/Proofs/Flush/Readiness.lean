/-
  KernelDispatch.Proofs.Flush.Readiness

  What a launch job finds when it looks for its artifact.

  A slot that is pending has a compile job of the flush in progress that has not
  settled it, and the flush has not given up (`Awaited`). A flush whose wait for the
  compile jobs is over has heard from all of them, or it has given up; so it has left
  no slot pending (`Awaited.settled`). In two phases the launch jobs are submitted after
  that: they find their slots settled and do not have to wait. In either mode the
  slot of a launch job is there. This needs no assumption about the compile
  jobs, and none about the deadlines (`launch_jobs_find_settled_slots`).
-/
import KernelDispatch.Proofs.Flush.Filing
import KernelDispatch.Proofs.Flush.Provenance

namespace KernelDispatch.State

variable {C : Type} {cfg : Settings} {env : Environment C} {s s' t : State C} {f : Flush C}
  {es fs : List (Event C)}

/-! ## Tasks that have been requested -/

/-- Every task that the flush in progress has requested has a slot. -/
def Known (s : State C) : Prop :=
  ∀ f, s.current = some f → ∀ k ∈ f.keys, s.store.slot? k ≠ none

theorem Transition.known {m : Move C} (h : Known s) (h_step : Transition cfg env s m s' es) :
    Known s' := by
  intro f' h_f' k h_k
  rcases h_step.requested_origin h_f' h_k with ⟨f, h_f, h_old⟩ | h_new
  · exact h_step.slotChange.known (h f h_f k h_old) h_f'
  · exact h_new

theorem known_of_run {ms : List (Move C)} {es : List (Stamped C)} (h_rested : Rested s)
    (h_run : run cfg env s ms = some (t, es)) : Known t := by
  refine consistent_induction (P := fun t _ => Known t) h_rested ?_
    (fun _ h_known h_step => h_step.known h_known) h_run
  intro f h_f
  simp [h_rested.idle] at h_f

/-! ## Pending slots -/

/-- Flush `n` has scheduled a compile job for a task that has not settled, and it has not given
up. -/
structure Outstanding (n : Nat) (k : TaskId) (es : List (Event C)) : Prop where
  unsettled : ∃ j, Event.scheduled n j k ∈ es ∧
    ∀ content changed, Event.slotSettled n j k content changed ∉ es
  goesOn : ∀ found join, Event.polled n found join ∈ es → found.slotMessage? = none

/-- Every pending slot is outstanding in the flush in progress. -/
def Awaited (s : State C) (es : List (Event C)) : Prop :=
  ∀ k, s.store.slot? k = some .pending → ∃ f, s.current = some f ∧ Outstanding f.number k es

/-- A task stays outstanding while no job settles its slot and the flush does not give up. -/
theorem Outstanding.extend {n : Nat} {k : TaskId} (h : Outstanding n k fs)
    (h_settled : ∀ j content changed, Event.slotSettled n j k content changed ∉ es)
    (h_polled : ∀ found join, Event.polled n found join ∈ es → found.slotMessage? = none) :
    Outstanding n k (fs ++ es) := by
  obtain ⟨j, h_scheduled, h_open⟩ := h.unsettled
  refine ⟨⟨j, List.mem_append_left _ h_scheduled, fun content changed h_e => ?_⟩,
    fun found join h_e => ?_⟩
  · rcases List.mem_append.1 h_e with h_old | h_new
    · exact h_open content changed h_old
    · exact h_settled j content changed h_new
  · rcases List.mem_append.1 h_e with h_old | h_new
    · exact h.goesOn found join h_old
    · exact h_polled found join h_new

/-- A number that has not been given to a compile job says nothing about one. -/
theorem Filed.unsettled_of_new (h : Filed s es s.submitted) (h_numbered : Numbered s) {n : Nat}
    {k : TaskId} {content : Slot (Artifact C)} {changed : Bool} :
    Event.slotSettled n s.submitted k content changed ∉ es := by
  intro h_e
  have h_mem := mem_file (j := s.submitted) h_e (by simp [Event.isAbout])
  cases h with
  | absent _ h_file => simp [h_file] at h_mem
  | opened h_job h_id | settled h_job h_id =>
    have h_given := h_numbered.given _ h_job
    omega
  | reported _ h_given | lost _ h_given => exact absurd h_given (Nat.lt_irrefl _)

/-- A flush that still requests tasks has not given up. -/
theorem Joined.goesOn_of_requesting (h : Joined cfg s es f) (h_requesting : f.Requesting) :
    ∀ found join, Event.polled f.number found join ∈ es → found.slotMessage? = none := by
  obtain ⟨_, _, -, -, -, h_own⟩ := h.received
  cases h_own with
  | waits _ h_quiet => exact h_quiet
  | expired h_over | orphaned h_over => simp [h.fresh h_requesting] at h_over

/-- A flush in progress goes on, or it leaves nothing but artifacts, unless its caller panics. -/
theorem Transition.goesOn_or_ready {m : Move C} (h_f : s.current = some f) (h_calm : Calm es)
    (h_step : Transition cfg env s m s' es) :
    (∃ f', s'.current = some f' ∧ f'.number = f.number) ∨ AllReady s' := by
  cases h_f' : s'.current with
  | some f' =>
    rcases h_step.flush_origin h_f' with ⟨-, f₁, h_f₁, h_number, -⟩ | ⟨-, h_idle, -⟩
    · obtain rfl := Option.some.inj (h_f₁.symm.trans h_f)
      exact .inl ⟨f', rfl, h_number⟩
    · simp [h_f] at h_idle
  | none =>
    exact .inr (((h_step.caller_of_leaves h_f h_f').leaves h_f').resolve_left
      (h_calm overflowMessage))

theorem Transition.awaited {m : Move C} (h : Awaited s fs) (h_consistent : Consistent cfg s fs)
    (h_filed : Filed s fs s.submitted) (h_calm : Calm es)
    (h_step : Transition cfg env s m s' es) : Awaited s' (fs ++ es) := by
  intro k h_pending
  -- A slot that was pending before is still outstanding if the move does not settle it.
  have h_stays (h_before : s.store.slot? k = some .pending)
      (h_settled : ∀ n j content changed, Event.slotSettled n j k content changed ∉ es)
      (h_polled : ∀ n found join, Event.polled n found join ∈ es → found.slotMessage? = none) :
      ∃ f', s'.current = some f' ∧ Outstanding f'.number k (fs ++ es) := by
    obtain ⟨f, h_f, h_open⟩ := h k h_before
    rcases h_step.goesOn_or_ready h_f h_calm with ⟨f', h_f', h_number⟩ | h_ready
    · exact ⟨f', h_f', h_number ▸ h_open.extend (h_settled _) (h_polled _)⟩
    · have h_slot := h_ready k _ h_pending
      contradiction
  cases h_step.slotChange with
  | still h_slots h_quiet =>
    refine h_stays (h_slots k ▸ h_pending) (fun n j content changed h_e => ?_)
      fun n found join h_e => ?_
    · simpa [Event.isSlot] using h_quiet _ h_e
    · simpa [Event.isSlot] using h_quiet _ h_e
  | @scheduled f r rest before h_f h_stage h_new h_slots h_quiet h_es =>
    rw [h_slots] at h_pending
    have h_none (e : Event C) (h_e : e ∈ es) (h_slot : e.isSlot = true) :
        e = .scheduled f.number s.submitted r.key := by
      rw [h_es] at h_e
      rcases List.mem_append.1 h_e with h_old | h_last
      · simp [h_quiet e h_old] at h_slot
      · exact List.mem_singleton.1 h_last
    split at h_pending
    · next h_key =>
      -- The new job is outstanding: nobody has settled with its number.
      have h_scheduled : Event.scheduled f.number s.submitted r.key ∈ es := by simp [h_es]
      obtain ⟨f₁, r₁, rest₁, h_f₁, -, -, -, -, -, -, h_f'⟩ := h_step.of_scheduled h_scheduled
      obtain rfl := Option.some.inj (h_f₁.symm.trans h_f)
      have h_goesOn := (h_consistent.joined f₁ h_f).goesOn_of_requesting ⟨_, h_stage⟩
      refine ⟨_, h_f', ⟨s.submitted, ?_, fun content changed h_e => ?_⟩, fun found join h_e => ?_⟩
      · rw [h_key]
        exact List.mem_append_right _ h_scheduled
      · rcases List.mem_append.1 h_e with h_old | h_now
        · exact h_filed.unsettled_of_new h_consistent.numbered h_old
        · cases h_none _ h_now rfl
      · rcases List.mem_append.1 h_e with h_old | h_now
        · exact h_goesOn found join h_old
        · cases h_none _ h_now rfl
    · refine h_stays h_pending (fun n j content changed h_e => ?_) fun n found join h_e => ?_
      · cases h_none _ h_e rfl
      · cases h_none _ h_e rfl
  | @settled job result _ _ h_slots h_es =>
    rw [h_slots] at h_pending
    split at h_pending
    · cases result <;> cases h_pending
    · next h_other =>
      refine h_stays h_pending (fun n j content changed h_e => ?_) (by simp [h_es])
      rw [h_es] at h_e
      obtain ⟨-, -, rfl, -⟩ := Event.slotSettled.inj (List.mem_singleton.1 h_e)
      exact h_other ⟨rfl, ArtifactStore.isPending_iff.2 h_pending⟩
  | @polled f found inbox _ _ _ _ h_slots h_es =>
    rw [h_slots] at h_pending
    split at h_pending
    · -- A flush that gives up leaves no slot pending.
      obtain ⟨slot, -, h_slot⟩ := Option.map_eq_some_iff.1 h_pending
      split at h_slot
      · cases h_slot
      · next h_settled =>
        rw [h_slot] at h_settled
        exact absurd rfl h_settled
    · next h_message =>
      refine h_stays h_pending (by simp [h_es]) fun n found' join h_e => ?_
      rw [h_es] at h_e
      obtain ⟨-, rfl, -⟩ := Event.polled.inj (List.mem_singleton.1 h_e)
      exact h_message
  | cleared _ h_slots =>
    have h_slot := (h_slots k _ h_pending).1
    contradiction

theorem awaited_of_run {ms : List (Move C)} {es : List (Stamped C)} (h_rested : Rested s)
    (h_ready : AllReady s) (h_run : run cfg env s ms = some (t, es))
    (h_calm : Calm (history es)) : Awaited t (history es) := by
  refine history_induction (P := fun _ t es => Calm es → Awaited t es) ?_ ?_ h_run h_calm
  · intro _ k h_pending
    have h_slot := h_ready k _ h_pending
    contradiction
  · intro ms m t es u fs h_prefix _ h_before h_step h_calm
    obtain ⟨h_calm_before, h_calm_now⟩ := h_calm.of_append
    exact h_step.awaited (h_before h_calm_before) (consistent_of_run h_rested h_prefix)
      (filed_of_run h_rested h_prefix _) h_calm_now

/-- A flush whose wait for the compile jobs is over has left no slot pending. -/
theorem Awaited.settled (h : Awaited s es) (h_consistent : Consistent cfg s es)
    (h_filed : ∀ j, Filed s es j) (h_f : s.current = some f) (h_stage : ¬ f.Requesting)
    (h_over : f.join.isOver = true) (k : TaskId) : s.store.slot? k ≠ some .pending := by
  intro h_pending
  obtain ⟨f₁, h_f₁, h_open⟩ := h k h_pending
  obtain rfl := Option.some.inj (h_f₁.symm.trans h_f)
  have h_on : f₁.join.gaveUp = false := by
    obtain ⟨_, _, -, -, -, h_own⟩ := (h_consistent.joined f₁ h_f).received
    cases h_own with
    | waits h_on => exact h_on
    | expired _ h_polled | orphaned _ h_polled =>
      have h_message := h_open.goesOn _ _ h_polled
      simp [Polled.slotMessage?] at h_message
  -- All outcomes are there, so no job of the flush is left, and none is lost.
  obtain ⟨-, h_gone, h_kept⟩ := h_consistent.of_received h_f h_stage h_over h_on
  obtain ⟨j, h_scheduled, h_unsettled⟩ := h_open.unsettled
  rcases (h_filed j).accounted h_scheduled with
    ⟨job, h_job, -, h_flush⟩ | ⟨_, _, _, h_settled, -⟩ | ⟨worker, h_lost⟩
  · exact h_gone job h_job h_flush
  · exact h_unsettled _ _ h_settled
  · exact h_kept j worker h_lost

/-! ## Launch jobs -/

/-- A launch job that fails has found no artifact in its slot, or its artifact has panicked. -/
theorem Transition.of_failed {m : Move C} (h_step : Transition cfg env s m s' es) {n seq : Nat}
    {key : TaskId} {waited : Nat} {failure : Failure}
    (h_ended : Event.recordEnded n seq key waited (.error failure) ∈ es) :
    ∃ job rest, s.lane = job :: rest ∧ job.flush = n ∧ job.seq = seq ∧ job.key = key ∧
      ((∃ since, (∀ artifact, s.store.slot? job.key ≠ some (.ready artifact)) ∧
          failure = missFailure job since s.now (s.store.slot? job.key)) ∨
        ∃ cause : Panic,
          failure = dispatchFailure job ("artifact panicked: " ++ cause.message)) := by
  have h_loud : (Event.recordEnded (C := C) n seq key waited (.error failure)).isLaunch = true :=
    rfl
  cases h_step with
  | @launcher job rest _ _ h_lane h_step =>
    cases h_step with
    | @misses since _ _ h_slot =>
      have h_e := List.mem_singleton.1 h_ended
      simp only [Event.recordEnded.injEq, Except.error.injEq] at h_e
      obtain ⟨rfl, rfl, rfl, -, h_failure⟩ := h_e
      exact ⟨job, rest, h_lane, rfl, rfl, rfl, .inl ⟨since, h_slot, h_failure⟩⟩
    | @panics _ _ cause _ _ _ _ h_failure =>
      simp only [List.mem_cons, reduceCtorEq, List.not_mem_nil, or_false, false_or,
        Event.recordEnded.injEq, Except.error.injEq] at h_ended
      obtain ⟨rfl, rfl, rfl, -, rfl⟩ := h_ended
      exact ⟨job, rest, h_lane, rfl, rfl, rfl, .inr ⟨cause, h_failure⟩⟩
    | _ => simp at h_ended
  | caller h_current h_step => simp [h_step.quiet _ h_ended] at h_loud
  | worker h_running h_job h_step => simp [h_step.quiet _ h_ended] at h_loud
  | _ => simp at h_ended

/-- A failure of a launch job is not that nobody has compiled its task. -/
theorem Known.scheduled_of_failed {m : Move C} (h : Known s) (h_layout : Layout cfg s)
    (h_step : Transition cfg env s m s' es) {n seq : Nat} {key : TaskId} {waited : Nat}
    {kernel : String} {digest : Digest} {message : String}
    (h_ended : Event.recordEnded n seq key waited (.error (.dispatch kernel digest message)) ∈ es) :
    message ≠ "no compilation was scheduled" := by
  rintro rfl
  obtain ⟨job, rest, h_lane, -, -, -, ⟨since, h_slot, h_failure⟩ | ⟨cause, h_failure⟩⟩ :=
    h_step.of_failed h_ended
  · obtain ⟨f, h_f⟩ := h_layout.exists_flush h_lane
    have h_known := h f h_f job.key ((h_layout.inFlush f h_f).key_mem (by simp [h_lane]))
    cases h_now : s.store.slot? job.key with
    | none => exact h_known h_now
    | some slot =>
      rw [h_now] at h_failure
      cases slot with
      | ready artifact => exact h_slot artifact h_now
      | pending => simp [missFailure] at h_failure
      | failed text =>
        simp only [missFailure, dispatchFailure, Failure.dispatch.injEq] at h_failure
        simpa using congrArg String.toList h_failure.2.2
  · simp only [dispatchFailure, Failure.dispatch.injEq] at h_failure
    simpa using congrArg String.toList h_failure.2.2

/-- The launch thread can go on if the slot of its first launch job has settled. -/
theorem launcherMove_of_settled {job : LaunchJob C} {rest : List (LaunchJob C)}
    {slot : Slot (Artifact C)} (h_lane : s.lane = job :: rest)
    (h_slot : s.store.slot? job.key = some slot) (h_settled : slot.isPending = false) :
    launcherMove cfg env s ≠ none := by
  unfold launcherMove
  simp only [h_lane]
  cases h_phase : job.phase with
  | queued | holding => simp
  | waiting since deadline =>
    cases slot with
    | pending => cases h_settled
    | ready | failed => simp [seekArtifact, ArtifactStore.examine, h_slot]

/-! ## All runs -/

variable {threads : Nat} {now : Moment} {ms : List (Move C)} {hs : List (Stamped C)}

/-- After the wait of a flush for its compile jobs no slot is pending, in any run: a flush that
comes so far has had no panicking caller before it. -/
theorem settled_of_run (h_run : run cfg env (start threads now) ms = some (t, hs))
    (h_f : t.current = some f) (h_stage : ¬ f.Requesting) (h_over : f.join.isOver = true)
    (k : TaskId) : t.store.slot? k ≠ some .pending := by
  have h_rested := rested_start (C := C) threads now
  by_cases h_calm : Calm (history hs)
  · have h_ready : AllReady (start (C := C) threads now) := by simp [AllReady, start]
    exact (awaited_of_run h_rested h_ready h_run h_calm).settled
      (consistent_of_run h_rested h_run) (filed_of_run h_rested h_run) h_f h_stage h_over k
  · simp only [Calm, not_forall, not_not] at h_calm
    obtain ⟨message, h_unwound⟩ := h_calm
    exact absurd ((stuck_of_run h_run h_unwound).requesting f h_f) h_stage

/-- In two phases no launch job finds its slot pending. -/
theorem settled_of_lane (h_run : run cfg env (start threads now) ms = some (t, hs))
    (h_pipelined : cfg.pipelined = false) (h_some : t.lane ≠ []) (k : TaskId) :
    t.store.slot? k ≠ some .pending := by
  have h_consistent := consistent_of_run (rested_start threads now) h_run
  obtain ⟨job, rest, h_lane⟩ := List.exists_cons_of_ne_nil h_some
  obtain ⟨f, h_f⟩ := h_consistent.layout.exists_flush h_lane
  obtain ⟨h_past, h_stage⟩ :=
    (h_consistent.layout.inFlush f h_f).pastJoin_of_lane h_pipelined h_some
  exact settled_of_run h_run h_f h_stage ((h_consistent.joined f h_f).isOver h_past) k

theorem known_of_lane (h_run : run cfg env (start threads now) ms = some (t, hs))
    {job : LaunchJob C} (h_job : job ∈ t.lane) : t.store.slot? job.key ≠ none := by
  have h_layout := layout_of_run h_run
  obtain ⟨_, _, h_lane⟩ := List.exists_cons_of_ne_nil (List.ne_nil_of_mem h_job)
  obtain ⟨f, h_f⟩ := h_layout.exists_flush h_lane
  exact known_of_run (rested_start threads now) h_run f h_f job.key
    ((h_layout.inFlush f h_f).key_mem h_job)

/-- In two phases no launch job fails because it has waited for too long. -/
theorem not_overdue_of_run (h_run : run cfg env (start threads now) ms = some (t, hs))
    (h_pipelined : cfg.pipelined = false) {n seq : Nat} {key : TaskId} {waited : Nat}
    {kernel : String} {digest : Digest} {span : Span} :
    Event.recordEnded n seq key waited (.error (.dispatchOverdue kernel digest span)) ∉
      history hs := by
  refine history_induction (P := fun _ _ es => Event.recordEnded n seq key waited
    (.error (.dispatchOverdue kernel digest span)) ∉ es) (by simp) ?_ h_run
  intro ms m t es u fs h_prefix _ h_before h_step h_ended
  rcases List.mem_append.1 h_ended with h_old | h_new
  · exact h_before h_old
  obtain ⟨job, rest, h_lane, -, -, -, ⟨since, h_slot, h_failure⟩ | ⟨cause, h_failure⟩⟩ :=
    h_step.of_failed h_new
  · have h_settled := settled_of_lane h_prefix h_pipelined (by simp [h_lane]) job.key
    cases h_now : t.store.slot? job.key with
    | none => simp [h_now, missFailure, dispatchFailure] at h_failure
    | some slot =>
      rw [h_now] at h_failure
      cases slot with
      | ready artifact => exact h_slot artifact h_now
      | pending => exact h_settled h_now
      | failed text => simp [missFailure, dispatchFailure] at h_failure
  · simp [dispatchFailure] at h_failure

/-- In either mode no launch job fails because nobody has compiled its task. -/
theorem scheduled_of_run (h_run : run cfg env (start threads now) ms = some (t, hs)) {n seq : Nat}
    {key : TaskId} {waited : Nat} {kernel : String} {digest : Digest} {message : String}
    (h_ended : Event.recordEnded n seq key waited (.error (.dispatch kernel digest message)) ∈
      history hs) : message ≠ "no compilation was scheduled" := by
  refine history_induction (P := fun _ _ es => Event.recordEnded n seq key waited
    (.error (.dispatch kernel digest message)) ∈ es → message ≠ "no compilation was scheduled")
    (by simp) ?_ h_run h_ended
  intro ms m t es u fs h_prefix _ h_before h_step h_ended
  rcases List.mem_append.1 h_ended with h_old | h_new
  · exact h_before h_old
  · exact (known_of_run (rested_start threads now) h_prefix).scheduled_of_failed
      (layout_of_run h_prefix) h_step h_new

/-- When the wait of a flush for its compile jobs is over, the slots of all its records are there
and have settled, however the jobs have come to their end or not come to it. So in two phases every
launch job finds its slot settled: the launch thread can always go on, and no record fails because
it has waited for too long, whatever the settings allow for that. In either mode the slot of every
launch job is there, and no record fails because nobody has compiled its task. -/
theorem launch_jobs_find_settled_slots
    (h_run : run cfg env (start threads now) ms = some (t, hs)) :
    (∀ f, t.current = some f → ¬ f.Requesting → f.join.isOver = true → ∀ r ∈ f.batch,
      ∃ slot, t.store.slot? r.key = some slot ∧ slot.isPending = false) ∧
    (cfg.pipelined = false →
      (∀ job ∈ t.lane, ∃ slot, t.store.slot? job.key = some slot ∧ slot.isPending = false) ∧
      (t.lane ≠ [] → launcherMove cfg env t ≠ none) ∧
      ∀ n seq key waited kernel digest span, Event.recordEnded n seq key waited
        (.error (.dispatchOverdue kernel digest span)) ∉ history hs) ∧
    (∀ job ∈ t.lane, ∀ late, t.store.examine job.key late ≠ some .missing) ∧
    ∀ n seq key waited kernel digest message, Event.recordEnded n seq key waited
      (.error (.dispatch kernel digest message)) ∈ history hs →
        message ≠ "no compilation was scheduled" := by
  have h_rested := rested_start (C := C) threads now
  have h_layout := layout_of_run h_run
  have h_settled {k : TaskId} (h_there : t.store.slot? k ≠ none)
      (h_done : t.store.slot? k ≠ some .pending) :
      ∃ slot, t.store.slot? k = some slot ∧ slot.isPending = false := by
    obtain ⟨slot, h_slot⟩ := Option.ne_none_iff_exists'.1 h_there
    refine ⟨slot, h_slot, ?_⟩
    cases slot with
    | pending => exact absurd h_slot h_done
    | ready | failed => rfl
  refine ⟨?_, fun h_pipelined => ⟨?_, ?_, ?_⟩, ?_, ?_⟩
  · intro f h_f h_stage h_over r h_r
    refine h_settled ?_ (settled_of_run h_run h_f h_stage h_over r.key)
    refine known_of_run h_rested h_run f h_f r.key ?_
    -- All tasks have been requested.
    have h_stages := (h_layout.inFlush f h_f).stage
    have h_keys : f.keys = f.batch.map Record.key := by
      unfold StageLayout at h_stages
      cases h_at : f.stage with
      | requesting rest => exact absurd ⟨rest, h_at⟩ h_stage
      | submitting | joining | draining =>
        rw [h_at] at h_stages
        exact h_stages.1
    rw [h_keys]
    exact List.mem_map_of_mem h_r
  · intro job h_job
    exact h_settled (known_of_lane h_run h_job)
      (settled_of_lane h_run h_pipelined (List.ne_nil_of_mem h_job) job.key)
  · intro h_some
    obtain ⟨job, rest, h_lane⟩ := List.exists_cons_of_ne_nil h_some
    obtain ⟨slot, h_slot, h_done⟩ := h_settled (known_of_lane h_run (by simp [h_lane]))
      (settled_of_lane h_run h_pipelined h_some job.key)
    exact launcherMove_of_settled h_lane h_slot h_done
  · intro n seq key waited kernel digest span
    exact not_overdue_of_run h_run h_pipelined
  · intro job h_job late
    obtain ⟨slot, h_slot⟩ := Option.ne_none_iff_exists'.1 (known_of_lane h_run h_job)
    simp only [ArtifactStore.examine, h_slot]
    cases slot with
    | pending => cases late <;> simp
    | ready | failed => simp
  · intro n seq key waited kernel digest message h_ended
    exact scheduled_of_run h_run h_ended

/-- A flush of two records as far as the wait for the first artifact: one task has compiled, and the
other one is still with the code generator when the flush gives up. -/
def halfCompiled : List (Move Nat) :=
  [[.enqueue ⟨0, "k", "a"⟩, .enqueue ⟨1, "k", "b"⟩, .flush], List.replicate 3 .caller,
    [.pick (.takeShared 0 0)], List.replicate 4 (.worker 0), [.caller],
    [.pick (.takeShared 0 0), .worker 0, .tick 1], List.replicate 5 .caller, [.launcher]].flatten

theorem both_slots_have_settled :
    ∃ t es, run impatient counted (start 1 0) halfCompiled = some (t, es) ∧
      t.current.map (·.join.gaveUp) = some true ∧
      t.jobs.map CompileJob.key = [.ofText "b"] ∧
      t.lane.map LaunchJob.key = [.ofText "a", .ofText "b"] ∧
      (∀ job ∈ t.lane, ∃ slot, t.store.slot? job.key = some slot ∧ slot.isPending = false) ∧
      launcherMove impatient counted t ≠ none ∧
      ∀ n seq key waited kernel digest span, Event.recordEnded n seq key waited
        (.error (.dispatchOverdue kernel digest span)) ∉ history es := by
  have h_summary : (run impatient counted (start 1 0) halfCompiled).map (fun r =>
      (r.1.current.map (·.join.gaveUp), r.1.jobs.map CompileJob.key,
        r.1.lane.map LaunchJob.key)) =
      some (some true, [.ofText "b"], [.ofText "a", .ofText "b"]) := rfl
  obtain ⟨⟨t, es⟩, h_run, h_eq⟩ := Option.map_eq_some_iff.1 h_summary
  simp only [Prod.mk.injEq] at h_eq
  obtain ⟨h_gaveUp, h_jobs, h_lane⟩ := h_eq
  have h_some : t.lane ≠ [] := by
    intro h_empty
    simp [h_empty] at h_lane
  obtain ⟨-, h_phased, -⟩ := launch_jobs_find_settled_slots h_run
  obtain ⟨h_settled, h_moves, h_inTime⟩ := h_phased rfl
  exact ⟨t, es, h_run, h_gaveUp, h_jobs, h_lane, h_settled, h_moves h_some, h_inTime⟩

end KernelDispatch.State
