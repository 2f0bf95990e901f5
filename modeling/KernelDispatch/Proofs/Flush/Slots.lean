/-
  KernelDispatch.Proofs.Flush.Slots

  What the moves of a dispatcher do to the slots of its store.

  `SlotChange` sums it up in five cases: a move leaves the slots alone, or it
  schedules a task, or a compile job settles its slot, or the caller polls and
  may give up on the slots that are still pending, or only artifacts stay
  (`Transition.slotChange`). A compile job has been scheduled
  (`jobs_scheduled_of_run`).
-/
import KernelDispatch.Proofs.Flush.History

namespace KernelDispatch

variable {C : Type} {cfg : Settings} {env : Environment C}

/-- Whether an event is about slots. -/
def Event.isSlot : Event C → Bool
  | scheduled .. => true
  | slotSettled .. => true
  | polled .. => true
  | _ => false

namespace State

variable {s s' t : State C} {f : Flush C} {es fs : List (Event C)}

/-- What a move does to the slots of the store. -/
inductive SlotChange (s s' : State C) (es : List (Event C)) : Prop where
  /-- Every slot stays as it is. -/
  | still (h_slots : ∀ k, s'.store.slot? k = s.store.slot? k)
      (h_quiet : ∀ e ∈ es, e.isSlot = false)
  /-- The task of a record is new. -/
  | scheduled {f : Flush C} {r : Record C} {rest : List (Record C)} {before : List (Event C)}
      (h_current : s.current = some f) (h_stage : f.stage = .requesting (r :: rest))
      (h_new : s.store.slot? r.key = none)
      (h_slots : ∀ k, s'.store.slot? k =
        if k = r.key then some .pending else s.store.slot? k)
      (h_quiet : ∀ e ∈ before, e.isSlot = false)
      (h_es : es = before ++ [.scheduled f.number s.submitted r.key])
  /-- A compile job settles its slot, if that is pending. -/
  | settled {job : CompileJob C} {result : Except Failure (Artifact C)} (h_job : job ∈ s.jobs)
      (h_phase : job.phase = .generated result)
      (h_slots : ∀ k, s'.store.slot? k =
        if k = job.key ∧ s.store.isPending job.key then some (jobContent job result)
        else s.store.slot? k)
      (h_es : es = [.slotSettled job.flush job.id job.key (jobContent job result)
        (s.store.isPending job.key)])
  /-- The caller polls; if it gives up, every pending slot fails. -/
  | polled {f : Flush C} {found : Polled} {inbox : List Outcome} (h_current : s.current = some f)
      (h_stage : f.stage = .joining) (h_over : f.join.isOver = false)
      (h_poll : Polled.poll f.inbox (s.hasReporter f.number) f.joinStart f.joinDeadline s.now =
        some (found, inbox))
      (h_slots : ∀ k, s'.store.slot? k = match found.slotMessage? with
        | some message =>
          (s.store.slot? k).map fun slot => if slot.isPending then .failed message else slot
        | none => s.store.slot? k)
      (h_es : es = [.polled f.number found (f.join.note found)])
  /-- Between flushes: only artifacts stay. -/
  | cleared (h_current : s'.current = none)
      (h_slots : ∀ k slot, s'.store.slot? k = some slot →
        slot.isReady = true ∧ s.store.slot? k = some slot)
      (h_quiet : ∀ e ∈ es, e.isSlot = false)

theorem CallerStep.slotChange (h_current : s.current = some f)
    (h : CallerStep cfg env s f s' es) : SlotChange s s' es := by
  have h_collided (key : TaskId) (r : Record C) :
      ∀ e ∈ (f.collision r).map fun first => Event.collided (C := C) first key,
        e.isSlot = false := by
    intro e h_e
    obtain ⟨_, -, rfl⟩ := List.mem_map.1 h_e
    rfl
  cases h with
  | @schedules r rest h_stage h_new =>
    refine .scheduled h_current h_stage h_new (fun k => ?_) (h_collided r.key r) rfl
    rw [ArtifactStore.slot?_request]
    simp only [h_new, and_true]
  -- A request for a task that has a slot only marks it as used.
  | @shares r rest h_stage h_known h_answer | @reuses r rest h_stage h_known h_answer =>
    refine .still (fun k => ?_) ?_
    · rw [ArtifactStore.slot?_request]
      simp only [h_known, and_false, if_false]
    · simp only [List.mem_append, List.mem_singleton]
      rintro e (h_e | rfl)
      · exact h_collided r.key r e h_e
      · rfl
  | @polls found inbox h_stage h_over h_poll =>
    refine .polled h_current h_stage h_over h_poll (fun k => ?_) rfl
    simp only [storeAfter]
    cases found.slotMessage? with
    | none => rfl
    | some message => exact ArtifactStore.slot?_rejectPending _ _ _
  | abandons | succeeds | fails =>
    refine .cleared rfl (fun k slot h_slot => ArtifactStore.slot?_of_retain h_slot) ?_
    simp [Event.isSlot, endedEvent]
  | _ => exact .still (fun _ => rfl) (by simp [Event.isSlot, joinedEvent])

theorem WorkerStep.slotChange {worker : Nat} {job : CompileJob C} (h_job : job ∈ s.jobs)
    (h : WorkerStep cfg env s worker job s' es) : SlotChange s s' es := by
  cases h with
  | settles h_phase =>
    refine .settled h_job h_phase (fun k => ?_) (by rw [ArtifactStore.settle_changed])
    exact ArtifactStore.slot?_settle _ _ _ _
  | _ => exact .still (fun _ => rfl) (by simp [Event.isSlot])

theorem LauncherStep.slotChange {job : LaunchJob C} {rest : List (LaunchJob C)}
    (h : LauncherStep cfg env s job rest s' es) : SlotChange s s' es := by
  cases h <;> exact .still (fun _ => rfl) (by simp [Event.isSlot])

theorem Transition.slotChange {m : Move C} (h : Transition cfg env s m s' es) :
    SlotChange s s' es := by
  cases h with
  | dropArtifacts h_idle =>
    refine .cleared h_idle (fun k slot h_slot => ?_) (by simp)
    simp at h_slot
  | caller h_current h_step => exact h_step.slotChange h_current
  | worker h_running h_job h_step => exact h_step.slotChange (List.mem_of_find?_eq_some h_job)
  | launcher h_lane h_step => exact h_step.slotChange
  | _ => exact .still (fun _ => rfl) (by simp [Event.isSlot])

/-! ## Compile jobs -/

/-- Two compile jobs that differ in their phases only. -/
def SameJob (j j' : CompileJob C) : Prop :=
  j'.id = j.id ∧ j'.flush = j.flush ∧ j'.kernel = j.kernel ∧ j'.key = j.key

theorem exists_sameJob_of_setPhase {id : Nat} {phase : CompilePhase C} {job' : CompileJob C}
    (h : job' ∈ (s.setPhase id phase).jobs) : ∃ job ∈ s.jobs, SameJob job job' := by
  obtain ⟨job, h_job, rfl⟩ := List.mem_map.1 h
  refine ⟨job, h_job, ?_⟩
  split <;> exact ⟨rfl, rfl, rfl, rfl⟩

/-- A compile job after a move was there before it, or it is scheduled by it for the next record of
the flush in progress. -/
theorem Transition.job_origin {m : Move C} (h : Transition cfg env s m s' es)
    {job' : CompileJob C} (h_job' : job' ∈ s'.jobs) :
    (∃ job ∈ s.jobs, SameJob job job') ∨
      Event.scheduled job'.flush job'.id job'.key ∈ es ∧
        ∃ f r rest, s.current = some f ∧ f.stage = .requesting (r :: rest) ∧
          job' = ⟨s.submitted, f.number, r.kernel, r.key, .queued⟩ := by
  -- Jobs keep their number, flush and task through all phases.
  have h_same (h_jobs : s'.jobs = s.jobs) : ∃ job ∈ s.jobs, SameJob job job' :=
    ⟨job', h_jobs ▸ h_job', rfl, rfl, rfl, rfl⟩
  cases h with
  | caller h_current h_step =>
    cases h_step with
    | schedules h_stage =>
      rcases List.mem_append.1 h_job' with h_old | h_new
      · exact .inl ⟨job', h_old, rfl, rfl, rfl, rfl⟩
      · obtain rfl := List.mem_singleton.1 h_new
        exact .inr ⟨List.mem_append_right _ (List.mem_singleton_self _), _, _, _, h_current,
          h_stage, rfl⟩
    | _ => exact .inl (h_same rfl)
  | worker h_running h_job h_step =>
    cases h_step with
    | starts | generates | settles => exact .inl (exists_sameJob_of_setPhase h_job')
    | reports | loses =>
      exact .inl ⟨job', (List.mem_filter.1 h_job').1, rfl, rfl, rfl, rfl⟩
    | aborts => exact .inl (h_same rfl)
  | launcher h_lane h_step => cases h_step <;> exact .inl (h_same rfl)
  | _ => exact .inl (h_same rfl)

/-- Every compile job has been scheduled. -/
theorem jobs_scheduled_of_run {threads : Nat} {now : Moment} {ms : List (Move C)}
    {es : List (Stamped C)} (h_run : run cfg env (start threads now) ms = some (t, es)) :
    ∀ job ∈ t.jobs, Event.scheduled job.flush job.id job.key ∈ history es := by
  refine history_induction
    (P := fun _ t es => ∀ job ∈ t.jobs, Event.scheduled job.flush job.id job.key ∈ es)
    (by simp [start]) ?_ h_run
  intro ms m t es u fs _ _ h_before h_step job h_job
  rcases h_step.job_origin h_job with ⟨job₀, h_job₀, h_id, h_flush, -, h_key⟩ | ⟨h_new, -⟩
  · rw [h_id, h_flush, h_key]
    exact List.mem_append_left _ (h_before job₀ h_job₀)
  · exact List.mem_append_right _ h_new

/-- A slot is settled by a compile job with its result, and it changes if it is pending. -/
theorem Transition.of_settled {m : Move C} (h : Transition cfg env s m s' es) {n j : Nat}
    {key : TaskId} {content : Slot (Artifact C)} {changed : Bool}
    (h_settled : Event.slotSettled n j key content changed ∈ es) :
    ∃ job ∈ s.jobs, ∃ result, job.phase = .generated result ∧ job.flush = n ∧ job.id = j ∧
      job.key = key ∧ jobContent job result = content ∧ s.store.isPending key = changed := by
  cases h.slotChange with
  | still _ h_quiet | cleared _ _ h_quiet => simpa [Event.isSlot] using h_quiet _ h_settled
  | scheduled _ _ _ _ h_quiet h_es =>
    subst h_es
    simp only [List.mem_append, List.mem_singleton, reduceCtorEq, or_false] at h_settled
    simpa [Event.isSlot] using h_quiet _ h_settled
  | @settled job result h_job h_phase _ h_es =>
    subst h_es
    obtain ⟨rfl, rfl, rfl, rfl, rfl⟩ := Event.slotSettled.inj (List.mem_singleton.1 h_settled)
    exact ⟨job, h_job, result, h_phase, rfl, rfl, rfl, rfl, rfl⟩
  | polled _ _ _ _ _ h_es =>
    subst h_es
    simp at h_settled

/-- A compile job that settles its slot has been scheduled. -/
theorem settled_scheduled_of_run {threads : Nat} {now : Moment} {ms : List (Move C)}
    {es : List (Stamped C)} (h_run : run cfg env (start threads now) ms = some (t, es))
    {n j : Nat} {key : TaskId} {content : Slot (Artifact C)} {changed : Bool}
    (h_settled : Event.slotSettled n j key content changed ∈ history es) :
    Event.scheduled n j key ∈ history es := by
  refine history_induction (P := fun _ _ es => Event.slotSettled n j key content changed ∈ es →
    Event.scheduled n j key ∈ es) (by simp) ?_ h_run h_settled
  intro ms m t es u fs h_run _ h_before h_step h_settled
  -- The job was scheduled before the move that settles its slot.
  refine List.mem_append_left _ ?_
  rcases List.mem_append.1 h_settled with h_old | h_new
  · exact h_before h_old
  · obtain ⟨job, h_job, -, -, rfl, rfl, rfl, -⟩ := h_step.of_settled h_new
    exact jobs_scheduled_of_run h_run job h_job

/-- A compile job is lost by its worker. -/
theorem Transition.of_lost {m : Move C} (h : Transition cfg env s m s' es) {n j worker : Nat}
    (h_lost : Event.compileJobLost n j worker ∈ es) :
    ∃ job ∈ s.jobs, job.flush = n ∧ job.id = j := by
  cases h with
  | @worker _ _ job _ _ h_running h_found h_step =>
    have h_job : job ∈ s.jobs := List.mem_of_find?_eq_some h_found
    cases h_step with
    | loses =>
      obtain ⟨rfl, rfl, -⟩ := Event.compileJobLost.inj (List.mem_singleton.1 h_lost)
      exact ⟨job, h_job, rfl, rfl⟩
    | _ => simp at h_lost
  | caller h_current h_step =>
    cases h_step with
    | schedules | shares | reuses => simp at h_lost
    | _ => simp [joinedEvent, endedEvent] at h_lost
  | launcher h_lane h_step => cases h_step <;> simp at h_lost
  | _ => simp at h_lost

/-- A compile job that is lost has been scheduled. -/
theorem lost_scheduled_of_run {threads : Nat} {now : Moment} {ms : List (Move C)}
    {es : List (Stamped C)} (h_run : run cfg env (start threads now) ms = some (t, es))
    {n j worker : Nat} (h_lost : Event.compileJobLost n j worker ∈ history es) :
    ∃ key, Event.scheduled n j key ∈ history es := by
  refine history_induction (P := fun _ _ es => Event.compileJobLost n j worker ∈ es →
    ∃ key, Event.scheduled n j key ∈ es) (by simp) ?_ h_run h_lost
  intro ms m t es u fs h_run _ h_before h_step h_lost
  suffices h_scheduled : ∃ key, Event.scheduled n j key ∈ history es by
    obtain ⟨key, h_e⟩ := h_scheduled
    exact ⟨key, List.mem_append_left _ h_e⟩
  rcases List.mem_append.1 h_lost with h_old | h_new
  · exact h_before h_old
  · obtain ⟨job, h_job, rfl, rfl⟩ := h_step.of_lost h_new
    exact ⟨job.key, jobs_scheduled_of_run h_run job h_job⟩

/-- A task is scheduled on a move of the caller that finds no slot for it. -/
theorem Transition.of_scheduled {m : Move C} (h : Transition cfg env s m s' es) {n j : Nat}
    {key : TaskId} (h_scheduled : Event.scheduled n j key ∈ es) :
    ∃ f r rest, s.current = some f ∧ f.stage = .requesting (r :: rest) ∧ f.number = n ∧
      r.key = key ∧ j = s.submitted ∧ s.store.slot? key = none ∧
      s'.store.slot? key = some .pending ∧
      s'.current = some (f.requested r rest .scheduled) := by
  cases h with
  | @caller f _ _ h_current h_step =>
    cases h_step with
    | @schedules r rest h_stage h_new =>
      rcases List.mem_append.1 h_scheduled with h_before | h_last
      · obtain ⟨_, -, h_eq⟩ := List.mem_map.1 h_before
        cases h_eq
      · obtain ⟨rfl, rfl, rfl⟩ := Event.scheduled.inj (List.mem_singleton.1 h_last)
        refine ⟨f, r, rest, h_current, h_stage, rfl, rfl, rfl, h_new, ?_, rfl⟩
        rw [ArtifactStore.slot?_request, if_pos ⟨rfl, h_new⟩]
    | shares | reuses => simp at h_scheduled
    | _ => simp [joinedEvent, endedEvent] at h_scheduled
  | worker h_running h_job h_step => cases h_step <;> simp at h_scheduled
  | launcher h_lane h_step => cases h_step <;> simp at h_scheduled
  | _ => simp at h_scheduled

/-- A flush schedules its own compile jobs. -/
theorem Transition.scheduled_current {m : Move C} (h : Transition cfg env s m s' es) {n j : Nat}
    {key : TaskId} (h_scheduled : Event.scheduled n j key ∈ es) :
    ∃ f, s.current = some f ∧ f.number = n := by
  obtain ⟨f, _, _, h_f, -, h_number, -⟩ := h.of_scheduled h_scheduled
  exact ⟨f, h_f, h_number⟩

/-- A flush polls while it waits for its own compile jobs. -/
theorem Transition.of_polled {m : Move C} (h : Transition cfg env s m s' es) {n : Nat}
    {found : Polled} {join : Join} (h_polled : Event.polled n found join ∈ es) :
    ∃ f inbox, s.current = some f ∧ f.number = n ∧ f.stage = .joining ∧ f.join.isOver = false ∧
      Polled.poll f.inbox (s.hasReporter f.number) f.joinStart f.joinDeadline s.now =
        some (found, inbox) ∧
      join = f.join.note found ∧ es = [.polled n found join] := by
  cases h.slotChange with
  | still _ h_quiet | cleared _ _ h_quiet => simpa [Event.isSlot] using h_quiet _ h_polled
  | scheduled _ _ _ _ h_quiet h_es =>
    subst h_es
    simp only [List.mem_append, List.mem_singleton, reduceCtorEq, or_false] at h_polled
    simpa [Event.isSlot] using h_quiet _ h_polled
  | settled _ _ _ h_es =>
    subst h_es
    simp at h_polled
  | @polled f _ inbox h_current h_stage h_over h_poll _ h_es =>
    subst h_es
    obtain ⟨rfl, rfl, rfl⟩ := Event.polled.inj (List.mem_singleton.1 h_polled)
    exact ⟨f, inbox, h_current, rfl, h_stage, h_over, h_poll, rfl, rfl⟩

/-- A compile job is scheduled by a flush that has begun. -/
theorem scheduled_le_of_run {threads : Nat} {now : Moment} {ms : List (Move C)}
    {es : List (Stamped C)} (h_run : run cfg env (start threads now) ms = some (t, es))
    {n j : Nat} {key : TaskId} (h_scheduled : Event.scheduled n j key ∈ history es) :
    n ≤ t.flushes := by
  refine history_induction (P := fun _ t es => Event.scheduled n j key ∈ es → n ≤ t.flushes)
    (by simp) ?_ h_run h_scheduled
  intro ms m t es u fs h_run _ h_before h_step h_scheduled
  refine Nat.le_trans ?_ h_step.flushes_le
  rcases List.mem_append.1 h_scheduled with h_old | h_new
  · exact h_before h_old
  · obtain ⟨f, h_f, rfl⟩ := h_step.scheduled_current h_new
    exact Nat.le_of_eq ((layout_of_run h_run).inFlush f h_f).number

end State

end KernelDispatch
