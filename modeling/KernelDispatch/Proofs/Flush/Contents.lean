/-
  KernelDispatch.Proofs.Flush.Contents

  What slots and jobs hold if the code generator goes by the text of a task alone.

  Whoever compiles a task then comes to the same result, so it does not matter
  which compile job has settled a slot, in which flush and for which record. An
  artifact has the code of its task, and a slot that has failed stands for a task
  without code (`Faithful`). This takes that no deadline passes: then the caller
  gives up on a slot only after its compile job was lost, and until then a pending
  slot has a job that is still to settle it.
-/
import KernelDispatch.Proofs.Flush.Jobs

namespace KernelDispatch

variable {C : Type} {cfg : Settings} {env : Environment C} {g : String → Generated C}

/-! ## Results of the code generator -/

/-- The code generator goes by the text of a task alone. -/
def Environment.Textual (env : Environment C) (g : String → Generated C) : Prop :=
  ∀ calls call, env.codegen calls call = g call.task

/-- There is no code for a task. -/
def Uncompilable (g : String → Generated C) (k : TaskId) : Prop :=
  ∀ code, g k.text ≠ .code code

/-- A slot holds what the code generator makes of its task. -/
def Slot.Agrees (g : String → Generated C) (k : TaskId) : Slot (Artifact C) → Prop
  | .pending => True
  | .ready artifact => g k.text = .code artifact.code
  | .failed _ => Uncompilable g k

/-- A compile job holds what the code generator makes of its task. -/
def CompilePhase.Agrees (g : String → Generated C) (k : TaskId) : CompilePhase C → Prop
  | .generating _ result _ => result = g k.text
  | .generated (.ok artifact) => g k.text = .code artifact.code
  | .generated (.error _) => Uncompilable g k
  | .lost => Uncompilable g k
  | .queued => True
  | .settled _ => True

/-- A launch job holds what the code generator makes of its task. -/
def LaunchPhase.Agrees (g : String → Generated C) (k : TaskId) : LaunchPhase C → Prop
  | .holding _ artifact => g k.text = .code artifact.code
  | _ => True

/-- Whether a compile job is still to settle its slot. -/
def CompilePhase.isOpen : CompilePhase C → Bool
  | .queued => true
  | .generating .. => true
  | .generated _ => true
  | .lost => false
  | .settled _ => false

/-! ## Deadlines that pass -/

/-- Whether an event is that a deadline has passed. -/
def Event.isLate : Event C → Bool
  | polled _ (.expired _) _ => true
  | recordEnded _ _ _ _ (.error (.dispatchOverdue ..)) => true
  | launchJobExpired .. => true
  | _ => false

/-- No deadline has passed. -/
def Punctual (es : List (Event C)) : Prop :=
  ∀ e ∈ es, e.isLate = false

theorem Punctual.of_append {es fs : List (Event C)} (h : Punctual (es ++ fs)) :
    Punctual es ∧ Punctual fs :=
  ⟨fun e h_e => h e (List.mem_append_left _ h_e), fun e h_e => h e (List.mem_append_right _ h_e)⟩

theorem punctual_of_all {es : List (Event C)} (h : es.all (fun e => !e.isLate) = true) :
    Punctual es := by
  intro e h_e
  simpa using List.all_eq_true.1 h e h_e

namespace State

variable {s s' t : State C} {f f' : Flush C} {es fs : List (Event C)}

/-! ## Compile jobs -/

theorem jobContent_agrees {job : CompileJob C} {result : Except Failure (Artifact C)}
    (h : (CompilePhase.generated result).Agrees g job.key) :
    (jobContent job result).Agrees g job.key := by
  cases result <;> exact h

theorem afterCodegen_agrees {k : TaskId} {call : CodegenCall} {result : Generated C}
    (h : result = g k.text) : (afterCodegen call result).1.Agrees g k := by
  -- Failures of all kinds say the same about the task: it has no code.
  have h_none (h_ne : ∀ code, result ≠ .code code) : Uncompilable g k := fun code => h ▸ h_ne code
  cases result with
  | code code => exact h.symm
  | failed | panicked | lost | lostPanicking => exact h_none (by simp)

/-- After the code generator has come to its result, the job is still to settle its slot, or there
is no code. -/
theorem afterCodegen_isOpen {k : TaskId} {call : CodegenCall} {result : Generated C}
    (h : result = g k.text) : (afterCodegen call result).1.isOpen = true ∨ Uncompilable g k := by
  cases result with
  | code | failed | panicked => exact .inl rfl
  | lost | lostPanicking => exact .inr fun code => by simp [← h]

theorem PhaseStep.agrees {job : CompileJob C} {phase phase' : CompilePhase C}
    (h_textual : env.Textual g) (h : phase.Agrees g job.key)
    (h_step : PhaseStep env job phase phase') : phase'.Agrees g job.key := by
  cases h_step with
  | @starts calls call since h_task =>
    change env.codegen calls call = g job.key.text
    rw [h_textual, h_task]
  | generates => exact afterCodegen_agrees h
  | settles => trivial

/-- A compile job of the flush in progress is still to settle the slot of a task. -/
def Attends (s : State C) (k : TaskId) : Prop :=
  ∃ job ∈ s.jobs, job.key = k ∧ job.phase.isOpen = true ∧
    s.current.map Flush.number = some job.flush

/-- Slots and jobs hold what the code generator makes of their tasks, and slots that will not
settle have no code. -/
structure Faithful (g : String → Generated C) (s : State C) : Prop where
  slots : ∀ k slot, s.store.slot? k = some slot → slot.Agrees g k
  jobs : ∀ job ∈ s.jobs, job.phase.Agrees g job.key
  lane : ∀ job ∈ s.lane, job.phase.Agrees g job.key
  attended : ∀ k, s.store.slot? k = some .pending → Uncompilable g k ∨ s.Attends k
  known : ∀ f, s.current = some f → ∀ k ∈ f.keys, s.store.slot? k ≠ none

/-! ## Slots -/

/-- A flush gives up on its slots after its last compile job is gone, or after a deadline. -/
theorem gone_of_poll {inbox inbox' : List Outcome} {connected : Bool}
    {start deadline now : Moment}
    (h : Polled.poll inbox connected start deadline now = some (.orphaned, inbox')) :
    connected = false := by
  unfold Polled.poll at h
  split at h
  · simp at h
  · split at h
    · next h_gone => simpa using h_gone
    · split at h
      · simp at h
      · contradiction

theorem not_attends_of_gone (h_current : s.current = some f)
    (h_gone : s.hasReporter f.number = false) (k : TaskId) : ¬ s.Attends k := by
  rintro ⟨job, h_job, -, -, h_flush⟩
  have h_not := List.any_eq_false.1 h_gone job h_job
  simp [h_current] at h_flush
  simp [h_flush] at h_not

theorem SlotChange.agrees (h : Faithful g s) (h_punctual : Punctual es)
    (h_change : SlotChange s s' es) :
    ∀ k slot, s'.store.slot? k = some slot → slot.Agrees g k := by
  intro k slot h_slot
  cases h_change with
  | still h_slots => exact h.slots k slot (h_slots k ▸ h_slot)
  | cleared _ h_slots => exact h.slots k slot (h_slots k slot h_slot).2
  | scheduled _ _ _ h_slots =>
    rw [h_slots] at h_slot
    split at h_slot
    · cases h_slot
      trivial
    · exact h.slots k slot h_slot
  | @settled job result h_job h_phase h_slots =>
    rw [h_slots] at h_slot
    split at h_slot
    · next h_own =>
      cases h_slot
      rw [h_own.1]
      exact jobContent_agrees (h_phase ▸ h.jobs job h_job)
    · exact h.slots k slot h_slot
  | @polled f found inbox h_current _ _ h_poll h_slots h_es =>
    rw [h_slots] at h_slot
    cases found with
    | received => exact h.slots k slot h_slot
    | expired =>
      have h_late := h_punctual _ (h_es ▸ List.mem_singleton_self _)
      simp [Event.isLate] at h_late
    | orphaned =>
      -- No job is left to attend to the slots that are still pending, so they have no code.
      obtain ⟨slot₀, h_before, rfl⟩ := Option.map_eq_some_iff.1 h_slot
      split
      · next h_pending =>
        obtain rfl : slot₀ = .pending := by cases slot₀ <;> simp_all [Slot.isPending]
        have h_gone := not_attends_of_gone h_current (gone_of_poll h_poll) k
        exact (h.attended k h_before).resolve_right h_gone
      · exact h.slots k slot₀ h_before

/-- A slot is there until its flush is over. -/
theorem SlotChange.known (h : SlotChange s s' es) {k : TaskId} (h_known : s.store.slot? k ≠ none)
    (h_f' : s'.current = some f') : s'.store.slot? k ≠ none := by
  cases h with
  | still h_slots =>
    rw [h_slots]
    exact h_known
  | scheduled _ _ _ h_slots =>
    rw [h_slots]
    split
    · simp
    · exact h_known
  | settled _ _ h_slots =>
    rw [h_slots]
    split
    · simp
    · exact h_known
  | @polled _ found _ _ _ _ _ h_slots =>
    rw [h_slots]
    split
    · simpa using h_known
    · exact h_known
  | cleared h_current => simp [h_f'] at h_current

theorem request_known (store : ArtifactStore (Artifact C)) (k : TaskId) (n : Nat) :
    (store.request k n).2.slot? k ≠ none := by
  rw [ArtifactStore.slot?_request]
  split
  · simp
  · next h_not => simpa using h_not

/-- A task that a flush has requested was requested before the move, or it has a slot after it. -/
theorem Transition.requested_origin {m : Move C} (h : Transition cfg env s m s' es)
    (h_f' : s'.current = some f') {k : TaskId} (h_k : k ∈ f'.keys) :
    (∃ f, s.current = some f ∧ k ∈ f.keys) ∨ s'.store.slot? k ≠ none := by
  have h_same (h_outline : s'.current.map Flush.outline = s.current.map Flush.outline) :
      ∃ f, s.current = some f ∧ k ∈ f.keys := by
    obtain ⟨f, h_f, h_f_same⟩ := exists_flush_of_outline_eq h_outline h_f'
    have h_keys : f'.keys = f.keys := congrArg (fun g => g.keys) h_f_same
    exact ⟨f, h_f, h_keys ▸ h_k⟩
  cases h with
  | enqueue h_idle | dropArtifacts h_idle | returns h_idle => simp [h_idle] at h_f'
  | begins =>
    cases h_f'
    cases h_k
  | pick | tick => exact .inl ⟨f', h_f', h_k⟩
  | worker h_running h_job h_step => exact .inl (h_same h_step.samePlan.current)
  | launcher h_lane h_step => exact .inl (h_same h_step.plan.2.2)
  | caller h_current h_step =>
    cases h_step with
    | schedules | shares | reuses =>
      cases h_f'
      rcases List.mem_append.1 h_k with h_old | h_new
      · exact .inl ⟨_, h_current, h_old⟩
      · obtain rfl := List.mem_singleton.1 h_new
        exact .inr (request_known _ _ _)
    | unwinds | abandons | succeeds | fails => cases h_f'
    | _ =>
      cases h_f'
      exact .inl ⟨_, h_current, h_k⟩

/-! ## Pending slots -/

theorem mem_setPhase_of_ne {job : CompileJob C} {id : Nat} {phase : CompilePhase C}
    (h_job : job ∈ s.jobs) (h_ne : job.id ≠ id) : job ∈ (s.setPhase id phase).jobs :=
  List.mem_map.2 ⟨job, h_job, by simp [h_ne]⟩

theorem mem_setPhase_self {job : CompileJob C} {phase : CompilePhase C} (h_job : job ∈ s.jobs) :
    { job with phase := phase } ∈ (s.setPhase job.id phase).jobs :=
  List.mem_map.2 ⟨job, h_job, by simp⟩

theorem number_eq_of_outline_eq
    (h : s'.current.map Flush.outline = s.current.map Flush.outline) :
    s'.current.map Flush.number = s.current.map Flush.number := by
  have h_numbers := congrArg (Option.map Flush.number) h
  rwa [Option.map_map, Option.map_map] at h_numbers

/-- A compile job attends to its task as long as it is there, still to settle its slot. -/
theorem Attends.of_jobs {k : TaskId} (h : s.Attends k)
    (h_jobs : ∀ job ∈ s.jobs, job.key = k → job.phase.isOpen = true → job ∈ s'.jobs)
    (h_number : s'.current.map Flush.number = s.current.map Flush.number) : s'.Attends k := by
  obtain ⟨job, h_job, h_key, h_open, h_flush⟩ := h
  exact ⟨job, h_jobs job h_job h_key h_open, h_key, h_open, h_number.trans h_flush⟩

/-- A compile job that goes on attends to its task until it settles its slot or is lost. -/
theorem WorkerStep.attended {worker : Nat} {job : CompileJob C} (h : Faithful g s)
    (h_numbered : Numbered s) (h_job : job ∈ s.jobs)
    (h_step : WorkerStep cfg env s worker job s' es) {k : TaskId}
    (h_pending : s'.store.slot? k = some .pending) : Uncompilable g k ∨ s'.Attends k := by
  have h_number := number_eq_of_outline_eq h_step.samePlan.current
  -- Whoever attended to the task does so still, unless it is the job that moves.
  have h_same (other : CompileJob C) (h_other : other ∈ s.jobs) (h_id : other.id = job.id) :
      other = job :=
    List.inj_on_of_nodup_map h_numbered.distinct h_other h_job h_id
  have h_goes (phase : CompilePhase C) (h_jobs : s'.jobs = (s.setPhase job.id phase).jobs)
      (h_before : s.store.slot? k = some .pending)
      (h_phase : job.key = k → phase.isOpen = true ∨ Uncompilable g job.key) :
      Uncompilable g k ∨ s'.Attends k := by
    rcases h.attended k h_before with h_none | ⟨other, h_other, h_key, h_open, h_flush⟩
    · exact .inl h_none
    · by_cases h_id : other.id = job.id
      · obtain rfl := h_same other h_other h_id
        rcases h_phase h_key with h_open' | h_none
        · exact .inr ⟨{ other with phase := phase }, h_jobs ▸ mem_setPhase_self h_other, h_key,
            h_open', h_number.trans h_flush⟩
        · exact .inl (h_key ▸ h_none)
      · exact .inr ⟨other, h_jobs ▸ mem_setPhase_of_ne h_other h_id, h_key, h_open,
          h_number.trans h_flush⟩
  -- A job that is done was not still to settle its slot.
  have h_done (h_jobs : s'.jobs = s.jobs.filter (·.id != job.id))
      (h_closed : job.phase.isOpen = false) (h_before : s.store.slot? k = some .pending) :
      Uncompilable g k ∨ s'.Attends k := by
    refine (h.attended k h_before).imp_right fun h_attends => h_attends.of_jobs ?_ h_number
    intro other h_other _ h_open
    have h_ne : other.id ≠ job.id := by
      intro h_id
      rw [h_same other h_other h_id, h_closed] at h_open
      contradiction
    rw [h_jobs]
    exact List.mem_filter.2 ⟨h_other, by simpa using h_ne⟩
  cases h_step with
  | starts => exact h_goes _ rfl h_pending fun _ => .inl rfl
  | generates h_phase =>
    have h_agrees := h.jobs job h_job
    rw [h_phase] at h_agrees
    exact h_goes _ rfl h_pending fun _ => afterCodegen_isOpen h_agrees
  | @settles result h_phase =>
    rw [ArtifactStore.slot?_settle] at h_pending
    split at h_pending
    · cases result <;> cases h_pending
    · next h_not =>
      -- The job has just settled its own slot, so the pending slot is not its own.
      refine h_goes _ rfl h_pending fun h_key => absurd ⟨h_key.symm, ?_⟩ h_not
      rw [ArtifactStore.isPending_iff, h_key]
      exact h_pending
  | reports h_phase => exact h_done rfl (by rw [h_phase]; rfl) h_pending
  | loses h_phase => exact h_done rfl (by rw [h_phase]; rfl) h_pending
  | aborts =>
    exact (h.attended k h_pending).imp_right fun h_attends =>
      h_attends.of_jobs (fun _ h_job _ _ => h_job) h_number

/-- A flush leaves no slot pending behind unless its caller panics. -/
theorem CallerStep.attended (h : Faithful g s) (h_current : s.current = some f)
    (h_calm : Calm es) (h_step : CallerStep cfg env s f s' es)
    {k : TaskId} (h_pending : s'.store.slot? k = some .pending) :
    Uncompilable g k ∨ s'.Attends k := by
  have h_number (f₁ : Flush C) (h_f₁ : s'.current = some f₁) (h_same : f₁.number = f.number) :
      s'.current.map Flush.number = s.current.map Flush.number := by
    rw [h_f₁, h_current, Option.map_some, Option.map_some, h_same]
  have h_on (f₁ : Flush C) (h_f₁ : s'.current = some f₁) (h_same : f₁.number = f.number)
      (h_jobs : s'.jobs = s.jobs) (h_before : s.store.slot? k = some .pending) :
      Uncompilable g k ∨ s'.Attends k :=
    (h.attended k h_before).imp_right fun h_attends =>
      h_attends.of_jobs (fun job h_job _ _ => h_jobs ▸ h_job) (h_number f₁ h_f₁ h_same)
  cases h_step with
  | @schedules r rest h_stage h_new =>
    rw [ArtifactStore.slot?_request] at h_pending
    split at h_pending
    · next h_own =>
      -- The new job attends to its task.
      refine .inr ⟨⟨s.submitted, f.number, r.kernel, r.key, .queued⟩, ?_, h_own.1.symm, rfl, rfl⟩
      exact List.mem_append_right _ (List.mem_singleton_self _)
    · refine (h.attended k h_pending).imp_right fun h_attends => h_attends.of_jobs ?_ ?_
      · exact fun job h_job _ _ => List.mem_append_left _ h_job
      · exact h_number _ rfl rfl
  | shares h_stage h_known | reuses h_stage h_known =>
    rw [ArtifactStore.slot?_request] at h_pending
    split at h_pending
    · next h_own => exact absurd (h_own.1 ▸ h_own.2) h_known
    · exact h_on _ rfl rfl rfl h_pending
  | unwinds => exact absurd (List.mem_singleton_self _) (h_calm overflowMessage)
  | @polls found =>
    refine h_on _ rfl rfl rfl ?_
    simp only [storeAfter] at h_pending
    cases h_message : found.slotMessage? with
    | none => simpa [h_message] using h_pending
    | some message =>
      simp only [h_message, ArtifactStore.slot?_rejectPending, Option.map_eq_some_iff] at h_pending
      obtain ⟨slot, h_before, h_slot⟩ := h_pending
      split at h_slot
      · contradiction
      · rw [h_before, h_slot]
  | abandons | succeeds | fails =>
    have h_ready := (ArtifactStore.slot?_of_retain h_pending).1
    contradiction
  | _ => exact h_on _ rfl rfl rfl h_pending

theorem Transition.attended {m : Move C} (h : Faithful g s) (h_numbered : Numbered s)
    (h_calm : Calm es) (h_step : Transition cfg env s m s' es)
    {k : TaskId} (h_pending : s'.store.slot? k = some .pending) :
    Uncompilable g k ∨ s'.Attends k := by
  cases h_step with
  | dropArtifacts => simp at h_pending
  | begins h_idle =>
    -- Between flushes no job attends to anything, so a pending slot is for a task without code.
    refine (h.attended k h_pending).imp_right ?_
    rintro ⟨job, -, -, -, h_flush⟩
    simp [h_idle] at h_flush
  | caller h_current h_step => exact h_step.attended h h_current h_calm h_pending
  | worker h_running h_job h_step =>
    exact h_step.attended h h_numbered (List.mem_of_find?_eq_some h_job) h_pending
  | launcher h_lane h_step =>
    have h_number := number_eq_of_outline_eq h_step.plan.2.2
    have h_same (h_store : s'.store = s.store) (h_jobs : s'.jobs = s.jobs) :
        Uncompilable g k ∨ s'.Attends k :=
      (h.attended k (h_store ▸ h_pending)).imp_right fun h_attends =>
        h_attends.of_jobs (fun job h_job _ _ => h_jobs ▸ h_job) h_number
    cases h_step <;> exact h_same rfl rfl
  | enqueue | returns | pick | tick => exact h.attended k h_pending

/-! ## Launch jobs -/

theorem LauncherStep.agrees {job : LaunchJob C} {rest : List (LaunchJob C)} (h : Faithful g s)
    (h_lane : s.lane = job :: rest) (h_step : LauncherStep cfg env s job rest s' es) :
    ∀ other ∈ s'.lane, other.phase.Agrees g other.key := by
  have h_rest : ∀ other ∈ rest, other.phase.Agrees g other.key := fun other h_other =>
    h.lane other (h_lane ▸ List.mem_cons_of_mem _ h_other)
  have h_first (phase : LaunchPhase C) (h_phase : phase.Agrees g job.key) :
      ∀ other ∈ { job with phase := phase } :: rest, other.phase.Agrees g other.key := by
    rintro other (_ | ⟨_, h_other⟩)
    · exact h_phase
    · exact h_rest other h_other
  cases h_step with
  | waits => exact h_first _ trivial
  | finds h_phase h_slot => exact h_first _ (h.slots _ _ h_slot)
  | overflows | misses | mutes | expires | completes | panics | loses => exact h_rest
  | aborts => exact h.lane

theorem Transition.lane_agrees {m : Move C} (h : Faithful g s)
    (h_step : Transition cfg env s m s' es) : ∀ job ∈ s'.lane, job.phase.Agrees g job.key := by
  cases h_step with
  | caller h_current h_step =>
    cases h_step with
    | submits =>
      intro job h_job
      rcases List.mem_append.1 h_job with h_old | h_new
      · exact h.lane job h_old
      · obtain rfl := List.mem_singleton.1 h_new
        trivial
    | _ => exact h.lane
  | worker h_running h_job h_step => exact h_step.samePlan.lane.symm ▸ h.lane
  | launcher h_lane h_step => exact h_step.agrees h h_lane
  | _ => exact h.lane

/-! ## All moves -/

theorem Transition.faithful {m : Move C} (h : Faithful g s) (h_textual : env.Textual g)
    (h_numbered : Numbered s) (h_calm : Calm es)
    (h_punctual : Punctual es) (h_step : Transition cfg env s m s' es) : Faithful g s' where
  slots := h_step.slotChange.agrees h h_punctual
  jobs job' h_job' := by
    rcases h_step.job_step h_numbered h_job' with
      h_old | ⟨h_new, -⟩ | ⟨job, phase, h_job, h_phase, rfl⟩
    · exact h.jobs job' h_old
    · rw [h_new]
      trivial
    · have h_agrees : phase.Agrees g job.key := h_phase.agrees h_textual (h.jobs job h_job)
      exact h_agrees
  lane := h_step.lane_agrees h
  attended k h_pending := h_step.attended h h_numbered h_calm h_pending
  known f' h_f' k h_k := by
    rcases h_step.requested_origin h_f' h_k with ⟨f, h_f, h_old⟩ | h_new
    · exact h_step.slotChange.known (h.known f h_f k h_old) h_f'
    · exact h_new

/-- If the code generator goes by the text of a task alone, slots and jobs hold what it makes of
their tasks in every run in which no deadline passes and no caller panics. -/
theorem faithful_of_run {threads : Nat} {now : Moment} {ms : List (Move C)}
    {es : List (Stamped C)} (h_run : run cfg env (start threads now) ms = some (t, es))
    (h_textual : env.Textual g) (h_calm : Calm (history es))
    (h_punctual : Punctual (history es)) : Faithful g t := by
  refine history_induction (P := fun _ t es => Calm es → Punctual es → Faithful g t) ?_ ?_ h_run
    h_calm h_punctual
  · intro _ _
    refine ⟨?_, ?_, ?_, ?_, ?_⟩ <;> simp [start]
  · intro ms m t es u fs h_run _ h_before h_step h_calm h_punctual
    obtain ⟨h_punctual_before, h_punctual_now⟩ := h_punctual.of_append
    obtain ⟨h_calm_before, h_calm_now⟩ := h_calm.of_append
    exact h_step.faithful (h_before h_calm_before h_punctual_before) h_textual
      (numbered_of_run h_run) h_calm_now h_punctual_now

end State

end KernelDispatch
