/-
  KernelDispatch.Proofs.Flush.Builds

  The calls of the code generator, and what they come to.

  The code generator answers a call by what it has been asked before, and the history
  tells what that is (`callsIn`), so it also tells what each call comes to (`Built`). A
  compile job that has been started holds what its call comes to, in whatever form its
  phase has it (`CompilePhase.Holds`), and an artifact in the store is what a call for its
  task has come to, whoever has settled the slot and in which flush
  (`sourced_of_run`). This holds of every run; the code generator may do as it likes.
-/
import KernelDispatch.Proofs.Flush.Contents

namespace KernelDispatch

variable {C : Type} {cfg : Settings} {env : Environment C}

/-! ## Calls -/

/-- The call of the code generator in an event. -/
def Event.call? : Event C → Option CodegenCall
  | codegenCalled _ _ _ call => some call
  | _ => none

/-- The calls of the code generator, newest first. -/
def callsIn (es : List (Event C)) : List CodegenCall :=
  (es.filterMap Event.call?).reverse

theorem callsIn_append (es fs : List (Event C)) :
    callsIn (es ++ fs) = callsIn fs ++ callsIn es := by
  simp [callsIn]

theorem callsIn_of_quiet {es : List (Event C)} (h : ∀ e ∈ es, e.call? = none) :
    callsIn es = [] := by
  rw [callsIn, List.filterMap_eq_nil_iff.2 h, List.reverse_nil]

/-- Flush `n` has called the code generator for a task, and the call has come to this result. -/
def Built (env : Environment C) (es : List (Event C)) (n : Nat) (key : TaskId) (call : CodegenCall)
    (result : Generated C) : Prop :=
  ∃ past worker later, es = past ++ .codegenCalled n worker key call :: later ∧
    call.task = key.text ∧ env.codegen (callsIn past) call = result

variable {es fs : List (Event C)} {n : Nat} {key : TaskId} {call : CodegenCall}
  {result : Generated C}

/-- What a call has come to does not depend on what comes later. -/
theorem Built.extend (h : Built env es n key call result) (fs : List (Event C)) :
    Built env (es ++ fs) n key call result := by
  obtain ⟨past, worker, later, rfl, h_task, h_result⟩ := h
  exact ⟨past, worker, later ++ fs, by simp, h_task, h_result⟩

/-- What a call comes to that is the next event. -/
theorem built_concat {worker : Nat} (h_task : call.task = key.text) :
    Built env (es ++ [.codegenCalled n worker key call]) n key call
      (env.codegen (callsIn es) call) :=
  ⟨es, worker, [], rfl, h_task, rfl⟩

/-! ## Compile jobs -/

/-- A compile job in a phase that comes from this call with this result. -/
def CompilePhase.Holds (job : CompileJob C) (call : CodegenCall) (result : Generated C) :
    CompilePhase C → Prop
  | .queued => False
  | .generating call' result' _ => call' = call ∧ result' = result
  | .generated r => (State.afterCodegen call result).1 = .generated r
  | .lost => (State.afterCodegen call result).1 = .lost
  | .settled outcome => ∃ r, (State.afterCodegen call result).1 = .generated r ∧
      outcome = State.jobOutcome job r

namespace State

variable {s s' t : State C} {f : Flush C}

theorem jobOutcome_congr {job job' : CompileJob C} (h_kernel : job'.kernel = job.kernel)
    (h_key : job'.key = job.key) (r : Except Failure (Artifact C)) :
    jobOutcome job' r = jobOutcome job r := by
  cases r with
  | ok => rfl
  | error cause => simp only [jobOutcome, compileFailure, h_kernel, h_key]

theorem afterCodegen_holds (job : CompileJob C) (call : CodegenCall) (result : Generated C) :
    (afterCodegen call result).1.Holds job call result := by
  cases result <;> rfl

/-- An artifact has the code that its call has come to. -/
theorem code_of_generated {artifact : Artifact C}
    (h : (afterCodegen call result).1 = .generated (.ok artifact)) :
    call = artifact.origin ∧ result = .code artifact.code := by
  cases result with
  | code =>
    cases h
    exact ⟨rfl, rfl⟩
  | failed | panicked | lost | lostPanicking => cases h

/-- A job that goes on holds what its call has come to. -/
theorem PhaseStep.holds {job : CompileJob C} {phase phase' : CompilePhase C}
    (h_step : PhaseStep env job phase phase') (h : phase.Holds job call result) :
    phase'.Holds job call result := by
  cases h_step with
  | starts => exact h.elim
  | generates =>
    obtain ⟨rfl, rfl⟩ := h
    exact afterCodegen_holds ..
  | settles => exact ⟨_, h, rfl⟩

/-- A compile job that this call has started, and that holds what the call has come to. -/
structure From (call : CodegenCall) (result : Generated C) (job : CompileJob C) : Prop where
  kernel : call.kernel = job.kernel
  holds : job.phase.Holds job call result

theorem From.step {job : CompileJob C} {phase : CompilePhase C} (h : From call result job)
    (h_step : PhaseStep env job job.phase phase) :
    From call result { job with phase := phase } := by
  refine ⟨h.kernel, ?_⟩
  have h_after := h_step.holds h.holds
  cases phase with
  | settled outcome =>
    obtain ⟨r, h_r, rfl⟩ := h_after
    exact ⟨r, h_r, (jobOutcome_congr rfl rfl r).symm⟩
  | _ => exact h_after

/-- A compile job has been started with a call of its own, and it holds what that has come to. -/
def Sourced (env : Environment C) (es : List (Event C)) (job : CompileJob C) : Prop :=
  ∃ call result, Built env es job.flush job.key call result ∧ From call result job

theorem Sourced.extend {job : CompileJob C} (h : Sourced env es job) (fs : List (Event C)) :
    Sourced env (es ++ fs) job := by
  obtain ⟨call, result, h_built, h_from⟩ := h
  exact ⟨call, result, h_built.extend fs, h_from⟩

theorem Sourced.step {job : CompileJob C} {phase : CompilePhase C} (h : Sourced env es job)
    (h_step : PhaseStep env job job.phase phase) : Sourced env es { job with phase := phase } := by
  obtain ⟨call, result, h_built, h_from⟩ := h
  exact ⟨call, result, h_built, h_from.step h_step⟩

/-! ## Runs -/

/-- The calls are those in the history, and everything that has been compiled comes from one of
them. -/
structure Traced (env : Environment C) (s : State C) (es : List (Event C)) : Prop where
  calls : s.calls = callsIn es
  jobs : ∀ job ∈ s.jobs, job.phase = .queued ∨ Sourced env es job
  slots : ∀ k artifact, s.store.slot? k = some (.ready artifact) →
    ∃ n, Built env es n k artifact.origin (.code artifact.code)

/-- Only compile workers call the code generator. -/
theorem CallerStep.callsNothing (h : CallerStep cfg env s f s' es) :
    s'.calls = s.calls ∧ ∀ e ∈ es, e.call? = none := by
  cases h with
  | schedules | shares | reuses =>
    refine ⟨rfl, ?_⟩
    simp only [List.mem_append, List.mem_map, List.mem_singleton]
    rintro e (⟨_, -, rfl⟩ | rfl) <;> rfl
  | _ => exact ⟨rfl, by simp [Event.call?, joinedEvent, endedEvent]⟩

theorem LauncherStep.callsNothing {job : LaunchJob C} {rest : List (LaunchJob C)}
    (h : LauncherStep cfg env s job rest s' es) :
    s'.calls = s.calls ∧ ∀ e ∈ es, e.call? = none := by
  cases h <;> exact ⟨rfl, by simp [Event.call?]⟩

/-- A call of the code generator starts a compile job. -/
theorem Transition.of_called {m : Move C} (h_step : Transition cfg env s m s' es) {n worker : Nat}
    {key : TaskId} {call : CodegenCall} (h_e : Event.codegenCalled n worker key call ∈ es) :
    es = [.codegenCalled n worker key call] ∧ ∃ job ∈ s.jobs, job.flush = n ∧ job.key = key ∧
      call.kernel = job.kernel ∧
      { job with phase := .generating call (env.codegen s.calls call) s.now } ∈ s'.jobs := by
  cases h_step with
  | @worker _ _ job _ _ _ h_found h_step =>
    have h_job : job ∈ s.jobs := List.mem_of_find?_eq_some h_found
    cases h_step with
    | starts _ h_call =>
      obtain ⟨rfl, rfl, rfl, rfl⟩ := Event.codegenCalled.inj (List.mem_singleton.1 h_e)
      exact ⟨rfl, job, h_job, rfl, rfl, by rw [h_call]; rfl, mem_setPhase_self h_job⟩
    | _ => simp at h_e
  | caller _ h_step =>
    have h_none := h_step.callsNothing.2 _ h_e
    cases h_none
  | launcher _ h_step =>
    have h_none := h_step.callsNothing.2 _ h_e
    cases h_none
  | _ => simp at h_e

theorem WorkerStep.traced_calls {worker : Nat} {job : CompileJob C} (h : s.calls = callsIn fs)
    (h_step : WorkerStep cfg env s worker job s' es) : s'.calls = callsIn (fs ++ es) := by
  rw [callsIn_append, ← h]
  cases h_step <;> rfl

/-- A worker that calls the code generator does so for its own job, and what the call comes to is
what the job then holds. -/
theorem WorkerStep.traced_jobs {worker : Nat} {job : CompileJob C} (h : Traced env s fs)
    (h_numbered : Numbered s) (h_job : job ∈ s.jobs)
    (h_step : WorkerStep cfg env s worker job s' es) :
    ∀ job' ∈ s'.jobs, job'.phase = .queued ∨ Sourced env (fs ++ es) job' := by
  intro job' h_job'
  have h_old (h_mem : job' ∈ s.jobs) : job'.phase = .queued ∨ Sourced env (fs ++ es) job' :=
    (h.jobs job' h_mem).imp_right (·.extend es)
  have h_goesOn {phase phase' : CompilePhase C} (h_phase : job.phase = phase)
      (h_started : phase ≠ .queued) (h_next : PhaseStep env job phase phase')
      (h_mem : job' ∈ (s.setPhase job.id phase').jobs) :
      job'.phase = .queued ∨ Sourced env (fs ++ es) job' := by
    rcases job_of_setPhase h_numbered h_job h_mem with h_same | rfl
    · exact h_old h_same
    · subst h_phase
      have h_sourced := (h.jobs job h_job).resolve_left h_started
      exact .inr ((h_sourced.extend es).step h_next)
  cases h_step with
  | @starts call h_phase h_call =>
    rcases job_of_setPhase h_numbered h_job h_job' with h_same | rfl
    · exact h_old h_same
    · refine .inr ⟨call, env.codegen s.calls call, ?_, ⟨by rw [h_call]; rfl, rfl, rfl⟩⟩
      rw [h.calls]
      exact built_concat (by rw [h_call]; rfl)
  | generates h_phase => exact h_goesOn h_phase (by simp) .generates h_job'
  | settles h_phase => exact h_goesOn h_phase (by simp) .settles h_job'
  | reports | loses => exact h_old (List.mem_filter.1 h_job').1
  | aborts => exact h_old h_job'

/-- An artifact in a slot was there before, or a job has just settled the slot with what it
holds. -/
theorem SlotChange.traced (h_change : SlotChange s s' es) (h : Traced env s fs) {k : TaskId}
    {artifact : Artifact C} (h_slot : s'.store.slot? k = some (.ready artifact)) :
    ∃ n, Built env (fs ++ es) n k artifact.origin (.code artifact.code) := by
  have h_old (h_before : s.store.slot? k = some (.ready artifact)) :
      ∃ n, Built env (fs ++ es) n k artifact.origin (.code artifact.code) :=
    (h.slots k artifact h_before).imp fun _ h_built => h_built.extend es
  cases h_change with
  | still h_slots => exact h_old (h_slots k ▸ h_slot)
  | scheduled _ _ _ h_slots =>
    rw [h_slots] at h_slot
    split at h_slot
    · cases h_slot
    · exact h_old h_slot
  | @settled job r h_job h_phase h_slots =>
    rw [h_slots] at h_slot
    split at h_slot
    · next h_own =>
      obtain rfl := h_own.1
      cases r with
      | error => cases h_slot
      | ok =>
        cases h_slot
        obtain ⟨call, result, h_built, -, h_holds⟩ :=
          (h.jobs job h_job).resolve_left (by simp [h_phase])
        rw [h_phase] at h_holds
        obtain ⟨rfl, rfl⟩ := code_of_generated h_holds
        exact ⟨job.flush, h_built.extend es⟩
    · exact h_old h_slot
  | polled _ _ _ _ h_slots =>
    rw [h_slots] at h_slot
    split at h_slot
    · obtain ⟨slot, h_before, h_same⟩ := Option.map_eq_some_iff.1 h_slot
      split at h_same
      · cases h_same
      · exact h_old (h_same ▸ h_before)
    · exact h_old h_slot
  | cleared _ h_slots => exact h_old (h_slots k _ h_slot).2

theorem Transition.traced {m : Move C} (h : Traced env s fs) (h_numbered : Numbered s)
    (h_step : Transition cfg env s m s' es) : Traced env s' (fs ++ es) := by
  refine ⟨?_, ?_, fun k artifact => h_step.slotChange.traced h⟩
  · have h_quiet (h_same : s'.calls = s.calls) (h_none : ∀ e ∈ es, e.call? = none) :
        s'.calls = callsIn (fs ++ es) := by
      rw [callsIn_append, callsIn_of_quiet h_none, h_same, h.calls]
      rfl
    cases h_step with
    | caller _ h_step => exact h_quiet h_step.callsNothing.1 h_step.callsNothing.2
    | worker _ _ h_step => exact h_step.traced_calls h.calls
    | launcher _ h_step => exact h_quiet h_step.callsNothing.1 h_step.callsNothing.2
    | _ => exact h_quiet rfl (by simp [Event.call?])
  · have h_same (h_jobs : s'.jobs = s.jobs) :
        ∀ job ∈ s'.jobs, job.phase = .queued ∨ Sourced env (fs ++ es) job := fun job h_job =>
      (h.jobs job (h_jobs ▸ h_job)).imp_right (·.extend es)
    cases h_step with
    | caller _ h_step =>
      cases h_step with
      | schedules =>
        intro job h_job
        rcases List.mem_append.1 h_job with h_old | h_new
        · exact (h.jobs job h_old).imp_right (·.extend _)
        · obtain rfl := List.mem_singleton.1 h_new
          exact .inl rfl
      | _ => exact h_same rfl
    | worker _ h_found h_step =>
      exact h_step.traced_jobs h h_numbered (List.mem_of_find?_eq_some h_found)
    | launcher _ h_step => cases h_step <;> exact h_same rfl
    | _ => exact h_same rfl

/-- In every run everything that has been compiled comes from a call of the code generator for its
task. -/
theorem traced_of_run {threads : Nat} {now : Moment} {ms : List (Move C)} {es : List (Stamped C)}
    (h_run : run cfg env (start threads now) ms = some (t, es)) : Traced env t (history es) := by
  refine history_induction (P := fun _ t es => Traced env t es) ?_ ?_ h_run
  · exact ⟨rfl, by simp [start], by simp [start]⟩
  · intro ms m t es u fs h_prefix _ h_traced h_step
    exact h_step.traced h_traced (numbered_of_run h_prefix)

/-! ## Events about calls -/

/-- A call of the code generator is for a task that its flush has scheduled. -/
theorem called_scheduled_of_run {threads : Nat} {now : Moment} {ms : List (Move C)}
    {es : List (Stamped C)} (h_run : run cfg env (start threads now) ms = some (t, es))
    {n worker : Nat} {key : TaskId} {call : CodegenCall}
    (h_e : Event.codegenCalled n worker key call ∈ history es) :
    ∃ j, Event.scheduled n j key ∈ history es := by
  refine history_induction (P := fun _ _ es => Event.codegenCalled n worker key call ∈ es →
    ∃ j, Event.scheduled n j key ∈ es) (by simp) ?_ h_run h_e
  intro ms m t es u fs h_prefix _ h_before h_step h_e
  rcases List.mem_append.1 h_e with h_old | h_new
  · exact (h_before h_old).imp fun _ => List.mem_append_left _
  · obtain ⟨-, job, h_job, rfl, rfl, -⟩ := h_step.of_called h_new
    exact ⟨job.id, List.mem_append_left _ (jobs_scheduled_of_run h_prefix job h_job)⟩

/-- A compile job that has an artifact to publish had it before, or its code generator has just
ended well. -/
theorem Transition.of_generated {m : Move C} (h_numbered : Numbered s)
    (h_step : Transition cfg env s m s' es) {job : CompileJob C} (h_job : job ∈ s'.jobs)
    {artifact : Artifact C} (h_phase : job.phase = .generated (.ok artifact)) :
    job ∈ s.jobs ∨ ∃ elapsed, Event.codegenEnded job.flush job.key elapsed true none ∈ es := by
  cases h_step with
  | caller _ h_step =>
    cases h_step with
    | schedules =>
      rcases List.mem_append.1 h_job with h_old | h_new
      · exact .inl h_old
      · obtain rfl := List.mem_singleton.1 h_new
        cases h_phase
    | _ => exact .inl h_job
  | @worker _ _ moved _ _ _ h_found h_step =>
    have h_moved : moved ∈ s.jobs := List.mem_of_find?_eq_some h_found
    cases h_step with
    | starts | settles =>
      rcases job_of_setPhase h_numbered h_moved h_job with h_old | rfl
      · exact .inl h_old
      · cases h_phase
    | @generates call result since =>
      rcases job_of_setPhase h_numbered h_moved h_job with h_old | rfl
      · exact .inl h_old
      · -- Of the results only code becomes an artifact.
        cases result with
        | code code => exact .inr ⟨_, List.mem_singleton_self _⟩
        | _ => cases h_phase
    | reports | loses => exact .inl (List.mem_filter.1 h_job).1
    | aborts => exact .inl h_job
  | launcher _ h_step => cases h_step <;> exact .inl h_job
  | _ => exact .inl h_job

/-- Before a compile job publishes an artifact, the code generator has ended well for its task. -/
theorem ended_of_published {threads : Nat} {now : Moment} {ms : List (Move C)}
    {es : List (Stamped C)} (h_run : run cfg env (start threads now) ms = some (t, es)) {n j : Nat}
    {key : TaskId} {artifact : Artifact C} {changed : Bool}
    (h_e : Event.slotSettled n j key (.ready artifact) changed ∈ history es) :
    ∃ elapsed, Event.codegenEnded n key elapsed true none ∈ history es := by
  have h_both : (∀ job ∈ t.jobs, ∀ artifact, job.phase = .generated (.ok artifact) →
        ∃ elapsed, Event.codegenEnded job.flush job.key elapsed true none ∈ history es) ∧
      ∀ n j key artifact changed, Event.slotSettled n j key (.ready artifact) changed ∈ history es →
        ∃ elapsed, Event.codegenEnded n key elapsed true none ∈ history es := by
    refine history_induction (P := fun _ t es =>
      (∀ job ∈ t.jobs, ∀ artifact, job.phase = .generated (.ok artifact) →
        ∃ elapsed, Event.codegenEnded job.flush job.key elapsed true none ∈ es) ∧
      ∀ n j key artifact changed, Event.slotSettled n j key (.ready artifact) changed ∈ es →
        ∃ elapsed, Event.codegenEnded n key elapsed true none ∈ es) (by simp [start]) ?_ h_run
    rintro ms m t es u fs h_prefix - ⟨h_jobs, h_settled⟩ h_step
    refine ⟨fun job h_job artifact h_phase => ?_, fun n j key artifact changed h_e => ?_⟩
    · rcases h_step.of_generated (numbered_of_run h_prefix) h_job h_phase with
        h_old | ⟨elapsed, h_new⟩
      · exact (h_jobs job h_old artifact h_phase).imp fun _ => List.mem_append_left _
      · exact ⟨elapsed, List.mem_append_right _ h_new⟩
    · rcases List.mem_append.1 h_e with h_old | h_new
      · exact (h_settled n j key artifact changed h_old).imp fun _ => List.mem_append_left _
      · obtain ⟨job, h_job, result, h_phase, rfl, -, rfl, h_content, -⟩ := h_step.of_settled h_new
        cases result with
        | ok artifact =>
          exact (h_jobs job h_job artifact h_phase).imp fun _ => List.mem_append_left _
        | error => cases h_content
  exact h_both.2 n j key artifact changed h_e

end State

end KernelDispatch
