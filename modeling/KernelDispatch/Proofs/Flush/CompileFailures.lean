/-
  KernelDispatch.Proofs.Flush.CompileFailures

  The compilations of a flush that fail, and what their jobs report.

  Every call of the code generator has a compile job that holds what it has come to,
  up to the end of the job and beyond (`Seen`, `followed_of_run`), and every report comes
  from such a job (`sourced_of_reported`). So a job reports a failure exactly if the
  code generator has failed on its task, in the words of the code generator and under the
  name of the first record with that task (`failure_of_reported`,
  `reported_of_failsToCompile`).
-/
import KernelDispatch.Proofs.Flush.Builds
import KernelDispatch.Proofs.Flush.FirstRecords

namespace KernelDispatch

variable {C : Type} {cfg : Settings} {env : Environment C}

/-- Why the code generator has not come to any code, in words. -/
def Generated.complaint? : Generated C → Option String
  | code _ => none
  | failed cause => some cause.message
  | panicked cause => some ("codegen panicked: " ++ cause.message)
  | lost cause => some cause.message
  | lostPanicking cause => some ("codegen panicked: " ++ cause.message)

/-- The code generator has failed on a task of flush `n`, with this message. -/
def FailsToCompile (env : Environment C) (es : List (Event C)) (n : Nat) (key : TaskId)
    (message : String) : Prop :=
  ∃ call result, Built env es n key call result ∧ result.complaint? = some message

theorem FailsToCompile.extend {es : List (Event C)} {n : Nat} {key : TaskId} {message : String}
    (h : FailsToCompile env es n key message) (fs : List (Event C)) :
    FailsToCompile env (es ++ fs) n key message := by
  obtain ⟨call, result, h_built, h_complaint⟩ := h
  exact ⟨call, result, h_built.extend fs, h_complaint⟩

/-- What a call in a longer history has come to: it was made before, or it is new. -/
theorem Built.of_append {fs es : List (Event C)} {n : Nat} {key : TaskId} {call : CodegenCall}
    {result : Generated C} (h : Built env (fs ++ es) n key call result) :
    Built env fs n key call result ∨ ∃ past worker later,
      es = past ++ .codegenCalled n worker key call :: later ∧
        env.codegen (callsIn (fs ++ past)) call = result := by
  obtain ⟨past, worker, later, h_split, h_task, h_result⟩ := h
  rcases List.append_eq_append_iff.1 h_split with ⟨past', rfl, h_es⟩ | ⟨fs', h_fs, h_later⟩
  · exact .inr ⟨past', worker, later, h_es, h_result⟩
  · cases fs' with
    | nil =>
      obtain rfl : fs = past := by simpa using h_fs
      exact .inr ⟨[], worker, later, h_later.symm, by simpa using h_result⟩
    | cons e fs' =>
      obtain ⟨rfl, rfl⟩ := List.cons.inj h_later
      exact .inl ⟨past, worker, fs', h_fs, h_task, h_result⟩

namespace State

variable {s s' t : State C} {f : Flush C} {es fs : List (Event C)}

/-! ## Results and failures -/

/-- A compile job keeps what the code generator complains about. -/
theorem complaint_of_generated {call : CodegenCall} {result : Generated C} {cause : Failure}
    (h : (afterCodegen call result).1 = .generated (.error cause)) :
    result.complaint? = some cause.message := by
  cases result <;> cases h <;> rfl

theorem error_of_complaint {call : CodegenCall} {result : Generated C} {message : String}
    {r : Except Failure (Artifact C)} (h : (afterCodegen call result).1 = .generated r)
    (h_complaint : result.complaint? = some message) :
    ∃ cause : Failure, r = .error cause ∧ cause.message = message := by
  cases result with
  | code => cases h_complaint
  | failed | panicked =>
    cases h
    exact ⟨_, rfl, Option.some.inj h_complaint⟩
  | lost | lostPanicking => cases h

/-! ## Jobs that go on -/

/-- A compile job goes on, or it reports, or it is lost. -/
theorem Transition.job_goesOn {m : Move C} (h_numbered : Numbered s)
    (h_step : Transition cfg env s m s' es) {job : CompileJob C} (h_job : job ∈ s.jobs) :
    job ∈ s'.jobs ∨
    (∃ phase, PhaseStep env job job.phase phase ∧ { job with phase := phase } ∈ s'.jobs) ∨
    (∃ outcome, job.phase = .settled outcome ∧
      Event.jobReported job.flush job.id outcome ∈ es) ∨
    ∃ worker, Event.compileJobLost job.flush job.id worker ∈ es := by
  cases h_step with
  | caller _ h_step =>
    cases h_step with
    | schedules => exact .inl (List.mem_append_left _ h_job)
    | _ => exact .inl h_job
  | @worker _ _ moved _ _ _ h_found h_step =>
    have h_moved : moved ∈ s.jobs := List.mem_of_find?_eq_some h_found
    by_cases h_id : job.id = moved.id
    · obtain rfl := List.inj_on_of_nodup_map h_numbered.distinct h_job h_moved h_id
      have h_advances {phase phase' : CompilePhase C} (h_phase : job.phase = phase)
          (h_next : PhaseStep env job phase phase')
          (h_jobs : s'.jobs = (s.setPhase job.id phase').jobs) :
          ∃ phase, PhaseStep env job job.phase phase ∧ { job with phase := phase } ∈ s'.jobs :=
        ⟨phase', h_phase ▸ h_next, h_jobs ▸ mem_setPhase_self h_job⟩
      cases h_step with
      | starts h_phase h_call =>
        exact .inr (.inl (h_advances h_phase (.starts (by rw [h_call]; rfl)) rfl))
      | generates h_phase => exact .inr (.inl (h_advances h_phase .generates rfl))
      | settles h_phase => exact .inr (.inl (h_advances h_phase .settles rfl))
      | reports h_phase => exact .inr (.inr (.inl ⟨_, h_phase, List.mem_singleton_self _⟩))
      | loses => exact .inr (.inr (.inr ⟨_, List.mem_singleton_self _⟩))
      | aborts => exact .inl h_job
    · refine .inl ?_
      cases h_step with
      | starts | generates | settles => exact mem_setPhase_of_ne h_job h_id
      | reports | loses => exact List.mem_filter.2 ⟨h_job, by simpa using h_id⟩
      | aborts => exact h_job
  | launcher _ h_step => cases h_step <;> exact .inl h_job
  | _ => exact .inl h_job

/-- A compile job as it is, or as it was when it came to its end. -/
inductive Seen (s : State C) (es : List (Event C)) (job : CompileJob C) : Prop where
  | there (h_job : job ∈ s.jobs)
  | reported {outcome : Outcome} (h_phase : job.phase = .settled outcome)
      (h_scheduled : Event.scheduled job.flush job.id job.key ∈ es)
      (h_e : Event.jobReported job.flush job.id outcome ∈ es)
  | lost {worker : Nat} (h_e : Event.compileJobLost job.flush job.id worker ∈ es)

/-- Every call of the code generator has a compile job that holds what it has come to. -/
def Followed (env : Environment C) (s : State C) (es : List (Event C)) : Prop :=
  ∀ n key call result, Built env es n key call result →
    ∃ job, Seen s es job ∧ job.flush = n ∧ job.key = key ∧ From call result job

/-- A job that a call has started is seen after a move as it was seen before. -/
theorem Transition.seen {m : Move C} (h_numbered : Numbered s)
    (h_scheduled : ∀ job ∈ s.jobs, Event.scheduled job.flush job.id job.key ∈ fs)
    (h_step : Transition cfg env s m s' es) {call : CodegenCall} {result : Generated C}
    {job : CompileJob C} (h_seen : Seen s fs job) (h_from : From call result job) :
    ∃ job', Seen s' (fs ++ es) job' ∧ job'.flush = job.flush ∧ job'.key = job.key ∧
      From call result job' := by
  cases h_seen with
  | there h_job =>
    rcases h_step.job_goesOn h_numbered h_job with
      h_same | ⟨phase, h_next, h_mem⟩ | ⟨outcome, h_phase, h_e⟩ | ⟨worker, h_e⟩
    · exact ⟨job, .there h_same, rfl, rfl, h_from⟩
    · exact ⟨_, .there h_mem, rfl, rfl, h_from.step h_next⟩
    · exact ⟨job, .reported h_phase (List.mem_append_left _ (h_scheduled job h_job))
        (List.mem_append_right _ h_e), rfl, rfl, h_from⟩
    · exact ⟨job, .lost (List.mem_append_right _ h_e), rfl, rfl, h_from⟩
  | reported h_phase h_before h_e =>
    exact ⟨job, .reported h_phase (List.mem_append_left _ h_before)
      (List.mem_append_left _ h_e), rfl, rfl, h_from⟩
  | lost h_e => exact ⟨job, .lost (List.mem_append_left _ h_e), rfl, rfl, h_from⟩

theorem Transition.followed {m : Move C} (h : Followed env s fs) (h_calls : s.calls = callsIn fs)
    (h_numbered : Numbered s)
    (h_scheduled : ∀ job ∈ s.jobs, Event.scheduled job.flush job.id job.key ∈ fs)
    (h_step : Transition cfg env s m s' es) : Followed env s' (fs ++ es) := by
  intro n key call result h_built
  rcases h_built.of_append with h_old | ⟨past, worker, later, h_es, h_result⟩
  · obtain ⟨job, h_seen, rfl, rfl, h_from⟩ := h n key call result h_old
    exact h_step.seen h_numbered h_scheduled h_seen h_from
  · have h_e : Event.codegenCalled n worker key call ∈ es := by simp [h_es]
    obtain ⟨h_one, job, -, h_flush, h_key, h_kernel, h_mem⟩ := h_step.of_called h_e
    -- The call is the first event of its move.
    obtain rfl : past = [] := by
      cases past with
      | nil => rfl
      | cons e past => simp [h_one] at h_es
    rw [List.append_nil, ← h_calls] at h_result
    exact ⟨_, .there h_mem, h_flush, h_key, h_kernel, rfl, h_result⟩

theorem followed_of_run {threads : Nat} {now : Moment} {ms : List (Move C)} {es : List (Stamped C)}
    (h_run : run cfg env (start threads now) ms = some (t, es)) :
    Followed env t (history es) := by
  refine history_induction (P := fun _ t es => Followed env t es) ?_ ?_ h_run
  · rintro n key call result ⟨past, worker, later, h_split, -⟩
    simp at h_split
  · intro ms m t es u fs h_prefix _ h_followed h_step
    exact h_step.followed h_followed (traced_of_run h_prefix).calls (numbered_of_run h_prefix)
      (jobs_scheduled_of_run h_prefix)

/-! ## Reports -/

/-- A compile job reports what it has settled with. -/
theorem Transition.of_reported {m : Move C} (h_step : Transition cfg env s m s' es) {n j : Nat}
    {outcome : Outcome} (h_e : Event.jobReported n j outcome ∈ es) :
    ∃ job ∈ s.jobs, job.flush = n ∧ job.id = j ∧ job.phase = .settled outcome := by
  cases h_step with
  | @worker _ _ job _ _ _ h_found h_step =>
    have h_job : job ∈ s.jobs := List.mem_of_find?_eq_some h_found
    cases h_step with
    | reports h_phase =>
      obtain ⟨rfl, rfl, rfl⟩ := Event.jobReported.inj (List.mem_singleton.1 h_e)
      exact ⟨job, h_job, rfl, rfl, h_phase⟩
    | _ => simp at h_e
  | caller _ h_step =>
    cases h_step with
    | schedules | shares | reuses => simp at h_e
    | _ => simp [joinedEvent, endedEvent] at h_e
  | launcher _ h_step => cases h_step <;> simp at h_e
  | _ => simp at h_e

/-- A report comes from a compile job that has been scheduled for the first record with its task and
holds what the code generator has come to. -/
theorem sourced_of_reported {threads : Nat} {now : Moment} {ms : List (Move C)}
    {es : List (Stamped C)} (h_run : run cfg env (start threads now) ms = some (t, es)) {n j : Nat}
    {outcome : Outcome} (h_e : Event.jobReported n j outcome ∈ history es) :
    ∃ job : CompileJob C, job.flush = n ∧ job.phase = .settled outcome ∧
      Event.scheduled n j job.key ∈ history es ∧ Sourced env (history es) job ∧
      Heads (history es) job := by
  refine history_induction (P := fun _ _ es => Event.jobReported n j outcome ∈ es →
    ∃ job : CompileJob C, job.flush = n ∧ job.phase = .settled outcome ∧
      Event.scheduled n j job.key ∈ es ∧ Sourced env es job ∧ Heads es job) (by simp) ?_ h_run h_e
  intro ms m t es u fs h_prefix _ h_before h_step h_e
  suffices h_job : ∃ job : CompileJob C, job.flush = n ∧ job.phase = .settled outcome ∧
      Event.scheduled n j job.key ∈ history es ∧ Sourced env (history es) job ∧
      Heads (history es) job by
    obtain ⟨job, h_flush, h_phase, h_scheduled, h_sourced, h_heads⟩ := h_job
    exact ⟨job, h_flush, h_phase, List.mem_append_left _ h_scheduled, h_sourced.extend fs,
      h_heads.extend fs⟩
  rcases List.mem_append.1 h_e with h_old | h_new
  · exact h_before h_old
  · obtain ⟨job, h_job, rfl, rfl, h_phase⟩ := h_step.of_reported h_new
    exact ⟨job, rfl, h_phase, jobs_scheduled_of_run h_prefix job h_job,
      ((traced_of_run h_prefix).jobs job h_job).resolve_left (by simp [h_phase]),
      (enrolled_of_run (rested_start threads now) h_prefix).heads job h_job⟩

/-- A compile job that reports a failure blames the code generator, in the words of that and under
the name of the first record with its task. -/
theorem failure_of_reported {threads : Nat} {now : Moment} {ms : List (Move C)}
    {es : List (Stamped C)} (h_run : run cfg env (start threads now) ms = some (t, es)) {n j : Nat}
    {failure : Failure} (h_e : Event.jobReported n j (.error failure) ∈ history es) :
    ∃ r message, firstRecord? n r.key (history es) = some r ∧
      Event.scheduled n j r.key ∈ history es ∧
      FailsToCompile env (history es) n r.key message ∧
      failure = .compilation r.kernel r.key.headline r.key.digest message := by
  obtain ⟨job, rfl, h_phase, h_scheduled, ⟨call, result, h_built, -, h_holds⟩, h_heads⟩ :=
    sourced_of_reported h_run h_e
  obtain ⟨r, h_first, h_kernel⟩ := Option.map_eq_some_iff.1 h_heads
  have h_key : r.key = job.key := by
    obtain ⟨batch, -, h_found⟩ := Option.bind_eq_some_iff.1 h_first
    simpa using List.find?_some h_found
  rw [h_phase] at h_holds
  obtain ⟨generated, h_generated, h_outcome⟩ := h_holds
  cases generated with
  | ok => cases h_outcome
  | error cause =>
    refine ⟨r, cause.message, h_key ▸ h_first, h_key ▸ h_scheduled,
      ⟨call, result, h_key ▸ h_built, complaint_of_generated h_generated⟩, ?_⟩
    rw [h_key, h_kernel]
    exact Except.error.inj h_outcome

/-- If none of the compile jobs of a flush is left and none is lost, then each task on which the
code generator has failed has been reported. -/
theorem reported_of_failsToCompile {threads : Nat} {now : Moment} {ms : List (Move C)}
    {es : List (Stamped C)} (h_run : run cfg env (start threads now) ms = some (t, es)) {n : Nat}
    {key : TaskId} {message : String} (h_gone : ∀ job ∈ t.jobs, job.flush ≠ n)
    (h_kept : ∀ j worker, Event.compileJobLost n j worker ∉ history es)
    (h_fails : FailsToCompile env (history es) n key message) :
    ∃ j failure, Event.jobReported n j (.error failure) ∈ history es ∧
      Event.scheduled n j key ∈ history es := by
  obtain ⟨call, result, h_built, h_complaint⟩ := h_fails
  obtain ⟨job, h_seen, rfl, rfl, -, h_holds⟩ := followed_of_run h_run _ _ _ _ h_built
  cases h_seen with
  | there h_job => exact absurd rfl (h_gone job h_job)
  | lost h_e => exact absurd h_e (h_kept _ _)
  | @reported outcome h_phase h_scheduled h_e =>
    rw [h_phase] at h_holds
    obtain ⟨generated, h_generated, rfl⟩ := h_holds
    obtain ⟨cause, rfl, -⟩ := error_of_complaint h_generated h_complaint
    exact ⟨job.id, _, h_e, h_scheduled⟩

end State

end KernelDispatch
