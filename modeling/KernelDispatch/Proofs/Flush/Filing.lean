/-
  KernelDispatch.Proofs.Flush.Filing

  What the history says about one compile job.

  The entries of a compile job are that it is scheduled, that it has settled its
  slot, that it has reported and that it is lost. Its phase tells which of them there
  are: one before it settles, then two, and three once it has reported; a lost job
  has settled nothing (`Filed`). So a job settles once and for the task that it was
  scheduled for, and what it reports is good exactly if what it has settled with is an
  artifact.
-/
import KernelDispatch.Proofs.Flush.Consistency
import KernelDispatch.Proofs.Flush.Contents

namespace KernelDispatch

variable {C : Type} {cfg : Settings} {env : Environment C}

/-- Whether an event says what has become of the compile job with a number. -/
def Event.isAbout (j : Nat) : Event C → Bool
  | scheduled _ id _ => id == j
  | slotSettled _ id _ _ _ => id == j
  | jobReported _ id _ => id == j
  | compileJobLost _ id _ => id == j
  | _ => false

/-- What has become of the compile job with a number. -/
def file (j : Nat) (es : List (Event C)) : List (Event C) :=
  es.filter (Event.isAbout j)

theorem file_append (j : Nat) (es fs : List (Event C)) :
    file j (es ++ fs) = file j es ++ file j fs :=
  List.filter_append ..

theorem file_of_quiet (j : Nat) {es : List (Event C)} (h : ∀ e ∈ es, e.isAbout j = false) :
    file j es = [] :=
  List.filter_eq_nil_iff.2 fun e h_e => by simp [h e h_e]

theorem mem_file {j : Nat} {es : List (Event C)} {e : Event C} (h_e : e ∈ es)
    (h_about : e.isAbout j = true) : e ∈ file j es :=
  List.mem_filter.2 ⟨h_e, h_about⟩

namespace State

variable {s s' t : State C} {f : Flush C} {es fs : List (Event C)} {j : Nat}

/-- What the history says about the compile job with the number `j`. -/
inductive Filed (s : State C) (es : List (Event C)) (j : Nat) : Prop where
  /-- There has been no such job. -/
  | absent (h_none : ∀ job ∈ s.jobs, job.id ≠ j) (h_file : file j es = [])
  /-- It has not settled its slot. -/
  | opened {job : CompileJob C} (h_job : job ∈ s.jobs) (h_id : job.id = j)
      (h_phase : ∀ outcome, job.phase ≠ .settled outcome)
      (h_file : file j es = [.scheduled job.flush j job.key])
  /-- It has settled its slot. -/
  | settled {job : CompileJob C} {outcome : Outcome} {content : Slot (Artifact C)} {changed : Bool}
      (h_job : job ∈ s.jobs) (h_id : job.id = j) (h_phase : job.phase = .settled outcome)
      (h_good : content.isReady = Event.isOk outcome)
      (h_file : file j es = [.scheduled job.flush j job.key,
        .slotSettled job.flush j job.key content changed])
  /-- It has reported. -/
  | reported {n : Nat} {key : TaskId} {outcome : Outcome} {content : Slot (Artifact C)}
      {changed : Bool} (h_gone : ∀ job ∈ s.jobs, job.id ≠ j) (h_given : j < s.submitted)
      (h_good : content.isReady = Event.isOk outcome)
      (h_file : file j es = [.scheduled n j key, .slotSettled n j key content changed,
        .jobReported n j outcome])
  /-- It is lost. -/
  | lost {n worker : Nat} {key : TaskId} (h_gone : ∀ job ∈ s.jobs, job.id ≠ j)
      (h_given : j < s.submitted)
      (h_file : file j es = [.scheduled n j key, .compileJobLost n j worker])

/-! ## Moves -/

/-- A move that neither moves a job nor says anything about it leaves its file as it is. -/
theorem Filed.same (h : Filed s fs j) (h_old : ∀ job ∈ s.jobs, job.id = j → job ∈ s'.jobs)
    (h_new : ∀ job ∈ s'.jobs, job.id = j → ∃ old ∈ s.jobs, old.id = j)
    (h_given : s.submitted ≤ s'.submitted) (h_quiet : file j es = []) :
    Filed s' (fs ++ es) j := by
  have h_file : file j (fs ++ es) = file j fs := by
    rw [file_append, h_quiet, List.append_nil]
  have h_none (h_gone : ∀ job ∈ s.jobs, job.id ≠ j) : ∀ job ∈ s'.jobs, job.id ≠ j := by
    intro job h_job h_id
    obtain ⟨old, h_old, h_old_id⟩ := h_new job h_job h_id
    exact h_gone old h_old h_old_id
  cases h with
  | absent h_gone h_empty => exact .absent (h_none h_gone) (h_file.trans h_empty)
  | opened h_job h_id h_phase h_empty =>
    exact .opened (h_old _ h_job h_id) h_id h_phase (h_file.trans h_empty)
  | settled h_job h_id h_phase h_good h_one =>
    exact .settled (h_old _ h_job h_id) h_id h_phase h_good (h_file.trans h_one)
  | reported h_gone h_below h_good h_two =>
    exact .reported (h_none h_gone) (Nat.lt_of_lt_of_le h_below h_given) h_good
      (h_file.trans h_two)
  | lost h_gone h_below h_one =>
    exact .lost (h_none h_gone) (Nat.lt_of_lt_of_le h_below h_given) (h_file.trans h_one)

/-- The file of a job that is there. -/
theorem Filed.of_job (h : Filed s fs j) (h_numbered : Numbered s) {job : CompileJob C}
    (h_job : job ∈ s.jobs) (h_id : job.id = j) :
    (∀ outcome, job.phase ≠ .settled outcome) ∧
      file j fs = [.scheduled job.flush j job.key] ∨
    ∃ outcome content changed, job.phase = .settled outcome ∧
      content.isReady = Event.isOk outcome ∧
      file j fs = [.scheduled job.flush j job.key,
        .slotSettled job.flush j job.key content changed] := by
  have h_same (other : CompileJob C) (h_other : other ∈ s.jobs) (h_other_id : other.id = j) :
      other = job :=
    List.inj_on_of_nodup_map h_numbered.distinct h_other h_job (h_other_id.trans h_id.symm)
  cases h with
  | absent h_none => exact absurd h_id (h_none job h_job)
  | opened h_other h_other_id h_phase h_file =>
    obtain rfl := h_same _ h_other h_other_id
    exact .inl ⟨h_phase, h_file⟩
  | settled h_other h_other_id h_phase h_good h_file =>
    obtain rfl := h_same _ h_other h_other_id
    exact .inr ⟨_, _, _, h_phase, h_good, h_file⟩
  | reported h_gone | lost h_gone => exact absurd h_id (h_gone job h_job)

/-- What a request of a record says besides its answer. -/
theorem file_collided (f : Flush C) (r : Record C) (j : Nat) :
    file j ((f.collision r).map (Event.collided (C := C) · r.key)) = [] := by
  refine file_of_quiet j fun e h_e => ?_
  obtain ⟨_, -, rfl⟩ := List.mem_map.1 h_e
  rfl

/-- The caller schedules compile jobs and says nothing else about them. -/
theorem CallerStep.filed (h : Filed s fs j) (h_numbered : Numbered s)
    (h_step : CallerStep cfg env s f s' es) : Filed s' (fs ++ es) j := by
  have h_same (h_jobs : s'.jobs = s.jobs) (h_submitted : s'.submitted = s.submitted)
      (h_quiet : file j es = []) : Filed s' (fs ++ es) j := by
    refine h.same ?_ ?_ (Nat.le_of_eq h_submitted.symm) h_quiet
    · exact fun job h_job _ => h_jobs ▸ h_job
    · exact fun job h_job h_id => ⟨job, h_jobs ▸ h_job, h_id⟩
  cases h_step with
  | @schedules r =>
    by_cases h_j : j = s.submitted
    · -- The number is new, so it has no file yet.
      have h_empty : file j fs = [] := by
        cases h with
        | absent _ h_file => exact h_file
        | opened h_job h_id | settled h_job h_id =>
          have h_given := h_numbered.given _ h_job
          omega
        | reported _ h_given | lost _ h_given => omega
      refine .opened (List.mem_append_right _ (List.mem_singleton_self _)) h_j.symm (by simp) ?_
      rw [file_append, file_append, h_empty, file_collided]
      simp [file, Event.isAbout, h_j]
    · refine h.same (fun job h_job _ => List.mem_append_left _ h_job) ?_ (Nat.le_succ _) ?_
      · intro job h_job h_id
        rcases List.mem_append.1 h_job with h_old | h_new
        · exact ⟨job, h_old, h_id⟩
        · obtain rfl := List.mem_singleton.1 h_new
          exact absurd h_id.symm h_j
      · rw [file_append, file_collided]
        simpa [file, Event.isAbout] using Ne.symm h_j
  | shares | reuses =>
    refine h_same rfl rfl ?_
    rw [file_append, file_collided]
    rfl
  | _ => exact h_same rfl rfl (file_of_quiet j (by simp [Event.isAbout, joinedEvent, endedEvent]))

/-- What a job settles with is an artifact exactly if its outcome is good. -/
theorem jobContent_isReady (job : CompileJob C) (result : Except Failure (Artifact C)) :
    (jobContent job result).isReady = Event.isOk (jobOutcome job result) := by
  cases result <;> rfl

theorem afterCodegen_ne_settled (call : CodegenCall) (result : Generated C) (outcome : Outcome) :
    (afterCodegen call result).1 ≠ .settled outcome := by
  cases result <;> simp [afterCodegen]

/-- A compile worker leaves the files of other jobs as they are. -/
theorem WorkerStep.filed_other {worker : Nat} {job : CompileJob C} (h : Filed s fs j)
    (h_other : job.id ≠ j) (h_step : WorkerStep cfg env s worker job s' es) :
    Filed s' (fs ++ es) j := by
  have h_set (phase : CompilePhase C) (h_jobs : s'.jobs = (s.setPhase job.id phase).jobs)
      (h_submitted : s'.submitted = s.submitted) (h_quiet : ∀ e ∈ es, e.isAbout j = false) :
      Filed s' (fs ++ es) j := by
    refine h.same ?_ ?_ (Nat.le_of_eq h_submitted.symm) (file_of_quiet j h_quiet)
    · intro other h_mem h_id
      rw [h_jobs]
      exact mem_setPhase_of_ne h_mem fun h_same => h_other (h_same.symm.trans h_id)
    · intro other h_mem h_id
      obtain ⟨old, h_old, h_same, -⟩ := exists_sameJob_of_setPhase (h_jobs ▸ h_mem)
      exact ⟨old, h_old, h_same.symm.trans h_id⟩
  have h_dropped (h_jobs : s'.jobs = s.jobs.filter (·.id != job.id))
      (h_submitted : s'.submitted = s.submitted) (h_quiet : ∀ e ∈ es, e.isAbout j = false) :
      Filed s' (fs ++ es) j := by
    refine h.same ?_ ?_ (Nat.le_of_eq h_submitted.symm) (file_of_quiet j h_quiet)
    · intro other h_mem h_id
      rw [h_jobs]
      refine List.mem_filter.2 ⟨h_mem, ?_⟩
      simpa using fun h_same => h_other (h_same.symm.trans h_id)
    · intro other h_mem h_id
      rw [h_jobs] at h_mem
      exact ⟨other, (List.mem_filter.1 h_mem).1, h_id⟩
  cases h_step with
  | starts | generates => exact h_set _ rfl rfl (by simp [Event.isAbout])
  | settles => exact h_set _ rfl rfl (by simpa [Event.isAbout] using h_other)
  | reports | loses => exact h_dropped rfl rfl (by simpa [Event.isAbout] using h_other)
  | aborts =>
    exact h.same (fun _ h_mem _ => h_mem) (fun other h_mem h_id => ⟨other, h_mem, h_id⟩)
      (Nat.le_refl _) (file_of_quiet j (by simp [Event.isAbout]))

/-- A compile worker moves the file of its own job on. -/
theorem WorkerStep.filed_own {worker : Nat} {job : CompileJob C} (h : Filed s fs job.id)
    (h_numbered : Numbered s) (h_job : job ∈ s.jobs)
    (h_step : WorkerStep cfg env s worker job s' es) : Filed s' (fs ++ es) job.id := by
  have h_given : job.id < s.submitted := h_numbered.given job h_job
  have h_gone (h_jobs : s'.jobs = s.jobs.filter (·.id != job.id)) :
      ∀ other ∈ s'.jobs, other.id ≠ job.id := by
    intro other h_mem h_id
    rw [h_jobs] at h_mem
    have h_ne := (List.mem_filter.1 h_mem).2
    simp [h_id] at h_ne
  -- The phase before the move tells what the file holds so far.
  have h_before := h.of_job h_numbered h_job rfl
  have h_open (h_not : ∀ outcome, job.phase ≠ .settled outcome) :
      file job.id fs = [.scheduled job.flush job.id job.key] := by
    rcases h_before with ⟨-, h_one⟩ | ⟨outcome, _, _, h_settled, -⟩
    · exact h_one
    · exact absurd h_settled (h_not outcome)
  have h_goesOn (phase : CompilePhase C) (h_jobs : s'.jobs = (s.setPhase job.id phase).jobs)
      (h_not : ∀ outcome, job.phase ≠ .settled outcome)
      (h_not' : ∀ outcome, phase ≠ .settled outcome)
      (h_quiet : ∀ e ∈ es, e.isAbout job.id = false) : Filed s' (fs ++ es) job.id := by
    have h_mem : { job with phase := phase } ∈ s'.jobs := h_jobs ▸ mem_setPhase_self h_job
    refine .opened h_mem rfl h_not' ?_
    rw [file_append, h_open h_not, file_of_quiet _ h_quiet]
    rfl
  cases h_step with
  | starts h_phase =>
    exact h_goesOn _ rfl (by simp [h_phase]) (by simp) (by simp [Event.isAbout])
  | generates h_phase =>
    exact h_goesOn _ rfl (by simp [h_phase]) (afterCodegen_ne_settled _ _)
      (by simp [Event.isAbout])
  | @settles result h_phase =>
    have h_file : file job.id (fs ++ [.slotSettled job.flush job.id job.key (jobContent job result)
        (s.store.settle job.key (jobContent job result)).1]) =
        [.scheduled job.flush job.id job.key,
          .slotSettled job.flush job.id job.key (jobContent job result)
            (s.store.settle job.key (jobContent job result)).1] := by
      rw [file_append, h_open (by simp [h_phase])]
      simp [file, Event.isAbout]
    exact .settled (mem_setPhase_self h_job) rfl rfl (jobContent_isReady job result) h_file
  | @reports outcome h_phase =>
    rcases h_before with ⟨h_not, -⟩ | ⟨o, content, changed, h_settled, h_good, h_one⟩
    · exact absurd h_phase (h_not outcome)
    · obtain rfl : outcome = o := by simpa [h_phase] using h_settled
      have h_file : file job.id (fs ++ [.jobReported job.flush job.id outcome]) =
          [.scheduled job.flush job.id job.key,
            .slotSettled job.flush job.id job.key content changed,
            .jobReported job.flush job.id outcome] := by
        rw [file_append, h_one]
        simp [file, Event.isAbout]
      exact .reported (h_gone rfl) h_given h_good h_file
  | loses h_phase =>
    have h_file : file job.id (fs ++ [.compileJobLost job.flush job.id worker]) =
        [.scheduled job.flush job.id job.key, .compileJobLost job.flush job.id worker] := by
      rw [file_append, h_open (by simp [h_phase])]
      simp [file, Event.isAbout]
    exact .lost (h_gone rfl) h_given h_file
  | aborts =>
    exact h.same (fun _ h_mem _ => h_mem) (fun other h_mem h_id => ⟨other, h_mem, h_id⟩)
      (Nat.le_refl _) (file_of_quiet _ (by simp [Event.isAbout]))

theorem Transition.filed {m : Move C} (h : Filed s fs j) (h_numbered : Numbered s)
    (h_step : Transition cfg env s m s' es) : Filed s' (fs ++ es) j := by
  have h_same (h_jobs : s'.jobs = s.jobs) (h_submitted : s'.submitted = s.submitted)
      (h_quiet : ∀ e ∈ es, e.isAbout j = false) : Filed s' (fs ++ es) j := by
    refine h.same ?_ ?_ (Nat.le_of_eq h_submitted.symm) (file_of_quiet j h_quiet)
    · exact fun job h_job _ => h_jobs ▸ h_job
    · exact fun job h_job h_id => ⟨job, h_jobs ▸ h_job, h_id⟩
  cases h_step with
  | caller h_current h_step => exact h_step.filed h h_numbered
  | @worker _ _ job _ _ h_running h_found h_step =>
    by_cases h_own : job.id = j
    · subst h_own
      exact h_step.filed_own h h_numbered (List.mem_of_find?_eq_some h_found)
    · exact h_step.filed_other h h_own
  | launcher h_lane h_step => cases h_step <;> exact h_same rfl rfl (by simp [Event.isAbout])
  | _ => exact h_same rfl rfl (by simp [Event.isAbout])

/-- Every compile job has its file in every run. -/
theorem filed_of_run {ms : List (Move C)} {es : List (Stamped C)} (h_rested : Rested s)
    (h_run : run cfg env s ms = some (t, es)) (j : Nat) : Filed t (history es) j := by
  refine consistent_induction (P := fun t es => Filed t es j) h_rested ?_
    (fun h_consistent h_filed h_step => h_step.filed h_filed h_consistent.numbered) h_run
  exact .absent (by simp [h_rested.jobs]) rfl

/-! ## What a file says -/

/-- A job settles once. -/
theorem Filed.settled_once (h : Filed s es j) {n n' : Nat} {key key' : TaskId}
    {content content' : Slot (Artifact C)} {changed changed' : Bool}
    (h_e : Event.slotSettled n j key content changed ∈ es)
    (h_e' : Event.slotSettled n' j key' content' changed' ∈ es) :
    n = n' ∧ key = key' ∧ content = content' := by
  have h_mem := mem_file (j := j) h_e (by simp [Event.isAbout])
  have h_mem' := mem_file (j := j) h_e' (by simp [Event.isAbout])
  cases h with
  | absent _ h_file | opened _ _ _ h_file | lost _ _ h_file => simp [h_file] at h_mem
  | settled _ _ _ _ h_file | reported _ _ _ h_file =>
    simp only [h_file, List.mem_cons, reduceCtorEq, List.not_mem_nil, or_false, false_or,
      Event.slotSettled.injEq] at h_mem h_mem'
    obtain ⟨rfl, -, rfl, rfl, -⟩ := h_mem
    obtain ⟨rfl, -, rfl, rfl, -⟩ := h_mem'
    exact ⟨rfl, rfl, rfl⟩

/-- A job is scheduled once. -/
theorem Filed.scheduled_once (h : Filed s es j) {n n' : Nat} {key key' : TaskId}
    (h_e : Event.scheduled n j key ∈ es) (h_e' : Event.scheduled n' j key' ∈ es) :
    n = n' ∧ key = key' := by
  have h_mem := mem_file (j := j) h_e (by simp [Event.isAbout])
  have h_mem' := mem_file (j := j) h_e' (by simp [Event.isAbout])
  cases h with
  | absent _ h_file => simp [h_file] at h_mem
  | opened _ _ _ h_file | settled _ _ _ _ h_file | reported _ _ _ h_file | lost _ _ h_file =>
    simp only [h_file, List.mem_cons, reduceCtorEq, List.not_mem_nil, or_false,
      Event.scheduled.injEq] at h_mem h_mem'
    obtain ⟨rfl, -, rfl⟩ := h_mem
    obtain ⟨rfl, -, rfl⟩ := h_mem'
    exact ⟨rfl, rfl⟩

/-- A job settles the slot of the task that it was scheduled for. -/
theorem Filed.scheduled_of_settled (h : Filed s es j) {n : Nat} {key : TaskId}
    {content : Slot (Artifact C)} {changed : Bool}
    (h_e : Event.slotSettled n j key content changed ∈ es) : Event.scheduled n j key ∈ es := by
  have h_mem := mem_file (j := j) h_e (by simp [Event.isAbout])
  suffices h_first : Event.scheduled n j key ∈ file j es from (List.mem_filter.1 h_first).1
  cases h with
  | absent _ h_file | opened _ _ _ h_file | lost _ _ h_file => simp [h_file] at h_mem
  | settled _ _ _ _ h_file | reported _ _ _ h_file =>
    simp only [h_file, List.mem_cons, reduceCtorEq, List.not_mem_nil, or_false, false_or,
      Event.slotSettled.injEq] at h_mem
    obtain ⟨rfl, -, rfl, -⟩ := h_mem
    simp [h_file]

/-- A job that reports has settled, with an artifact exactly if its outcome is good. -/
theorem Filed.settled_of_reported (h : Filed s es j) {n : Nat} {outcome : Outcome}
    (h_e : Event.jobReported n j outcome ∈ es) :
    ∃ key content changed, Event.slotSettled n j key content changed ∈ es ∧
      content.isReady = Event.isOk outcome := by
  have h_mem := mem_file (j := j) h_e (by simp [Event.isAbout])
  cases h with
  | absent _ h_file | opened _ _ _ h_file | settled _ _ _ _ h_file | lost _ _ h_file =>
    simp [h_file] at h_mem
  | @reported _ key _ content changed _ _ h_good h_file =>
    have h_mem' := h_mem
    simp only [h_file, List.mem_cons, reduceCtorEq, List.not_mem_nil, or_false, false_or,
      Event.jobReported.injEq] at h_mem'
    obtain ⟨rfl, -, rfl⟩ := h_mem'
    refine ⟨key, content, changed, ?_, h_good⟩
    have h_second : Event.slotSettled n j key content changed ∈ file j es := by simp [h_file]
    exact (List.mem_filter.1 h_second).1

/-- A job that is lost has settled nothing. -/
theorem Filed.unsettled_of_lost (h : Filed s es j) {n worker : Nat}
    (h_e : Event.compileJobLost n j worker ∈ es) {n' : Nat} {key : TaskId}
    {content : Slot (Artifact C)} {changed : Bool} :
    Event.slotSettled n' j key content changed ∉ es := by
  intro h_settled
  have h_mem := mem_file (j := j) h_e (by simp [Event.isAbout])
  have h_mem' := mem_file (j := j) h_settled (by simp [Event.isAbout])
  cases h with
  | absent _ h_file | opened _ _ _ h_file | settled _ _ _ _ h_file | reported _ _ _ h_file =>
    simp [h_file] at h_mem
  | lost _ _ h_file => simp [h_file] at h_mem'

/-- A job that is there has been scheduled. -/
theorem Filed.scheduled_of_job (h : Filed s es j) (h_numbered : Numbered s) {job : CompileJob C}
    (h_job : job ∈ s.jobs) (h_id : job.id = j) : Event.scheduled job.flush j job.key ∈ es := by
  suffices h_first : Event.scheduled job.flush j job.key ∈ file j es from
    (List.mem_filter.1 h_first).1
  rcases h.of_job h_numbered h_job h_id with ⟨-, h_file⟩ | ⟨_, _, _, -, -, h_file⟩
  · simp [h_file]
  · simp [h_file]

/-- A job that is there has not reported. -/
theorem Filed.unreported_of_job (h : Filed s es j) (h_numbered : Numbered s) {job : CompileJob C}
    (h_job : job ∈ s.jobs) (h_id : job.id = j) {n : Nat} {outcome : Outcome} :
    Event.jobReported n j outcome ∉ es := by
  intro h_e
  have h_mem := mem_file (j := j) h_e (by simp [Event.isAbout])
  rcases h.of_job h_numbered h_job h_id with ⟨-, h_file⟩ | ⟨_, _, _, -, -, h_file⟩
  · simp [h_file] at h_mem
  · simp [h_file] at h_mem

/-- A job that has not settled by its phase has not settled by its file. -/
theorem Filed.unsettled_of_open (h : Filed s es j) (h_numbered : Numbered s) {job : CompileJob C}
    (h_job : job ∈ s.jobs) (h_id : job.id = j) (h_open : ∀ outcome, job.phase ≠ .settled outcome)
    {n : Nat} {key : TaskId} {content : Slot (Artifact C)} {changed : Bool} :
    Event.slotSettled n j key content changed ∉ es := by
  intro h_e
  have h_mem := mem_file (j := j) h_e (by simp [Event.isAbout])
  rcases h.of_job h_numbered h_job h_id with ⟨-, h_file⟩ | ⟨outcome, _, _, h_settled, -⟩
  · simp [h_file] at h_mem
  · exact h_open outcome h_settled

/-- A job that has been scheduled is there, or it has settled and reported, or it is lost. -/
theorem Filed.accounted (h : Filed s es j) {n : Nat} {key : TaskId}
    (h_e : Event.scheduled n j key ∈ es) :
    (∃ job ∈ s.jobs, job.id = j ∧ job.flush = n) ∨
    (∃ content changed outcome, Event.slotSettled n j key content changed ∈ es ∧
      Event.jobReported n j outcome ∈ es ∧ content.isReady = Event.isOk outcome) ∨
    ∃ worker, Event.compileJobLost n j worker ∈ es := by
  have h_mem := mem_file (j := j) h_e (by simp [Event.isAbout])
  cases h with
  | absent _ h_file => simp [h_file] at h_mem
  | @opened job h_job h_id _ h_file | @settled job _ _ _ h_job h_id _ _ h_file =>
    simp only [h_file, List.mem_cons, reduceCtorEq, List.not_mem_nil, or_false,
      Event.scheduled.injEq] at h_mem
    exact .inl ⟨job, h_job, h_id, h_mem.1.symm⟩
  | @reported _ _ outcome content changed _ _ h_good h_file =>
    simp only [h_file, List.mem_cons, reduceCtorEq, List.not_mem_nil, or_false,
      Event.scheduled.injEq] at h_mem
    obtain ⟨rfl, -, rfl⟩ := h_mem
    refine .inr (.inl ⟨content, changed, outcome, ?_, ?_, h_good⟩)
    · exact (List.mem_filter.1 (show _ ∈ file j es by simp [h_file])).1
    · exact (List.mem_filter.1 (show _ ∈ file j es by simp [h_file])).1
  | @lost _ worker _ _ _ h_file =>
    simp only [h_file, List.mem_cons, reduceCtorEq, List.not_mem_nil, or_false,
      Event.scheduled.injEq] at h_mem
    obtain ⟨rfl, -, rfl⟩ := h_mem
    exact .inr (.inr ⟨worker, (List.mem_filter.1 (show _ ∈ file j es by simp [h_file])).1⟩)

end State

end KernelDispatch
