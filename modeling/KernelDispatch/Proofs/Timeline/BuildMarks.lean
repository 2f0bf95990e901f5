/-
  KernelDispatch.Proofs.Timeline.BuildMarks

  The marks that the compile jobs of a flush leave in its timeline.

  Two events of a compile job leave marks: that the code generator is called, and
  that it has come to a result. The phase of the job tells which of them there are,
  and once it has settled its slot the second mark is good exactly if the slot holds
  an artifact (`Course`). So when no job is left, each task that the flush has
  scheduled has its two marks, and no other task has any (`PunctualCall.course_closed`).
-/
import KernelDispatch.Proofs.Flush.Builds
import KernelDispatch.Proofs.Flush.Counts
import KernelDispatch.Proofs.Flush.Punctual
import KernelDispatch.Proofs.Tallies.Compilations

namespace KernelDispatch

variable {C : Type} {cfg : Settings} {env : Environment C}

/-! ## Marks of compile jobs -/

/-- The mark that an event about a call of the code generator leaves in the timeline of a flush,
with the task of the call. -/
def Event.buildMark? (n : Nat) : Event C → Option (TaskId × Mark)
  | codegenCalled flush _ key _ =>
    if flush = n then some (key, .buildStarted key.digest) else none
  | codegenEnded flush key _ ok _ =>
    if flush = n then some (key, .buildEnded key.digest ok) else none
  | _ => none

/-- The marks of the compile jobs of a flush, with their tasks. -/
def buildMarks (n : Nat) (es : List (Event C)) : List (TaskId × Mark) :=
  es.filterMap (Event.buildMark? n)

/-- The marks of the compile job for a task. -/
def marksFor (n : Nat) (key : TaskId) (es : List (Event C)) : List Mark :=
  ((buildMarks n es).filter (·.1 = key)).map Prod.snd

theorem marksFor_append (n : Nat) (key : TaskId) (es fs : List (Event C)) :
    marksFor n key (es ++ fs) = marksFor n key es ++ marksFor n key fs := by
  simp [marksFor, buildMarks]

theorem marksFor_of_quiet {n : Nat} {es : List (Event C)}
    (h : ∀ e ∈ es, e.buildMark? n = none) (key : TaskId) : marksFor n key es = [] := by
  rw [marksFor, buildMarks, List.filterMap_eq_nil_iff.2 h]
  rfl

/-- The task of the compile job that an event schedules for a flush. -/
def Event.scheduledKey? (n : Nat) : Event C → Option TaskId
  | scheduled flush _ key => if flush = n then some key else none
  | _ => none

/-- The tasks of the compile jobs of a flush, in the order of their submission. -/
def scheduledKeys (n : Nat) (es : List (Event C)) : List TaskId :=
  es.filterMap (Event.scheduledKey? n)

theorem scheduledKeys_append (n : Nat) (es fs : List (Event C)) :
    scheduledKeys n (es ++ fs) = scheduledKeys n es ++ scheduledKeys n fs :=
  List.filterMap_append

namespace State

variable {s₀ t u : State C} {f f' : Flush C} {m : Move C} {ms : List (Move C)}
  {es : List (Stamped C)} {hs fs : List (Event C)} {n : Nat} {key : TaskId}
  {before : Option (Slot (Artifact C))}

/-! ## The course of a compile job -/

/-- The marks that a compile job has left by its phase. -/
def marksOfJob (job : CompileJob C) : List Mark :=
  let ended (ok : Bool) := [.buildStarted job.key.digest, .buildEnded job.key.digest ok]
  match job.phase with
  | .queued => []
  | .generating .. => [.buildStarted job.key.digest]
  | .generated result => ended (jobContent job result).isReady
  | .lost => ended false
  | .settled outcome => ended (Event.isOk outcome)

/-- How the compile job for a task of flush `n` stands, with the marks that it has left so far. The
slot of the task was `before` when the flush began. -/
inductive Course (n : Nat) (before : Option (Slot (Artifact C))) (key : TaskId) (t : State C)
    (hs : List (Event C)) : Prop
  /-- There is none. -/
  | unscheduled (h_jobs : ∀ job ∈ t.jobs, job.key ≠ key) (h_slot : t.store.slot? key = before)
      (h_new : key ∉ scheduledKeys n hs) (h_marks : marksFor n key hs = [])
  /-- It is still to settle its slot. -/
  | opened {job : CompileJob C} (h_job : job ∈ t.jobs) (h_key : job.key = key)
      (h_open : job.phase.isOpen = true) (h_slot : t.store.slot? key = some .pending)
      (h_scheduled : key ∈ scheduledKeys n hs) (h_marks : marksFor n key hs = marksOfJob job)
  /-- It has settled its slot, or it never will. -/
  | closed {slot : Slot (Artifact C)}
      (h_jobs : ∀ job ∈ t.jobs, job.key = key → job.phase.isOpen = false)
      (h_slot : t.store.slot? key = some slot) (h_scheduled : key ∈ scheduledKeys n hs)
      (h_marks : marksFor n key hs =
        [.buildStarted key.digest, .buildEnded key.digest slot.isReady])

/-- A compile job that is still to settle its slot stands as its phase says. -/
theorem Course.of_open (h : Course n before key t hs) {job : CompileJob C} (h_job : job ∈ t.jobs)
    (h_key : job.key = key) (h_one : ∀ other ∈ t.jobs, other.key = key → other = job)
    (h_open : job.phase.isOpen = true) :
    t.store.slot? key = some .pending ∧ key ∈ scheduledKeys n hs ∧
      marksFor n key hs = marksOfJob job := by
  cases h with
  | unscheduled h_none => exact absurd h_key (h_none job h_job)
  | opened h_mem h_same _ h_slot h_scheduled h_marks =>
    rw [h_one _ h_mem h_same] at h_marks
    exact ⟨h_slot, h_scheduled, h_marks⟩
  | closed h_none => simp [h_none job h_job h_key] at h_open

/-- Moves of others leave the course of a compile job as it is. -/
theorem Course.other (h : Course n before key t hs)
    (h_jobs : ∀ job, job.key = key → (job ∈ u.jobs ↔ job ∈ t.jobs))
    (h_slot : u.store.slot? key = t.store.slot? key) (h_new : key ∉ scheduledKeys n fs)
    (h_quiet : marksFor n key fs = []) : Course n before key u (hs ++ fs) := by
  have h_marks : marksFor n key (hs ++ fs) = marksFor n key hs := by
    rw [marksFor_append, h_quiet, List.append_nil]
  have h_scheduled : key ∈ scheduledKeys n (hs ++ fs) ↔ key ∈ scheduledKeys n hs := by
    rw [scheduledKeys_append, List.mem_append, or_iff_left h_new]
  cases h with
  | unscheduled h_none h_before h_unscheduled h_unmarked =>
    refine .unscheduled (fun job h_job h_key => ?_) (h_slot.trans h_before)
      (mt h_scheduled.1 h_unscheduled) (h_marks.trans h_unmarked)
    exact h_none job ((h_jobs job h_key).1 h_job) h_key
  | opened h_job h_key h_open h_pending h_old h_marked =>
    exact .opened ((h_jobs _ h_key).2 h_job) h_key h_open (h_slot.trans h_pending)
      (h_scheduled.2 h_old) (h_marks.trans h_marked)
  | closed h_none h_settled h_old h_marked =>
    refine .closed (fun job h_job h_key => ?_) (h_slot.trans h_settled) (h_scheduled.2 h_old)
      (h_marks.trans h_marked)
    exact h_none job ((h_jobs job h_key).1 h_job) h_key

/-- With no job left, a slot that is still pending will never hold an artifact, so failing it
changes no course. -/
theorem Course.rejected (h : Course n before key t hs) (h_before : before ≠ some .pending)
    (h_jobs : t.jobs = []) (h_jobs' : u.jobs = []) {message : String}
    (h_slot : u.store.slot? key = (t.store.slot? key).map
      fun slot => if slot.isPending then .failed message else slot)
    (h_new : key ∉ scheduledKeys n fs) (h_quiet : marksFor n key fs = []) :
    Course n before key u (hs ++ fs) := by
  have h_kept : u.store.slot? key = t.store.slot? key → Course n before key u (hs ++ fs) :=
    fun h_same => h.other (fun job _ => by rw [h_jobs, h_jobs']) h_same h_new h_quiet
  cases h_now : t.store.slot? key with
  | none => exact h_kept (by rw [h_slot, h_now]; rfl)
  | some slot =>
    cases slot with
    | ready | failed => exact h_kept (by rw [h_slot, h_now]; rfl)
    | pending =>
      rw [h_now] at h_slot
      cases h with
      | unscheduled _ h_same => exact absurd (h_same.symm.trans h_now) h_before
      | opened h_job => simp [h_jobs] at h_job
      | closed _ h_settled h_scheduled h_marks =>
        obtain rfl := Option.some.inj (h_settled.symm.trans h_now)
        refine .closed (by simp [h_jobs']) h_slot ?_ ?_
        · rw [scheduledKeys_append]
          exact List.mem_append_left _ h_scheduled
        · rw [marksFor_append, h_quiet, List.append_nil, h_marks]
          rfl

/-- Where the code generator's result leaves a job: with something to put into its slot, or lost. -/
theorem afterCodegen_cases (job : CompileJob C) (call : CodegenCall) (result : Generated C) :
    (∃ r, (afterCodegen call result).1 = .generated r ∧
      (afterCodegen call result).2.1 = (jobContent job r).isReady) ∨
    (afterCodegen call result).1 = .lost ∧ (afterCodegen call result).2.1 = false := by
  cases result with
  | code | failed | panicked => exact .inl ⟨_, rfl, rfl⟩
  | lost | lostPanicking => exact .inr ⟨rfl, rfl⟩

/-- A compile job of another task changes nothing. -/
theorem WorkerStep.course_other {worker : Nat} {job : CompileJob C}
    (h : Course n before key t hs) (h_other : job.key ≠ key) (h_numbered : Numbered t)
    (h_job : job ∈ t.jobs) (h_step : WorkerStep cfg env t worker job u fs) :
    Course n before key u (hs ++ fs) := by
  have h_set (phase : CompilePhase C) (other : CompileJob C) (h_key : other.key = key) :
      other ∈ (t.setPhase job.id phase).jobs ↔ other ∈ t.jobs := by
    constructor
    · intro h_mem
      rcases job_of_setPhase h_numbered h_job h_mem with h_old | rfl
      · exact h_old
      · exact absurd h_key h_other
    · intro h_mem
      refine mem_setPhase_of_ne h_mem fun h_id => ?_
      obtain rfl := List.inj_on_of_nodup_map h_numbered.distinct h_mem h_job h_id
      exact h_other h_key
  have h_drop (other : CompileJob C) (h_key : other.key = key) :
      other ∈ t.jobs.filter (·.id != job.id) ↔ other ∈ t.jobs := by
    refine List.mem_filter.trans (and_iff_left_of_imp fun h_mem => ?_)
    simp only [bne_iff_ne, ne_eq]
    intro h_id
    obtain rfl := List.inj_on_of_nodup_map h_numbered.distinct h_mem h_job h_id
    exact h_other h_key
  have h_marks {e : Event C} (h_e : ∀ k mark, e.buildMark? n = some (k, mark) → k = job.key) :
      marksFor n key [e] = [] := by
    cases h_mark : e.buildMark? n with
    | none => exact marksFor_of_quiet (by simp [h_mark]) key
    | some x =>
      obtain ⟨k, mark⟩ := x
      simp [marksFor, buildMarks, h_mark, h_e k mark h_mark, h_other]
  cases h_step with
  | starts | generates =>
    refine h.other (h_set _) rfl (by simp [scheduledKeys, Event.scheduledKey?]) (h_marks ?_)
    intro k mark h_mark
    obtain ⟨-, h_eq⟩ := Option.ite_none_right_eq_some.1 h_mark
    exact (Prod.mk.inj (Option.some.inj h_eq)).1.symm
  | settles =>
    refine h.other (h_set _) ?_ (by simp [scheduledKeys, Event.scheduledKey?])
      (marksFor_of_quiet (by simp [Event.buildMark?]) key)
    exact (ArtifactStore.slot?_settle ..).trans (if_neg fun h_own => h_other h_own.1.symm)
  | reports | loses =>
    exact h.other h_drop rfl (by simp [scheduledKeys, Event.scheduledKey?])
      (marksFor_of_quiet (by simp [Event.buildMark?]) key)
  | aborts =>
    exact h.other (fun _ _ => Iff.rfl) rfl (by simp [scheduledKeys, Event.scheduledKey?])
      (marksFor_of_quiet (by simp [Event.buildMark?]) key)

/-- The compile job of the task goes on with its course. -/
theorem WorkerStep.course_own {worker : Nat} {job : CompileJob C}
    (h : Course n before key t hs) (h_own : job.key = key) (h_flush : job.flush = n)
    (h_job : job ∈ t.jobs) (h_one : ∀ other ∈ t.jobs, other.key = key → other = job)
    (h_step : WorkerStep cfg env t worker job u fs) : Course n before key u (hs ++ fs) := by
  subst h_own h_flush
  have h_open (h_phase : job.phase.isOpen = true) := h.of_open h_job rfl h_one h_phase
  have h_scheduled (h_old : job.key ∈ scheduledKeys job.flush hs) :
      job.key ∈ scheduledKeys job.flush (hs ++ fs) := by
    rw [scheduledKeys_append]
    exact List.mem_append_left _ h_old
  have h_set {phase : CompilePhase C} (h_closed : phase.isOpen = false) :
      ∀ other ∈ (t.setPhase job.id phase).jobs, other.key = job.key →
        other.phase.isOpen = false := by
    intro other h_other h_key
    obtain ⟨old, h_old, rfl⟩ := List.mem_map.1 h_other
    split at h_key
    · next h_id => rwa [if_pos h_id]
    · next h_id =>
      obtain rfl := h_one old h_old h_key
      simp at h_id
  -- A job that has settled or is lost has closed its course, and it leaves no more marks.
  have h_done (h_jobs : ∀ other ∈ u.jobs, other ∈ t.jobs) (h_slots : u.store = t.store)
      (h_phase : job.phase.isOpen = false) (h_quiet : marksFor job.flush job.key fs = []) :
      Course job.flush before job.key u (hs ++ fs) := by
    cases h with
    | unscheduled h_none => exact absurd rfl (h_none job h_job)
    | opened h_mem h_key h_open =>
      rw [h_one _ h_mem h_key, h_phase] at h_open
      contradiction
    | closed h_none h_slot h_old h_marks =>
      refine .closed (fun other h_other => h_none other (h_jobs other h_other)) (h_slots ▸ h_slot)
        (h_scheduled h_old) ?_
      rw [marksFor_append, h_quiet, List.append_nil, h_marks]
  cases h_step with
  | starts h_phase =>
    obtain ⟨h_slot, h_old, h_marks⟩ := h_open (by rw [h_phase]; rfl)
    refine .opened (mem_setPhase_self h_job) rfl rfl h_slot (h_scheduled h_old) ?_
    rw [marksFor_append, h_marks]
    simp [marksFor, buildMarks, Event.buildMark?, marksOfJob, h_phase]
  | @generates call result since h_phase =>
    obtain ⟨h_slot, h_old, h_marks⟩ := h_open (by rw [h_phase]; rfl)
    have h_marks' : marksFor job.flush job.key (hs ++ [.codegenEnded job.flush job.key
        (t.now - since) (afterCodegen call result).2.1 (afterCodegen call result).2.2]) =
        [.buildStarted job.key.digest,
          .buildEnded job.key.digest (afterCodegen call result).2.1] := by
      rw [marksFor_append, h_marks]
      simp [marksFor, buildMarks, Event.buildMark?, marksOfJob, h_phase]
    rcases afterCodegen_cases job call result with ⟨r, h_built, h_ok⟩ | ⟨h_lost, h_ok⟩
    · refine .opened (mem_setPhase_self h_job) rfl ?_ h_slot (h_scheduled h_old) ?_
      · change (afterCodegen call result).1.isOpen = true
        rw [h_built]
        rfl
      · rw [h_marks', h_ok]
        simp only [marksOfJob, h_built]
        cases r <;> rfl
    · refine .closed (h_set (by rw [h_lost]; rfl)) h_slot (h_scheduled h_old) ?_
      rw [h_marks', h_ok]
      rfl
  | @settles result h_phase =>
    obtain ⟨h_slot, h_old, h_marks⟩ := h_open (by rw [h_phase]; rfl)
    have h_pending := ArtifactStore.isPending_iff.2 h_slot
    refine .closed (h_set rfl)
      ((ArtifactStore.slot?_settle ..).trans (if_pos ⟨rfl, h_pending⟩)) (h_scheduled h_old) ?_
    rw [marksFor_append, h_marks, marksFor_of_quiet (by simp [Event.buildMark?])]
    simp [marksOfJob, h_phase]
  | reports h_phase | loses h_phase =>
    exact h_done (fun _ h_mem => (List.mem_filter.1 h_mem).1) rfl (by rw [h_phase]; rfl)
      (marksFor_of_quiet (by simp [Event.buildMark?]) _)
  | aborts =>
    exact h.other (fun _ _ => Iff.rfl) rfl (by simp [scheduledKeys, Event.scheduledKey?])
      (marksFor_of_quiet (by simp [Event.buildMark?]) _)

/-- The caller calls no code generator. -/
theorem CallerStep.unmarked (h : CallerStep cfg env t f u fs) (n : Nat) :
    ∀ e ∈ fs, e.buildMark? n = none := by
  cases h with
  | schedules | shares | reuses =>
    simp only [List.mem_append, List.mem_map, List.mem_singleton]
    rintro e (⟨_, -, rfl⟩ | rfl) <;> rfl
  | _ => simp [Event.buildMark?, joinedEvent, endedEvent]

/-- No collision schedules a task. -/
theorem scheduledKeys_collided (n : Nat) (firsts : List TaskId) (r : Record C) :
    scheduledKeys n (firsts.map (Event.collided (C := C) · r.key)) = [] :=
  List.filterMap_eq_nil_iff.2 fun e h_e => by
    obtain ⟨_, -, rfl⟩ := List.mem_map.1 h_e
    rfl

/-- As long as no deadline passes, the caller opens the courses of compile jobs and touches none of
them after. -/
theorem CallerStep.course (h : Course n before key t hs) (h_ready : before ≠ some .pending)
    (h_number : f.number = n) (h_jobs : ∀ job ∈ t.jobs, job.flush = n) (h_punctual : Punctual fs)
    (h_step : CallerStep cfg env t f u fs) (h_f' : u.current ≠ none) :
    Course n before key u (hs ++ fs) := by
  have h_quiet := marksFor_of_quiet (h_step.unmarked n) key
  have h_same (h_jobs : u.jobs = t.jobs) (h_slot : u.store.slot? key = t.store.slot? key)
      (h_new : key ∉ scheduledKeys n fs) : Course n before key u (hs ++ fs) :=
    h.other (fun _ _ => h_jobs ▸ Iff.rfl) h_slot h_new h_quiet
  cases h_step with
  | @schedules r rest h_stage h_new =>
    have h_keys : scheduledKeys n ((f.collision r).map (.collided · r.key) ++
        [Event.scheduled (C := C) f.number t.submitted r.key]) = [r.key] := by
      rw [scheduledKeys_append, scheduledKeys_collided]
      simp [scheduledKeys, Event.scheduledKey?, h_number]
    by_cases h_key : r.key = key
    · subst h_key
      cases h with
      | opened _ _ _ h_slot | closed _ h_slot => simp [h_slot] at h_new
      | unscheduled _ _ _ h_marks =>
        refine .opened (List.mem_append_right _ (List.mem_singleton_self _)) rfl rfl ?_ ?_ ?_
        · exact (ArtifactStore.slot?_request ..).trans (if_pos ⟨rfl, h_new⟩)
        · rw [scheduledKeys_append, h_keys]
          exact List.mem_append_right _ (List.mem_singleton_self _)
        · rw [marksFor_append, h_marks, h_quiet]
          rfl
    · refine h.other (fun job h_job => ?_) ?_ ?_ h_quiet
      · refine ⟨fun h_mem => ?_, fun h_mem => List.mem_append_left _ h_mem⟩
        rcases List.mem_append.1 h_mem with h_old | h_new
        · exact h_old
        · obtain rfl := List.mem_singleton.1 h_new
          exact absurd h_job h_key
      · exact (ArtifactStore.slot?_request ..).trans (if_neg fun h_own => h_key h_own.1.symm)
      · rw [h_keys]
        simpa using Ne.symm h_key
  | shares h_stage h_known | reuses h_stage h_known =>
    refine h_same rfl ?_ ?_
    · refine (ArtifactStore.slot?_request ..).trans (if_neg ?_)
      rintro ⟨rfl, h_none⟩
      exact h_known h_none
    · rw [scheduledKeys_append, scheduledKeys_collided]
      simp [scheduledKeys, Event.scheduledKey?]
  | @polls found inbox h_stage h_over h_poll =>
    have h_new : key ∉ scheduledKeys n
        [Event.polled (C := C) f.number found (f.join.note found)] := by
      simp [scheduledKeys, Event.scheduledKey?]
    cases found with
    | received => exact h_same rfl rfl h_new
    | expired => simpa [Event.isLate] using h_punctual _ (List.mem_singleton_self _)
    | orphaned =>
      -- No job is left that could report, so no slot is failed that a job would still settle.
      have h_gone := gone_of_poll h_poll
      have h_none : t.jobs = [] := by
        refine List.eq_nil_iff_forall_not_mem.2 fun job h_job => ?_
        have h_not := List.any_eq_false.1 h_gone job h_job
        simp [h_jobs job h_job, h_number] at h_not
      exact h.rejected h_ready h_none h_none (ArtifactStore.slot?_rejectPending ..) h_new h_quiet
  | unwinds | abandons | succeeds | fails => exact absurd rfl h_f'
  | _ => exact h_same rfl rfl (by simp [scheduledKeys, Event.scheduledKey?, joinedEvent])

/-! ## Courses of a call -/

namespace PunctualCall

/-- The compile jobs of the call are for different tasks. -/
theorem eq_of_key_eq (h : PunctualCall cfg env s₀ ms t es) {job other : CompileJob C}
    (h_job : job ∈ t.jobs) (h_other : other ∈ t.jobs) (h_key : other.key = job.key) :
    other = job := by
  have h_flush := (h.job_flush h_other).trans (h.job_flush h_job).symm
  refine List.inj_on_of_nodup_map h.consistent.numbered.distinct h_other h_job ?_
  exact (separate_of_run h.rested h.reached).keys other h_other job h_job h_flush h_key

/-- While the flush is in progress each task has its course. -/
theorem course (h : PunctualCall cfg env s₀ ms t es) (h_f : t.current = some f) (key : TaskId) :
    Course (s₀.flushes + 1) (s₀.store.slot? key) key t (history es) := by
  have h_before : s₀.store.slot? key ≠ some .pending := fun h_pending => by
    simpa [Slot.isReady] using h.ready key _ h_pending
  refine h.inFlush_induction (P := fun t es _ =>
    Course (s₀.flushes + 1) (s₀.store.slot? key) key t (history es)) h_f ?_ ?_
  · exact .unscheduled (by simp [h.rested.jobs]) rfl
      (by simp [scheduledKeys, Event.scheduledKey?, history, stamp])
      (marksFor_of_quiet (by simp [Event.buildMark?, history, stamp]) key)
  · intro ms m t es u fs f f' h_call h_after h_f h_f' h_course h_step
    rw [history_append, history_stamp]
    have h_still (h_jobs : u.jobs = t.jobs) (h_store : u.store = t.store)
        (h_new : scheduledKeys (s₀.flushes + 1) fs = [])
        (h_unmarked : ∀ e ∈ fs, e.buildMark? (s₀.flushes + 1) = none) :
        Course (s₀.flushes + 1) (s₀.store.slot? key) key u (history es ++ fs) :=
      h_course.other (fun _ _ => h_jobs ▸ Iff.rfl) (h_store ▸ rfl) (by simp [h_new])
        (marksFor_of_quiet h_unmarked key)
    cases h_step with
    | enqueue h_idle | dropArtifacts h_idle | returns h_idle | begins h_idle =>
      simp [h_idle] at h_f
    | pick | tick => exact h_still rfl rfl rfl (by simp)
    | launcher _ h_step => cases h_step <;> exact h_still rfl rfl rfl (by simp [Event.buildMark?])
    | caller h_current h_step =>
      exact h_step.course h_course h_before (h_call.number h_current).1
        (fun _ h_job => h_call.job_flush h_job) h_after.onTime (by simp [h_f'])
    | @worker _ _ job _ _ _ h_found h_step =>
      have h_job : job ∈ t.jobs := List.mem_of_find?_eq_some h_found
      by_cases h_key : job.key = key
      · refine h_step.course_own h_course h_key (h_call.job_flush h_job) h_job ?_
        exact fun other h_other h_same =>
          h_call.eq_of_key_eq h_job h_other (h_same.trans h_key.symm)
      · exact h_step.course_other h_course h_key h_call.consistent.numbered h_job

end PunctualCall

namespace FreshCall

end FreshCall

/-! ## Results -/

end State

end KernelDispatch
