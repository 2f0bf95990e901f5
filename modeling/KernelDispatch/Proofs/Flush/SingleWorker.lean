/-
  KernelDispatch.Proofs.Flush.SingleWorker

  The compile jobs of a single worker.

  The line of a single worker (`WorkerPool.line`) holds the unfinished compile jobs in the
  order of their numbers, and the jobs report in that order (`inLine_of_run`).
-/
import KernelDispatch.Proofs.Flush.Jobs
import KernelDispatch.Proofs.WorkerPool.Order

namespace KernelDispatch

variable {C : Type} {cfg : Settings} {env : Environment C}

/-- The compile job in an event that it has reported. -/
def Event.reporter? : Event C → Option Nat
  | jobReported _ j _ => some j
  | _ => none

/-- The compile jobs that have reported, in the order in which they did. -/
def reporterIds (es : List (Event C)) : List Nat :=
  es.filterMap Event.reporter?

theorem reporterIds_append (es fs : List (Event C)) :
    reporterIds (es ++ fs) = reporterIds es ++ reporterIds fs :=
  List.filterMap_append

theorem mem_reporterIds {n j : Nat} {outcome : Outcome} {es : List (Event C)}
    (h : Event.jobReported n j outcome ∈ es) : j ∈ reporterIds es :=
  List.mem_filterMap.2 ⟨_, h, rfl⟩

namespace State

variable {s s' t : State C} {es fs : List (Event C)}

/-! ## The line of compile jobs -/

/-- The only worker has the unfinished compile jobs in line, after those that have reported. -/
structure InLine (s : State C) (es : List (Event C)) : Prop where
  one : s.pool.workers.length = 1
  line : s.pool.line = s.jobs.map CompileJob.id
  order : (reporterIds es ++ s.jobs.map CompileJob.id).Pairwise (· < ·)
  given : ∀ j ∈ reporterIds es, j < s.submitted

theorem InLine.same (h : InLine s fs) (h_one : s'.pool.workers.length = 1)
    (h_line : s'.pool.line = s.pool.line)
    (h_jobs : s'.jobs.map CompileJob.id = s.jobs.map CompileJob.id)
    (h_submitted : s'.submitted = s.submitted) (h_quiet : ∀ e ∈ es, e.reporter? = none) :
    InLine s' (fs ++ es) := by
  have h_reporters : reporterIds (fs ++ es) = reporterIds fs := by
    rw [reporterIds_append, reporterIds, reporterIds, List.filterMap_eq_nil_iff.2 h_quiet,
      List.append_nil]
  refine ⟨h_one, h_line.trans (h.line.trans h_jobs.symm), ?_, ?_⟩
  · rw [h_reporters, h_jobs]
    exact h.order
  · rw [h_reporters, h_submitted]
    exact h.given

/-- The job that the worker goes on with is the first of those unfinished; without it, the others
are in line as before. -/
theorem InLine.front (h : InLine s fs) {worker : Nat} {job : CompileJob C}
    (h_running : s.pool.runningAt? worker = some job.id) (panicked : Bool) :
    s.jobs.map CompileJob.id = job.id :: (s.pool.complete worker panicked).line ∧
      (s.dropJob job.id).jobs.map CompileJob.id = (s.pool.complete worker panicked).line ∧
      (s.pool.complete worker panicked).workers.length = 1 := by
  obtain ⟨h_line, h_one⟩ := WorkerPool.line_complete h.one h_running panicked
  have h_ids := h.line.symm.trans h_line
  refine ⟨h_ids, ?_, h_one⟩
  have h_order := (List.pairwise_append.1 h.order).2.1
  have h_map : (s.dropJob job.id).jobs.map CompileJob.id =
      (s.jobs.map CompileJob.id).filter (· != job.id) := by
    rw [List.filter_map]
    rfl
  rw [h_ids, List.pairwise_cons] at h_order
  rw [h_map, h_ids, List.filter_cons_of_neg (by simp), List.filter_eq_self]
  -- The numbers of the others are higher.
  intro j h_j
  have h_later := h_order.1 j h_j
  simp only [bne_iff_ne, ne_eq]
  omega

theorem WorkerStep.inLine {worker : Nat} {job : CompileJob C} (h : InLine s fs)
    (h_numbered : Numbered s) (h_running : s.pool.runningAt? worker = some job.id)
    (h_job : job ∈ s.jobs) (h_step : WorkerStep cfg env s worker job s' es) :
    InLine s' (fs ++ es) := by
  cases h_step with
  | starts | generates | settles =>
    exact h.same h.one rfl (setPhase_ids ..) rfl (by simp [Event.reporter?])
  | aborts => exact h.same h.one rfl rfl rfl (by simp [Event.reporter?])
  | @reports outcome =>
    obtain ⟨h_ids, h_rest, h_one⟩ := h.front h_running false
    have h_reporters : reporterIds (fs ++ [.jobReported job.flush job.id outcome]) =
        reporterIds fs ++ [job.id] := reporterIds_append ..
    refine ⟨h_one, h_rest.symm, ?_, ?_⟩
    · have h_order := h.order
      rw [h_ids] at h_order
      change (reporterIds _ ++ (s.dropJob job.id).jobs.map CompileJob.id).Pairwise (· < ·)
      rw [h_reporters, h_rest, List.append_assoc]
      exact h_order
    · rw [h_reporters]
      intro j h_j
      rcases List.mem_append.1 h_j with h_old | h_new
      · exact h.given j h_old
      · obtain rfl := List.mem_singleton.1 h_new
        exact h_numbered.given job h_job
  | loses =>
    obtain ⟨-, h_rest, h_one⟩ := h.front h_running true
    have h_reporters : reporterIds (fs ++ [Event.compileJobLost job.flush job.id worker]) =
        reporterIds fs := by simp [reporterIds, Event.reporter?]
    refine ⟨h_one, h_rest.symm, ?_, ?_⟩
    · rw [h_reporters]
      refine h.order.sublist (List.Sublist.append (List.Sublist.refl _) ?_)
      exact List.filter_sublist.map _
    · rw [h_reporters]
      exact h.given

theorem CallerStep.inLine {f : Flush C} (h : InLine s fs) (h_numbered : Numbered s)
    (h_step : CallerStep cfg env s f s' es) : InLine s' (fs ++ es) := by
  cases h_step with
  | @schedules r =>
    have h_quiet : reporterIds (fs ++ ((f.collision r).map (Event.collided · r.key) ++
        [.scheduled f.number s.submitted r.key])) = reporterIds fs := by
      rw [reporterIds_append, List.append_right_eq_self]
      refine List.filterMap_eq_nil_iff.2 ?_
      simp only [List.mem_append, List.mem_map, List.mem_singleton]
      rintro e (⟨_, -, rfl⟩ | rfl) <;> rfl
    refine ⟨h.one, ?_, ?_, ?_⟩
    · rw [WorkerPool.line_submit, h.line, List.map_append]
      rfl
    · -- The new number is above all others.
      rw [h_quiet, List.map_append, ← List.append_assoc, List.pairwise_append]
      refine ⟨h.order, List.pairwise_singleton .., fun j h_j k h_k => ?_⟩
      obtain rfl : k = s.submitted := by simpa using h_k
      rcases List.mem_append.1 h_j with h_j | h_j
      · exact h.given j h_j
      · obtain ⟨job, h_job, rfl⟩ := List.mem_map.1 h_j
        exact h_numbered.given job h_job
    · rw [h_quiet]
      exact fun j h_j => Nat.lt_succ_of_lt (h.given j h_j)
  | shares | reuses =>
    refine h.same h.one rfl rfl rfl ?_
    simp only [List.mem_append, List.mem_map, List.mem_singleton]
    rintro e (⟨_, -, rfl⟩ | rfl) <;> rfl
  | _ => exact h.same h.one rfl rfl rfl (by simp [Event.reporter?, joinedEvent, endedEvent])

theorem Transition.inLine {m : Move C} (h : InLine s fs) (h_numbered : Numbered s)
    (h_step : Transition cfg env s m s' es) : InLine s' (fs ++ es) := by
  cases h_step with
  | @pick take _ h_pick h_take =>
    have h_takes : take.isTake = true := by cases take <;> simp_all [PoolMove.isTake]
    obtain ⟨h_line, h_one⟩ := WorkerPool.line_take h.one h_takes h_pick
    exact h.same h_one h_line rfl rfl (by simp)
  | caller _ h_step => exact h_step.inLine h h_numbered
  | worker h_running h_found h_step =>
    have h_id := by simpa using List.find?_some h_found
    exact h_step.inLine h h_numbered (h_id ▸ h_running) (List.mem_of_find?_eq_some h_found)
  | launcher _ h_step => cases h_step <;> exact h.same h.one rfl rfl rfl (by simp [Event.reporter?])
  | _ => exact h.same h.one rfl rfl rfl (by simp [Event.reporter?])

/-- With a single worker the unfinished compile jobs are in line in the order of their numbers, and
they report in that order, in every run. -/
theorem inLine_of_run {now : Moment} {ms : List (Move C)} {es : List (Stamped C)}
    (h_run : run cfg env (start 1 now) ms = some (t, es)) : InLine t (history es) := by
  refine history_induction (P := fun _ t es => InLine t es) ?_ ?_ h_run
  · exact ⟨rfl, rfl, List.Pairwise.nil, by simp [reporterIds]⟩
  · intro ms m t es u fs h_prefix _ h_inLine h_step
    exact h_step.inLine h_inLine (numbered_of_run h_prefix)

/-- Of two jobs the one that has reported later has the higher number. -/
theorem InLine.lt_of_later {past later : List (Event C)} {n j n' j' : Nat}
    {outcome outcome' : Outcome} (h : InLine s (past ++ .jobReported n j outcome :: later))
    (h_later : Event.jobReported n' j' outcome' ∈ later) : j < j' := by
  have h_order := (List.pairwise_append.1 h.order).1
  rw [reporterIds_append, List.pairwise_append] at h_order
  have h_first : (reporterIds (Event.jobReported n j outcome :: later)) = j :: reporterIds later :=
    rfl
  rw [h_first, List.pairwise_cons] at h_order
  exact h_order.2.1.1 j' (mem_reporterIds h_later)

end State

end KernelDispatch
