/-
  KernelDispatch.Proofs.WorkerPool.Order

  A pool with a single worker runs its jobs in the order of their submission.

  Nobody steals from a single worker, and the batches that it takes from the shared
  queue it keeps in order. So the job in its hand, its own queue and the shared queue
  are one line (`WorkerPool.line`), in which jobs are submitted at the end and taken
  from the front, however long the batches are. Together with the jobs that have ended
  it is all that has been submitted (`WorkerPool.course`), and a move adds to that only
  what it submits (`course_step`).
-/
import KernelDispatch.Proofs.WorkerPool.Conservation

namespace KernelDispatch

/-- Whether a worker takes a job by a move. -/
def PoolMove.isTake {J : Type} : PoolMove J → Bool
  | takeOwn _ => true
  | takeShared .. => true
  | steal .. => true
  | _ => false

namespace WorkerPool

variable {J : Type} {p p' : WorkerPool J} {m : PoolMove J} {started : List J}

/-- The jobs that have not ended, in the order in which a single worker runs them. -/
def line (p : WorkerPool J) : List J :=
  p.running ++ p.queued ++ p.shared

/-- The jobs that have ended, in the order in which they have, and then those that have not, in the
order in which a single worker runs them. -/
def course (p : WorkerPool J) : List J :=
  p.ended.map EndedJob.job ++ p.line

theorem line_submit (p : WorkerPool J) (job : J) : (p.submit job).line = p.line ++ [job] := by
  simp [line, submit, running, queued]

/-! ## One move -/

/-- The course of a single worker is changed by submissions only. -/
theorem course_step (h_one : p.workers.length = 1) (h : PoolStep p m started p') :
    p'.workers.length = 1 ∧ p'.course = p.course ++ m.submitted?.toList := by
  obtain ⟨w, h_workers⟩ := List.length_eq_one_iff.1 h_one
  have h_index {i : Nat} {v : Worker J} (h_at : p.workers[i]? = some v) : i = 0 ∧ v = w := by
    rw [h_workers, List.getElem?_singleton] at h_at
    split at h_at
    · next h_i => exact ⟨h_i, (Option.some.inj h_at).symm⟩
    · contradiction
  cases h with
  | submit job =>
    refine ⟨h_one, ?_⟩
    rw [course, line_submit, ← List.append_assoc]
    rfl
  | takeOwn h_at h_phase h_queue =>
    obtain ⟨rfl, rfl⟩ := h_index h_at
    simp [course, line, running, queued, h_workers, Worker.job?, h_phase, h_queue,
      PoolMove.submitted?]
  | takeShared h_at h_phase h_queue h_shared =>
    obtain ⟨rfl, rfl⟩ := h_index h_at
    simp [course, line, running, queued, h_workers, Worker.job?, h_phase, h_queue, h_shared,
      PoolMove.submitted?]
  | steal h_at h_at' h_other =>
    -- There is no other worker to steal from.
    exact absurd ((h_index h_at).1.trans (h_index h_at').1.symm) h_other
  | finish _ h_at h_phase =>
    obtain ⟨rfl, rfl⟩ := h_index h_at
    simp [course, line, running, queued, h_workers, Worker.job?, h_phase, PoolMove.submitted?]
  | count h_at h_phase | die h_at h_phase | release h_at h_phase | stop h_at h_phase =>
    obtain ⟨rfl, rfl⟩ := h_index h_at
    simp [course, line, running, queued, h_workers, Worker.job?, h_phase, PoolMove.submitted?]
  | shutdown => exact ⟨h_one, (List.append_nil _).symm⟩

/-- A single worker that takes a job takes the first of the line, and the batch that comes with it
stays in its place. -/
theorem line_take {take : PoolMove J} (h_one : p.workers.length = 1)
    (h_take : take.isTake = true) (h_step : p.step take = some p') :
    p'.line = p.line ∧ p'.workers.length = 1 := by
  obtain ⟨started, h_rule⟩ := poolStep_of_step h_step
  obtain ⟨h_one', h_course⟩ := course_step h_one h_rule
  have h_quiet : p'.ended = p.ended ∧ take.submitted? = none := by
    cases h_rule with
    | takeOwn | takeShared | steal => exact ⟨rfl, rfl⟩
    | _ => cases h_take
  rw [course, course, h_quiet.1, h_quiet.2, Option.toList_none, List.append_nil] at h_course
  exact ⟨List.append_cancel_left h_course, h_one'⟩

/-! ## Whole jobs -/

/-- A worker with a job in hand can end, count and release it. -/
theorem run_complete {i : Nat} {job : J} (h_running : p.runningAt? i = some job)
    (panicked : Bool) :
    p.run [.finish i (.ofPanic panicked), .count i, .release i] = some (p.complete i panicked) ∧
      (p.complete i panicked).ended = p.ended ++ [⟨job, i, .ofPanic panicked⟩] := by
  obtain ⟨w, h_at, h_job⟩ := Option.bind_eq_some_iff.1 h_running
  obtain ⟨h_lt, rfl⟩ := List.getElem?_eq_some_iff.1 h_at
  simp [complete, run, step, h_lt, h_job, setWorker]

theorem course_run {moves : List (PoolMove J)} {q : WorkerPool J} (h_one : q.workers.length = 1)
    (h_run : q.run moves = some p) :
    p.workers.length = 1 ∧ p.course = q.course ++ submitted moves := by
  refine run_induction (P := fun moves p =>
    p.workers.length = 1 ∧ p.course = q.course ++ submitted moves) ?_ ?_ h_run
  · exact ⟨h_one, (List.append_nil _).symm⟩
  · rintro moves p m started p' ⟨h_one, h_course⟩ h_rule
    obtain ⟨h_one', h_step⟩ := course_step h_one h_rule
    refine ⟨h_one', ?_⟩
    rw [h_step, h_course, List.append_assoc, submitted_concat]

/-- The job that a single worker runs is the first of the line, and it leaves the line when it
ends. -/
theorem line_complete {i : Nat} {job : J} (h_one : p.workers.length = 1)
    (h_running : p.runningAt? i = some job) (panicked : Bool) :
    p.line = job :: (p.complete i panicked).line ∧
      (p.complete i panicked).workers.length = 1 := by
  obtain ⟨h_run, h_ended⟩ := run_complete h_running panicked
  obtain ⟨h_one', h_course⟩ := course_run h_one h_run
  refine ⟨?_, h_one'⟩
  have h_none : submitted [.finish i (.ofPanic panicked), .count i, .release i] =
      ([] : List J) := rfl
  rw [course, course, h_ended, h_none, List.map_append, List.append_assoc, List.append_nil]
    at h_course
  exact (List.append_cancel_left h_course).symm

/-! ## Runs -/

/-- The jobs that a single worker has ended, the job in its hand, its own queue and the shared queue
are the jobs that have been submitted, in this order, at every moment of every run. -/
theorem course_of_run {moves : List (PoolMove J)} (h_run : (ofThreads 1).run moves = some p) :
    p.course = submitted moves :=
  (course_run rfl h_run).2

end WorkerPool

end KernelDispatch
