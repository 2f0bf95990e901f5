/-
  KernelDispatch.Proofs.WorkerPool.Conservation

  The pool neither loses nor repeats a job.

  The jobs of a pool are those that wait, in the shared queue or a worker's own, and
  those that have begun, which run or have ended. A move takes jobs from the first
  to the second (`count_waiting_step`, `count_begun_step`), and only a submission
  adds one. The counters follow the jobs (`Balanced`). By induction all this holds
  after every run from a new pool (`Conserves`).

  A worker outlives the panic of its job, and no other worker notices it, unless the
  payload of the panic panics when it is dropped (`Mortal`). Of that a worker dies,
  its job stays pending, and the other jobs have to be run by the others: if there
  are none, they never are (`one_job_ends_the_pool`).
-/
import Mathlib.Data.List.Nodup
import Mathlib.Data.List.Pairwise
import KernelDispatch.Proofs.WorkerPool.Moves

namespace KernelDispatch

variable {J : Type}

/-! ## What moves and workers contribute -/

/-- The job that is submitted by a move. -/
def PoolMove.submitted? : PoolMove J → Option J
  | submit job => some job
  | _ => none

/-- Whether a worker takes its job off the pending ones by a move. -/
def PoolMove.isRelease : PoolMove J → Bool
  | release _ => true
  | _ => false

/-- 1 if a worker has ended its job and is still to take it off the pending ones. -/
def Worker.unreleased (w : Worker J) : Nat :=
  match w.phase with
  | .ended _ | .counted => 1
  | .idle | .running _ | .stopped | .died => 0

/-- How the job has ended that a worker has not yet counted. -/
def Worker.uncounted (w : Worker J) : List JobEnd :=
  match w.phase with
  | .ended how => [how]
  | .idle | .running _ | .counted | .stopped | .died => []

namespace WorkerPool

/-- The jobs that a sequence of moves submits. -/
def submitted (moves : List (PoolMove J)) : List J :=
  moves.filterMap PoolMove.submitted?

/-- The number of jobs that it takes off the pending ones. -/
def released (moves : List (PoolMove J)) : Nat :=
  moves.countP PoolMove.isRelease

/-- The jobs that no worker has started to run. -/
def waiting (p : WorkerPool J) : List J :=
  p.shared ++ p.queued

/-- The jobs that workers have started to run: they run or have ended. -/
def begun (p : WorkerPool J) : List J :=
  p.running ++ p.ended.map EndedJob.job

/-- All jobs, by where they are. -/
def jobs (p : WorkerPool J) : List J :=
  p.waiting ++ p.begun

/-- The number of ended jobs that workers are still to take off the pending ones. -/
def unreleased (p : WorkerPool J) : Nat :=
  total Worker.unreleased p.workers

/-- Whether no worker is between the end of a job and its counters. -/
def isCounted (p : WorkerPool J) : Bool :=
  p.workers.all fun w => w.uncounted.isEmpty

variable {p p' : WorkerPool J} {m : PoolMove J} {started : List J}

/-! ## The jobs and their places -/

section Counting

variable [DecidableEq J]

theorem count_waiting (p : WorkerPool J) (job : J) :
    p.waiting.count job = p.shared.count job + total (fun w => w.queue.count job) p.workers := by
  rw [waiting, queued, List.count_append, List.count_flatMap]
  rfl

theorem count_begun (p : WorkerPool J) (job : J) :
    p.begun.count job = total (fun w => w.job?.toList.count job) p.workers +
      (p.ended.map EndedJob.job).count job := by
  rw [begun, running, List.filterMap_eq_flatMap_toList, List.count_append, List.count_flatMap]
  rfl

theorem count_take_drop (l : List J) (n : Nat) (job : J) :
    (l.take n).count job + (l.drop n).count job = l.count job := by
  rw [← List.count_append, List.take_append_drop]

/-- A job that waits after a move or starts by it has waited before or is submitted by it. -/
theorem count_waiting_step (h : PoolStep p m started p') (job : J) :
    started.count job + p'.waiting.count job =
      m.submitted?.toList.count job + p.waiting.count job := by
  rw [count_waiting, count_waiting]
  cases h with
  | submit submitted =>
    simp [PoolMove.submitted?, submit]
    omega
  | takeOwn h_at h_phase h_queue =>
    rw [total_at h_at, total_set h_at]
    simp [PoolMove.submitted?, h_queue, List.count_cons]
    omega
  | @takeShared i more w first rest h_at h_phase h_queue h_shared =>
    have h_batch := count_take_drop rest more job
    rw [total_at h_at, total_set h_at]
    simp [PoolMove.submitted?, h_queue, h_shared, List.count_cons]
    omega
  | @steal i v more w victim first rest h_at h_victim h_ne h_phase h_queue h_other =>
    -- What the thief does not take stays with the victim.
    have h_batch := count_take_drop rest more job
    have h_total := total_set_set h_at h_victim h_ne
      { w with queue := rest.take more, phase := .running first, stolen := w.stolen + 1 }
      { victim with queue := rest.drop more } fun w => w.queue.count job
    simp [h_queue, h_other, PoolMove.submitted?, List.count_cons] at h_total ⊢
    omega
  | finish _ h_at | count h_at | die h_at | release h_at | stop h_at =>
    rw [total_at h_at, total_set h_at]
    simp [PoolMove.submitted?]
  | shutdown => simp [PoolMove.submitted?]

/-- A job that has started is run or has ended. -/
theorem count_begun_step (h : PoolStep p m started p') (job : J) :
    p'.begun.count job = started.count job + p.begun.count job := by
  rw [count_begun, count_begun]
  cases h with
  | submit => simp [submit]
  | takeOwn h_at h_phase | takeShared h_at h_phase =>
    rw [total_at h_at, total_set h_at]
    simp [Worker.job?, h_phase]
    omega
  | @steal i v more w victim first rest h_at h_victim h_ne h_phase h_queue h_other =>
    have h_total := total_set_set h_at h_victim h_ne
      { w with queue := rest.take more, phase := .running first, stolen := w.stolen + 1 }
      { victim with queue := rest.drop more } fun w => w.job?.toList.count job
    simp [Worker.job?, h_phase] at h_total ⊢
    omega
  | finish _ h_at h_phase =>
    rw [total_at h_at, total_set h_at]
    simp [Worker.job?, h_phase]
    omega
  | count h_at h_phase | die h_at h_phase | release h_at h_phase | stop h_at h_phase =>
    rw [total_at h_at, total_set h_at]
    simp [Worker.job?, h_phase]
  | shutdown => simp

end Counting

/-- A move changes where jobs are; only a submission adds one. -/
theorem jobs_step (h : PoolStep p m started p') :
    p'.jobs.Perm (p.jobs ++ m.submitted?.toList) := by
  classical
  refine List.perm_iff_count.2 fun job => ?_
  have h_waiting := count_waiting_step h job
  have h_begun := count_begun_step h job
  simp only [jobs, List.count_append] at h_waiting h_begun ⊢
  omega

theorem begun_step (h : PoolStep p m started p') : p'.begun.Perm (started ++ p.begun) := by
  classical
  refine List.perm_iff_count.2 fun job => ?_
  rw [count_begun_step h, List.count_append]

theorem startedIn_cons {q : WorkerPool J} (h : q.step m = some p) (moves : List (PoolMove J)) :
    q.startedIn (m :: moves) = startedBy m p ++ p.startedIn moves := by
  rw [startedIn, h]

/-- The jobs that start in a run are those that it adds to the running and the ended ones. -/
theorem begun_of_run {moves : List (PoolMove J)} {q : WorkerPool J}
    (h_run : q.run moves = some p) : p.begun.Perm (q.startedIn moves ++ q.begun) := by
  induction moves generalizing q with
  | nil =>
    obtain rfl := Option.some.inj h_run
    exact .rfl
  | cons m moves ih =>
    obtain ⟨q', h_step, h_rest⟩ := run_cons_eq_some.1 h_run
    obtain ⟨started, h_rule⟩ := poolStep_of_step h_step
    rw [startedIn_cons h_step, startedBy_eq h_rule]
    calc p.begun
      _ |>.Perm (q'.startedIn moves ++ q'.begun) := ih h_rest
      _ |>.Perm (q'.startedIn moves ++ (started ++ q.begun)) :=
        (begun_step h_rule).append_left _
      _ |>.Perm (started ++ q'.startedIn moves ++ q.begun) := by
        rw [← List.append_assoc]
        exact List.perm_append_comm.append_right _

/-! ## The counters -/

theorem executed_eq (p : WorkerPool J) : p.executed = total Worker.executed p.workers := by
  simp [executed, total, List.sum_eq_foldr, List.foldr_map]

theorem panicked_eq (p : WorkerPool J) : p.panicked = total Worker.panicked p.workers := by
  simp [panicked, total, List.sum_eq_foldr, List.foldr_map]

theorem dead_eq (p : WorkerPool J) : p.dead = total (fun w => w.hasDied.toNat) p.workers := by
  rw [dead, total]
  induction p.workers with
  | nil => rfl
  | cons w ws ih =>
    rw [List.countP_cons, ih, List.map_cons, List.sum_cons, Nat.add_comm]
    cases w.hasDied <;> rfl

theorem submitted_concat (moves : List (PoolMove J)) (m : PoolMove J) :
    submitted (moves ++ [m]) = submitted moves ++ m.submitted?.toList := by
  rw [submitted, List.filterMap_append]
  cases m <;> rfl

theorem released_concat (moves : List (PoolMove J)) (m : PoolMove J) :
    released (moves ++ [m]) = released moves + m.isRelease.toNat := by
  rw [released, List.countP_append]
  cases m <;> rfl

/-- A job that ends is pending until its worker releases it, and for good if that has died. -/
theorem unreleased_step (h : PoolStep p m started p') :
    m.isRelease.toNat + p'.unreleased + p'.dead + p.ended.length =
      p.unreleased + p.dead + p'.ended.length := by
  rw [dead_eq, dead_eq]
  unfold unreleased
  cases h with
  | submit | shutdown => simp [PoolMove.isRelease, submit]
  | @steal i v more w victim first rest h_at h_victim h_ne h_phase =>
    have h_total := total_set_set h_at h_victim h_ne
      { w with queue := rest.take more, phase := .running first, stolen := w.stolen + 1 }
      { victim with queue := rest.drop more }
    have h_unreleased := h_total Worker.unreleased
    have h_dead := h_total fun w => w.hasDied.toNat
    simp [Worker.unreleased, Worker.hasDied, PoolMove.isRelease, h_phase] at h_unreleased h_dead ⊢
    omega
  | finish _ h_at h_phase | die h_at h_phase =>
    simp [total_at h_at, total_set h_at, Worker.unreleased, Worker.hasDied, PoolMove.isRelease,
      h_phase]
    omega
  | takeOwn h_at h_phase | takeShared h_at h_phase | count h_at h_phase | release h_at h_phase
  | stop h_at h_phase =>
    simp [total_at h_at, total_set h_at, Worker.unreleased, Worker.hasDied, PoolMove.isRelease,
      h_phase]

/-- A job that ends is counted or its worker is about to count it. -/
theorem executed_step (h : PoolStep p m started p') :
    p'.executed + total (fun w => w.uncounted.length) p'.workers + p.ended.length =
      p.executed + total (fun w => w.uncounted.length) p.workers + p'.ended.length := by
  rw [executed_eq, executed_eq]
  cases h with
  | submit | shutdown => simp [submit]
  | @steal i v more w victim first rest h_at h_victim h_ne h_phase =>
    have h_total := total_set_set h_at h_victim h_ne
      { w with queue := rest.take more, phase := .running first, stolen := w.stolen + 1 }
      { victim with queue := rest.drop more }
    have h_executed := h_total Worker.executed
    have h_uncounted := h_total fun w => w.uncounted.length
    simp [Worker.uncounted, h_phase] at h_executed h_uncounted ⊢
    omega
  | finish _ h_at h_phase | count h_at h_phase | die h_at h_phase =>
    simp [total_at h_at, total_set h_at, Worker.uncounted, h_phase]
    omega
  | takeOwn h_at h_phase | takeShared h_at h_phase | release h_at h_phase | stop h_at h_phase =>
    simp [total_at h_at, total_set h_at, Worker.uncounted, h_phase]

/-- The same for the jobs that panicked. -/
theorem panicked_step (h : PoolStep p m started p') :
    p'.panicked + total (fun w => w.uncounted.countP JobEnd.isPanic) p'.workers +
        p.ended.countP EndedJob.panicked =
      p.panicked + total (fun w => w.uncounted.countP JobEnd.isPanic) p.workers +
        p'.ended.countP EndedJob.panicked := by
  rw [panicked_eq, panicked_eq]
  cases h with
  | submit | shutdown => simp [submit]
  | @steal i v more w victim first rest h_at h_victim h_ne h_phase =>
    have h_total := total_set_set h_at h_victim h_ne
      { w with queue := rest.take more, phase := .running first, stolen := w.stolen + 1 }
      { victim with queue := rest.drop more }
    have h_panicked := h_total Worker.panicked
    have h_uncounted := h_total fun w => w.uncounted.countP JobEnd.isPanic
    simp [Worker.uncounted, h_phase] at h_panicked h_uncounted ⊢
    omega
  | @finish i w job how h_at h_phase | @count i w how h_at h_phase =>
    cases h_how : how.isPanic <;>
      simp [total_at h_at, total_set h_at, Worker.uncounted, EndedJob.panicked, h_phase, h_how]
    all_goals omega
  | die h_at h_phase =>
    simp [total_at h_at, total_set h_at, Worker.uncounted, JobEnd.isPanic, h_phase]
    omega
  | takeOwn h_at h_phase | takeShared h_at h_phase | release h_at h_phase | stop h_at h_phase =>
    simp [total_at h_at, total_set h_at, Worker.uncounted, h_phase]

/-- The counters of a pool after a sequence of moves. -/
structure Balanced (moves : List (PoolMove J)) (p : WorkerPool J) : Prop where
  jobs : p.jobs.Perm (submitted moves)
  pending : p.pending + released moves = (submitted moves).length
  ended : released moves + p.unreleased + p.dead = p.ended.length
  executed : p.executed + total (fun w => w.uncounted.length) p.workers = p.ended.length
  panicked : p.panicked + total (fun w => w.uncounted.countP JobEnd.isPanic) p.workers =
    p.ended.countP EndedJob.panicked

/-- A worker that has ended its job has it still pending. -/
theorem Balanced.unreleased_le {moves : List (PoolMove J)} (h : Balanced moves p) :
    p.unreleased ≤ p.pending := by
  have h_length := h.jobs.length_eq
  have h_places : p.jobs.length = p.waiting.length + p.running.length + p.ended.length := by
    simp [WorkerPool.jobs, begun, Nat.add_assoc]
  have h_pending := h.pending
  have h_ended := h.ended
  omega

theorem Balanced.step {moves : List (PoolMove J)} (h : Balanced moves p)
    (h_rule : PoolStep p m started p') : Balanced (moves ++ [m]) p' where
  jobs := by
    rw [submitted_concat]
    exact (jobs_step h_rule).trans (h.jobs.append_right _)
  pending := by
    have h_pending := h.pending
    have h_unreleased := h.unreleased_le
    rw [submitted_concat, released_concat, List.length_append]
    cases h_rule with
    | submit =>
      simp [submit, PoolMove.isRelease, PoolMove.submitted?]
      omega
    | release h_at h_phase =>
      -- The job of the worker is still pending, so there is something to take it off.
      rw [unreleased, total_at h_at] at h_unreleased
      simp [Worker.unreleased, h_phase] at h_unreleased
      simp [PoolMove.isRelease, PoolMove.submitted?]
      omega
    | _ => simpa [PoolMove.isRelease, PoolMove.submitted?] using h_pending
  ended := by
    have h_step := unreleased_step h_rule
    have h_ended := h.ended
    rw [released_concat]
    omega
  executed := by
    have h_step := executed_step h_rule
    have h_executed := h.executed
    omega
  panicked := by
    have h_step := panicked_step h_rule
    have h_panicked := h.panicked
    omega

theorem total_ofThreads {f : Worker J → Nat} (h : f {} = 0) (n : Nat) :
    total f (ofThreads n : WorkerPool J).workers = 0 := by
  simp [total, ofThreads, h]

theorem balanced_ofThreads (n : Nat) : Balanced [] (ofThreads n : WorkerPool J) where
  jobs := by simp [jobs, waiting, begun, ofThreads, queued, running, submitted, Worker.job?]
  pending := rfl
  ended := by
    rw [dead_eq, unreleased, total_ofThreads rfl, total_ofThreads rfl]
    rfl
  executed := by rw [executed_eq, total_ofThreads rfl, total_ofThreads rfl]; rfl
  panicked := by rw [panicked_eq, total_ofThreads rfl, total_ofThreads rfl]; rfl

theorem balanced_of_run {n : Nat} {moves : List (PoolMove J)}
    (h_run : (ofThreads n).run moves = some p) : Balanced moves p :=
  run_induction (balanced_ofThreads n) (fun _ _ _ _ _ h h_rule => h.step h_rule) h_run

/-! ## One place for each job -/

/-- Where a job can be. -/
inductive Place where
  | shared
  | queue (worker : Nat)
  | hand (worker : Nat)
  | ended
  deriving DecidableEq

/-- The jobs at a place. -/
def jobsAt (p : WorkerPool J) : Place → List J
  | .shared => p.shared
  | .queue i => (p.workers[i]?.map Worker.queue).getD []
  | .hand i => (p.runningAt? i).toList
  | .ended => p.ended.map EndedJob.job

/-- The places of a pool. -/
def places (p : WorkerPool J) : List Place :=
  .shared :: (List.range p.threads).map .queue ++ (List.range p.threads).map .hand ++ [.ended]

theorem flatMap_range {α β : Type} (f : α → List β) (l : List α) :
    ((List.range l.length).flatMap fun i => (l[i]?.map f).getD []) = l.flatMap f := by
  induction l using List.reverseRecOn with
  | nil => rfl
  | append_singleton l a ih =>
    rw [List.length_append, List.length_singleton, List.range_succ, List.flatMap_append,
      List.flatMap_append, ← ih]
    congr 1
    · refine List.flatMap_congr fun i h_i => ?_
      rw [List.getElem?_append_left (List.mem_range.1 h_i)]
    · simp

/-- The jobs of a pool are those at its places. -/
theorem jobs_eq (p : WorkerPool J) : p.jobs = p.places.flatMap p.jobsAt := by
  have h_queues : (List.range p.threads).flatMap (fun i => p.jobsAt (.queue i)) = p.queued :=
    flatMap_range Worker.queue p.workers
  have h_hands : (List.range p.threads).flatMap (fun i => p.jobsAt (.hand i)) = p.running := by
    rw [running, List.filterMap_eq_flatMap_toList, ← flatMap_range _ p.workers]
    refine List.flatMap_congr fun i _ => ?_
    cases h_at : p.workers[i]? <;> simp [jobsAt, runningAt?, h_at]
  simp only [places, List.flatMap_append, List.flatMap_cons, List.flatMap_map, h_queues, h_hands,
    jobs, waiting, begun]
  simp [jobsAt]

theorem mem_places {place : Place} {job : J} (h : job ∈ p.jobsAt place) : place ∈ p.places := by
  have h_lt {i : Nat} (h_some : p.workers[i]? ≠ none) : i < p.threads := by
    simpa [threads] using h_some
  cases place with
  | shared | ended => simp [places]
  | queue i =>
    have h_some : p.workers[i]? ≠ none := fun h_none => by simp [jobsAt, h_none] at h
    simp [places, h_lt h_some]
  | hand i =>
    have h_some : p.workers[i]? ≠ none := fun h_none => by simp [jobsAt, runningAt?, h_none] at h
    simp [places, h_lt h_some]

/-- If no job occurs twice, each is at one place only. -/
theorem existsUnique_place (h_nodup : p.jobs.Nodup) {job : J} (h_job : job ∈ p.jobs) :
    ∃! place, job ∈ p.jobsAt place := by
  rw [jobs_eq] at h_nodup h_job
  obtain ⟨place, -, h_at⟩ := List.mem_flatMap.1 h_job
  refine ⟨place, h_at, fun other h_other => ?_⟩
  have h_disjoint := (List.nodup_flatMap.1 h_nodup).2
  have : Std.Symm (Function.onFun List.Disjoint p.jobsAt) :=
    ⟨fun _ _ h _ h_b h_a => h h_a h_b⟩
  by_contra h_ne
  exact h_disjoint.forall (mem_places h_other) (mem_places h_at) h_ne h_other h_at

/-! ## A pool that has stopped -/

theorem isStopped_iff (p : WorkerPool J) :
    p.isStopped = true ↔ ∀ w ∈ p.workers, w.phase = .stopped ∨ w.phase = .died := by
  rw [isStopped, List.all_eq_true]
  refine forall₂_congr fun w _ => ?_
  cases w.phase <;> simp

/-- In a pool that has stopped, jobs can be submitted and nothing else happens. -/
theorem stopped_step (h_stopped : p.isStopped = true) (h : PoolStep p m started p') :
    started = [] ∧ p'.workers = p.workers ∧ p'.ended = p.ended := by
  have h_none {i : Nat} {w : Worker J} {phase : WorkerPhase J} (h_at : p.workers[i]? = some w)
      (h_phase : w.phase = phase) : phase = .stopped ∨ phase = .died :=
    h_phase ▸ (isStopped_iff p).1 h_stopped w (List.mem_of_getElem? h_at)
  cases h with
  | submit | shutdown => exact ⟨rfl, rfl, rfl⟩
  | takeOwn h_at h_phase | takeShared h_at h_phase | finish _ h_at h_phase | count h_at h_phase
  | die h_at h_phase | release h_at h_phase | stop h_at h_phase =>
    rcases h_none h_at h_phase with h | h <;> cases h
  | steal h_at _ _ h_phase => rcases h_none h_at h_phase with h | h <;> cases h

theorem stopped_of_run {moves : List (PoolMove J)} (h_stopped : p.isStopped = true)
    (h_run : p.run moves = some p') :
    p.startedIn moves = [] ∧ p'.workers = p.workers ∧ p'.ended = p.ended := by
  induction moves generalizing p with
  | nil =>
    obtain rfl := Option.some.inj h_run
    exact ⟨rfl, rfl, rfl⟩
  | cons m moves ih =>
    obtain ⟨q, h_step, h_rest⟩ := run_cons_eq_some.1 h_run
    obtain ⟨started, h_rule⟩ := poolStep_of_step h_step
    obtain ⟨rfl, h_workers, h_ended⟩ := stopped_step h_stopped h_rule
    have h_still : q.isStopped = true := by rwa [isStopped, h_workers]
    obtain ⟨h_started, h_workers', h_ended'⟩ := ih h_still h_rest
    refine ⟨?_, h_workers'.trans h_workers, h_ended'.trans h_ended⟩
    rw [startedIn_cons h_step, startedBy_eq h_rule, h_started]
    rfl

theorem running_of_stopped (h_stopped : p.isStopped = true) : p.running = [] := by
  refine List.filterMap_eq_nil_iff.2 fun w h_w => ?_
  rcases (isStopped_iff p).1 h_stopped w h_w with h_phase | h_phase <;> rw [Worker.job?, h_phase]

/-- The pending jobs of a pool that has stopped are those in its queues, and those of which workers
have died. -/
theorem Balanced.pending_of_stopped {moves : List (PoolMove J)} (h : Balanced moves p)
    (h_stopped : p.isStopped = true) : p.pending = p.shared.length + p.queued.length + p.dead := by
  have h_running := running_of_stopped h_stopped
  have h_unreleased : p.unreleased = 0 := by
    refine List.sum_eq_zero_iff_forall_eq_nat.2 fun n h_n => ?_
    obtain ⟨w, h_w, rfl⟩ := List.mem_map.1 h_n
    rcases (isStopped_iff p).1 h_stopped w h_w with h_phase | h_phase <;>
      rw [Worker.unreleased, h_phase]
  have h_length := h.jobs.length_eq
  have h_pending := h.pending
  have h_ended := h.ended
  simp only [WorkerPool.jobs, waiting, begun, h_running, List.length_append, List.length_nil,
    List.length_map] at h_length
  omega

/-! ## Workers that are gone -/

/-- Whether a worker has died or will do so when it has counted its job. -/
def doomed (w : Worker J) : Bool :=
  match w.phase with
  | .died => true
  | .ended how => how.isFatal
  | _ => false

/-- Whether the worker with an index is doomed. -/
def doomedAt (ws : List (Worker J)) (k : Nat) : Bool :=
  (ws[k]?.map doomed).getD false

theorem doomedAt_set {ws : List (Worker J)} {i : Nat} {w : Worker J} (h_at : ws[i]? = some w)
    (w' : Worker J) (k : Nat) :
    doomedAt (ws.set i w') k = if k = i then doomed w' else doomedAt ws k := by
  obtain ⟨h_lt, -⟩ := List.getElem?_eq_some_iff.1 h_at
  split
  · next h_k => simp [doomedAt, h_k, h_lt]
  · next h_k => rw [doomedAt, List.getElem?_set_ne (Ne.symm h_k), doomedAt]

theorem doomedAt_set_of_eq {ws : List (Worker J)} {i : Nat} {w w' : Worker J}
    (h_at : ws[i]? = some w) (h_same : doomed w' = doomed w) (k : Nat) :
    doomedAt (ws.set i w') k = doomedAt ws k := by
  rw [doomedAt_set h_at]
  split
  · next h_k => rw [h_k, doomedAt, h_at, h_same, Option.map_some, Option.getD_some]
  · rfl

/-- Whether a job has ended on the worker with an index that this does not outlive. -/
def fatalAt (p : WorkerPool J) (k : Nat) : Bool :=
  p.ended.any fun e => e.worker == k && e.how.isFatal

theorem fatalAt_iff (p : WorkerPool J) (k : Nat) :
    p.fatalAt k = true ↔ ∃ e ∈ p.ended, e.worker = k ∧ e.how = .fatal := by
  have h_fatal (how : JobEnd) : how.isFatal = true ↔ how = .fatal := by cases how <;> decide
  simp [fatalAt, h_fatal]

/-- Which workers are gone, and why. -/
structure Mortal (moves : List (PoolMove J)) (p : WorkerPool J) : Prop where
  doomed : ∀ k, doomedAt p.workers k = p.fatalAt k
  stopping : p.stopping = true ↔ PoolMove.shutdown ∈ moves
  stopped : ∀ w ∈ p.workers, w.phase = .stopped → p.stopping = true

theorem doomed_step (h : PoolStep p m started p')
    (h_doomed : ∀ k, doomedAt p.workers k = p.fatalAt k) (k : Nat) :
    doomedAt p'.workers k = p'.fatalAt k := by
  cases h with
  | submit | shutdown => exact h_doomed k
  | takeOwn h_at h_phase | takeShared h_at h_phase | release h_at h_phase | stop h_at h_phase
  | die h_at h_phase =>
    exact (doomedAt_set_of_eq h_at (by simp [WorkerPool.doomed, h_phase, JobEnd.isFatal]) k).trans
      (h_doomed k)
  | count h_at h_phase h_survives =>
    exact (doomedAt_set_of_eq h_at (by simp [WorkerPool.doomed, h_phase, h_survives]) k).trans
      (h_doomed k)
  | @steal i v more w victim first rest h_at h_victim h_ne h_phase =>
    have h_kept : (p.workers.set v { victim with queue := rest.drop more })[i]? = some w :=
      (List.getElem?_set_ne (Ne.symm h_ne)).trans h_at
    have h_same : doomed { victim with queue := rest.drop more } = doomed victim := rfl
    refine (doomedAt_set_of_eq h_kept (by simp [WorkerPool.doomed, h_phase]) k).trans ?_
    exact (doomedAt_set_of_eq h_victim h_same k).trans (h_doomed k)
  | @finish i w job how h_at h_phase =>
    have h_running : p.fatalAt i = false := by
      rw [← h_doomed, doomedAt, h_at]
      simp [WorkerPool.doomed, h_phase]
    rw [doomedAt_set h_at, fatalAt, List.any_append]
    split
    · next h_k =>
      subst h_k
      rw [fatalAt] at h_running
      simp [h_running, WorkerPool.doomed]
    · next h_k =>
      rw [h_doomed k, fatalAt]
      simp [Ne.symm h_k]

theorem stopped_phase_step (h : PoolStep p m started p')
    (h_stopped : ∀ w ∈ p.workers, w.phase = .stopped → p.stopping = true) (w : Worker J)
    (h_w : w ∈ p'.workers) (h_phase : w.phase = .stopped) : p'.stopping = true := by
  cases h with
  | submit => exact h_stopped w h_w h_phase
  | shutdown => rfl
  | stop _ _ h_stopping => exact h_stopping
  | takeOwn | takeShared | finish | count | die | release =>
    rcases List.mem_or_eq_of_mem_set h_w with h_old | rfl
    · exact h_stopped w h_old h_phase
    · cases h_phase
  | @steal i v more thief victim first rest h_at h_victim =>
    rcases List.mem_or_eq_of_mem_set h_w with h_old | rfl
    · rcases List.mem_or_eq_of_mem_set h_old with h_old | rfl
      · exact h_stopped w h_old h_phase
      · exact h_stopped victim (List.mem_of_getElem? h_victim) h_phase
    · cases h_phase

theorem mortal_of_run {n : Nat} {moves : List (PoolMove J)}
    (h_run : (ofThreads n).run moves = some p) : Mortal moves p := by
  refine run_induction ?_ (fun moves p m started p' h h_rule => ?_) h_run
  · refine ⟨fun k => ?_, by simp [ofThreads], fun w h_w h_phase => ?_⟩
    · rw [doomedAt, ofThreads, List.getElem?_replicate]
      split <;> rfl
    · rw [(List.mem_replicate.1 h_w).2] at h_phase
      cases h_phase
  · refine ⟨doomed_step h_rule h.doomed, ?_, stopped_phase_step h_rule h.stopped⟩
    rw [List.mem_append, ← h.stopping]
    cases h_rule <;> simp [submit]

/-- A worker without a job can take one if any job waits, wherever that is. -/
theorem exists_take {i : Nat} {w : Worker J} (h_at : p.workers[i]? = some w)
    (h_idle : w.phase = .idle) (h_waiting : p.waiting ≠ []) :
    ∃ take, PoolMove.taker? take = some i ∧ (p.step take).isSome = true := by
  cases h_queue : w.queue with
  | cons job rest => exact ⟨.takeOwn i, rfl, by simp [step, h_at, h_idle, h_queue]⟩
  | nil =>
    cases h_shared : p.shared with
    | cons job rest =>
      exact ⟨.takeShared i 0, rfl, by simp [step, h_at, h_idle, h_queue, h_shared]⟩
    | nil =>
      -- Some other worker has a job in its queue, dead or alive.
      rw [waiting, h_shared, List.nil_append, queued, Ne, List.flatMap_eq_nil_iff] at h_waiting
      push Not at h_waiting
      obtain ⟨victim, h_mem, h_some⟩ := h_waiting
      obtain ⟨v, h_victim⟩ := List.mem_iff_getElem?.1 h_mem
      obtain ⟨job, rest, h_other⟩ := List.exists_cons_of_ne_nil h_some
      have h_ne : i ≠ v := by
        rintro rfl
        obtain rfl := Option.some.inj (h_at.symm.trans h_victim)
        simp [h_queue] at h_some
      exact ⟨.steal i v 0, rfl, by simp [step, h_at, h_victim, h_idle, h_queue, h_other, h_ne]⟩

/-! ## The jobs and the counters, after every run -/

theorem total_eq_zero_of_isCounted {f : List JobEnd → Nat} (h_nil : f [] = 0)
    (h : p.isCounted = true) : total (fun w => f w.uncounted) p.workers = 0 := by
  refine List.sum_eq_zero_iff_forall_eq_nat.2 fun n h_n => ?_
  obtain ⟨w, h_w, rfl⟩ := List.mem_map.1 h_n
  rw [List.isEmpty_iff.1 (List.all_eq_true.1 h w h_w), h_nil]

/-- If no worker is about to count a job, those that are doomed have died. -/
theorem died_iff_of_isCounted (h : p.isCounted = true) {i : Nat} {w : Worker J}
    (h_at : p.workers[i]? = some w) : w.phase = .died ↔ doomedAt p.workers i = true := by
  have h_none := List.isEmpty_iff.1 (List.all_eq_true.1 h w (List.mem_of_getElem? h_at))
  rw [doomedAt, h_at, Option.map_some, Option.getD_some]
  cases h_phase : w.phase <;> simp_all [doomed, Worker.uncounted]

/-- Whether a pool is as another one but for what one worker does and has counted: the queues and
the other workers are the same. -/
def SameBut (i : Nat) (p q : WorkerPool J) : Prop :=
  q.shared = p.shared ∧ q.workers[i]?.map Worker.queue = p.workers[i]?.map Worker.queue ∧
    ∀ k ≠ i, q.workers[k]? = p.workers[k]?

/-- Whether or not its job panics, a worker goes on with the next one, if the panic leaves nothing
that panics once more, and no other worker notices. -/
theorem exists_run_of_survived {i : Nat} {job : J} {how : JobEnd}
    (h_running : p.runningAt? i = some job) (h_survives : how.isFatal = false) :
    ∃ q, p.run [.finish i how, .count i, .release i] = some q ∧
      q.workers[i]?.map Worker.phase = some .idle ∧ q.pending = p.pending - 1 ∧
      SameBut i p q := by
  obtain ⟨w, h_at, h_job⟩ := Option.bind_eq_some_iff.1 h_running
  obtain ⟨h_lt, h_w⟩ := List.getElem?_eq_some_iff.1 h_at
  refine ⟨{ p with
    workers := p.workers.set i { w with
      phase := .idle, executed := w.executed + 1, panicked := w.panicked + how.isPanic.toNat }
    ended := p.ended ++ [⟨job, i, how⟩]
    pending := p.pending - 1 }, ?_, by simp [h_lt], rfl, rfl, by simp [h_lt, h_w],
    fun k h_ne => List.getElem?_set_ne (Ne.symm h_ne)⟩
  simp [run, step, h_lt, h_w, h_job, h_survives, setWorker]

/-- A worker whose job leaves a payload that panics dies once it has counted the job, which stays
pending, and no other worker notices. -/
theorem exists_run_of_fatal {i : Nat} {job : J} (h_running : p.runningAt? i = some job) :
    ∃ q, p.run [.finish i .fatal, .count i] = some q ∧
      q.workers[i]?.map Worker.phase = some .died ∧ q.pending = p.pending ∧ SameBut i p q := by
  obtain ⟨w, h_at, h_job⟩ := Option.bind_eq_some_iff.1 h_running
  obtain ⟨h_lt, h_w⟩ := List.getElem?_eq_some_iff.1 h_at
  refine ⟨{ p with
    workers := p.workers.set i { w with
      phase := .died, executed := w.executed + 1, panicked := w.panicked + 1 }
    ended := p.ended ++ [⟨job, i, .fatal⟩] }, ?_, by simp [h_lt], rfl, rfl, by simp [h_lt, h_w],
    fun k h_ne => List.getElem?_set_ne (Ne.symm h_ne)⟩
  simp [run, step, h_lt, h_w, h_job, setWorker, JobEnd.isFatal, JobEnd.isPanic]

/-- What holds of a pool of `n` workers after a sequence of moves. -/
structure Conserves (n : Nat) (moves : List (PoolMove J)) (p : WorkerPool J) : Prop where
  /-- The submitted jobs are those in the shared queue, in the workers' queues, in their hands
  and among the ended ones. -/
  jobs : (p.shared ++ p.queued ++ p.running ++ p.ended.map EndedJob.job).Perm (submitted moves)
  /-- If the submitted jobs differ from each other, each is at exactly one place. -/
  place : (submitted moves).Nodup → ∀ job ∈ submitted moves, ∃! place, job ∈ p.jobsAt place
  /-- The jobs that workers have started to run are those that run or have ended. -/
  started : ((ofThreads n).startedIn moves).Perm (p.running ++ p.ended.map EndedJob.job)
  /-- No job is started twice. -/
  once : (submitted moves).Nodup → ((ofThreads n).startedIn moves).Nodup
  /-- The pending jobs are those that have not been released. -/
  pending : p.pending + released moves = (submitted moves).length
  /-- The released jobs have ended, and only the workers that are busy with the counters and the
  dead ones have others. -/
  released : released moves + p.unreleased + p.dead = p.ended.length
  /-- The counters agree with the ended jobs when no worker has yet to count one. -/
  executed : p.isCounted = true → p.executed = p.ended.length
  panicked : p.isCounted = true → p.panicked = p.ended.countP EndedJob.panicked
  /-- If other jobs panic, the same moves are possible and lead to the same pool, but for which
  jobs panicked. What workers die of is not changed. -/
  panics : ∀ moves' : List (PoolMove J),
    moves'.map PoolMove.withoutPanic = moves.map PoolMove.withoutPanic →
    ∃ p', (ofThreads n).run moves' = some p' ∧ p'.withoutPanics = p.withoutPanics
  /-- A worker goes on when its job ends, panicked or not, unless what the panic has carried
  panics too. -/
  goesOn : ∀ i job how, p.runningAt? i = some job → how.isFatal = false →
    ∃ q, p.run [.finish i how, .count i, .release i] = some q ∧
      q.workers[i]?.map Worker.phase = some .idle ∧ q.pending = p.pending - 1 ∧ SameBut i p q
  /-- Then the worker dies and the job stays pending. -/
  dies : ∀ i job, p.runningAt? i = some job →
    ∃ q, p.run [.finish i .fatal, .count i] = some q ∧
      q.workers[i]?.map Worker.phase = some .died ∧ q.pending = p.pending ∧ SameBut i p q
  /-- No worker dies of anything else, and none stops before a shutdown. -/
  died : p.isCounted = true → ∀ i w, p.workers[i]? = some w →
    (w.phase = .died ↔ ∃ e ∈ p.ended, e.worker = i ∧ e.how = .fatal)
  stops : ∀ w ∈ p.workers, w.phase = .stopped → PoolMove.shutdown ∈ moves
  /-- As long as a job waits, in whatever queue, a worker without a job can take one. -/
  serves : ∀ i w, p.workers[i]? = some w → w.phase = .idle → p.waiting ≠ [] →
    ∃ take, PoolMove.taker? take = some i ∧ (p.step take).isSome = true
  /-- When all workers have stopped or died, none ever runs a job again, and those that none has
  taken stay pending, with those of which workers have died. -/
  stopped : p.isStopped = true → p.pending = p.shared.length + p.queued.length + p.dead ∧
    ∀ more p', p.run more = some p' → p.startedIn more = [] ∧ p'.isStopped = true ∧
      p'.running = [] ∧ p'.ended = p.ended ∧
      p'.pending = p'.shared.length + p'.queued.length + p'.dead

theorem jobs_are_conserved (n : Nat) {moves : List (PoolMove J)}
    (h_run : (ofThreads n).run moves = some p) : Conserves n moves p := by
  have h_balanced := balanced_of_run h_run
  have h_mortal := mortal_of_run h_run
  have h_begun : p.begun.Perm ((ofThreads n).startedIn moves) := by
    have h_none : (ofThreads n : WorkerPool J).begun = [] := by
      simp [begun, running, ofThreads, Worker.job?]
    simpa [h_none] using begun_of_run h_run
  exact
    { jobs := by simpa only [jobs, waiting, begun, List.append_assoc] using h_balanced.jobs
      place := fun h_nodup job h_job =>
        existsUnique_place (h_balanced.jobs.nodup_iff.2 h_nodup) (h_balanced.jobs.mem_iff.2 h_job)
      started := h_begun.symm
      once := fun h_nodup => h_begun.nodup_iff.1
        (List.nodup_append.1 (h_balanced.jobs.nodup_iff.2 h_nodup)).2.1
      pending := h_balanced.pending
      released := h_balanced.ended
      executed := fun h_counted => by
        have h_executed := h_balanced.executed
        rwa [total_eq_zero_of_isCounted (f := List.length) rfl h_counted] at h_executed
      panicked := fun h_counted => by
        have h_panicked := h_balanced.panicked
        rwa [total_eq_zero_of_isCounted (f := List.countP JobEnd.isPanic) rfl h_counted]
          at h_panicked
      panics := fun moves' h_same => exists_run_of_withoutPanic h_same h_run
      goesOn := fun i job how h_running h_survives => exists_run_of_survived h_running h_survives
      dies := fun i job h_running => exists_run_of_fatal h_running
      died := fun h_counted i w h_at => by
        rw [died_iff_of_isCounted h_counted h_at, h_mortal.doomed, fatalAt_iff]
      stops := fun w h_w h_phase => h_mortal.stopping.1 (h_mortal.stopped w h_w h_phase)
      serves := fun i w h_at h_idle h_waiting => exists_take h_at h_idle h_waiting
      stopped := fun h_stopped => by
        refine ⟨h_balanced.pending_of_stopped h_stopped, fun more p' h_more => ?_⟩
        obtain ⟨h_started, h_workers, h_ended⟩ := stopped_of_run h_stopped h_more
        have h_still : p'.isStopped = true := by rwa [isStopped, h_workers]
        have h_balanced' : Balanced (moves ++ more) p' :=
          balanced_of_run (run_append_eq_some.2 ⟨p, h_run, h_more⟩)
        exact ⟨h_started, h_still, running_of_stopped h_still, h_ended,
          h_balanced'.pending_of_stopped h_still⟩ }

/-- Two workers and five jobs: a batch of three is taken, one of them is stolen, the first job
panics, and the pool is shut down with one job in a worker's queue and two in the shared one. -/
theorem two_workers_conserve_five_jobs :
    ∃ (moves : List (PoolMove Nat)) (p : WorkerPool Nat),
      (ofThreads 2).run moves = some p ∧ submitted moves = [0, 1, 2, 3, 4] ∧
      p.isStopped = true ∧ p.isCounted = true ∧
      (p.pending, p.executed, p.panicked, p.stolen) = (3, 2, 1, 1) ∧ Conserves 2 moves p := by
  let moves : List (PoolMove Nat) :=
    [.submit 0, .submit 1, .submit 2, .takeShared 0 2, .submit 3, .steal 1 0 0, .submit 4,
      .finish 0 .panicked, .count 0, .shutdown, .release 0, .finish 1 .returned, .stop 0, .count 1,
      .release 1, .stop 1]
  have h_summary : ((ofThreads 2).run moves).map (fun p =>
      (p.isStopped, p.isCounted, p.pending, p.executed, p.panicked, p.stolen)) =
      some (true, true, 3, 2, 1, 1) := by decide
  obtain ⟨p, h_run, h_p⟩ := Option.map_eq_some_iff.1 h_summary
  simp only [Prod.mk.injEq] at h_p
  obtain ⟨h_stopped, h_counted, h_counters⟩ := h_p
  exact ⟨moves, p, h_run, rfl, h_stopped, h_counted, by simp [h_counters],
    jobs_are_conserved 2 h_run⟩

/-- One worker and two jobs. The first job panics, and what its panic has carried panics when the
worker drops it: the worker is gone though nobody has shut the pool down, the job is counted and
stays pending, and the second job is never run. -/
theorem one_job_ends_the_pool :
    ∃ p : WorkerPool Nat,
      (ofThreads 1).run [.submit 0, .submit 1, .takeShared 0 0, .finish 0 .fatal, .count 0] =
        some p ∧
      p.workers.map Worker.phase = [.died] ∧ p.stopping = false ∧
      p.ended.map EndedJob.job = [0] ∧ p.executed = 1 ∧ p.shared = [1] ∧ p.pending = 2 ∧
      ∀ more p', p.run more = some p' → p.startedIn more = [] ∧ p'.ended = p.ended := by
  refine ⟨_, rfl, rfl, rfl, rfl, rfl, rfl, rfl, fun more p' h_more => ?_⟩
  obtain ⟨h_started, -, h_ended⟩ := stopped_of_run rfl h_more
  exact ⟨h_started, h_ended⟩

end WorkerPool

end KernelDispatch
