/-
  KernelDispatch.Proofs.WorkerPool.Moves

  The moves of the pool, and how its views follow them.

  Each move has one rule (`PoolStep`), with the job that a worker starts to run by
  it. A move of a worker replaces one worker, a steal two, so every sum over the
  workers changes by what the replaced workers contribute (`total_set`,
  `total_set_set`). A panic that no worker dies of is a mark on a job and a count:
  without the marks the pool makes the same moves (`run_withoutPanics`).
-/
import Mathlib.Algebra.GroupWithZero.Nat
import Mathlib.Data.List.Induction
import Mathlib.Data.List.Perm.Basic
import KernelDispatch.WorkerPool

namespace KernelDispatch

variable {J : Type}

/-- The worker that takes a job by a move. -/
def PoolMove.taker? : PoolMove J → Option Nat
  | takeOwn i => some i
  | takeShared i _ => some i
  | steal i _ _ => some i
  | _ => none

/-- The move in which no job panics unless its worker dies of it. -/
def PoolMove.withoutPanic : PoolMove J → PoolMove J
  | finish i how => finish i how.withoutPanic
  | m => m

/-- The worker as it is if no job has panicked but those that workers have died of. -/
def Worker.withoutPanics (w : Worker J) : Worker J :=
  { w with
    panicked := w.hasDied.toNat
    phase := match w.phase with
      | .ended how => .ended how.withoutPanic
      | phase => phase }

namespace WorkerPool

/-- The job that a worker starts to run by a move into a pool. -/
def startedBy (m : PoolMove J) (p' : WorkerPool J) : List J :=
  (m.taker?.bind p'.runningAt?).toList

/-- The jobs that workers start to run in a sequence of moves, in the order in which they do. -/
def startedIn (p : WorkerPool J) : List (PoolMove J) → List J
  | [] => []
  | m :: moves =>
    match p.step m with
    | some p' => startedBy m p' ++ p'.startedIn moves
    | none => []

/-- The pool as it is if no job has panicked but those that workers have died of. -/
def withoutPanics (p : WorkerPool J) : WorkerPool J :=
  { p with
    workers := p.workers.map Worker.withoutPanics
    ended := p.ended.map fun e => { e with how := e.how.withoutPanic } }

/-- A number of the workers, summed up. -/
def total (f : Worker J → Nat) (ws : List (Worker J)) : Nat :=
  (ws.map f).sum

/-! ## The moves, one rule each -/

/-- The rules of the moves, with the jobs that workers start to run by them. -/
inductive PoolStep (p : WorkerPool J) : PoolMove J → List J → WorkerPool J → Prop where
  | submit (job : J) : PoolStep p (.submit job) [] (p.submit job)
  | takeOwn {i : Nat} {w : Worker J} {job : J} {rest : List J} :
      p.workers[i]? = some w → w.phase = .idle → w.queue = job :: rest →
      PoolStep p (.takeOwn i) [job]
        { p with workers := p.workers.set i { w with queue := rest, phase := .running job } }
  | takeShared {i more : Nat} {w : Worker J} {job : J} {rest : List J} :
      p.workers[i]? = some w → w.phase = .idle → w.queue = [] → p.shared = job :: rest →
      PoolStep p (.takeShared i more) [job]
        { p with
          workers := p.workers.set i { w with queue := rest.take more, phase := .running job }
          shared := rest.drop more }
  | steal {i v more : Nat} {w victim : Worker J} {job : J} {rest : List J} :
      p.workers[i]? = some w → p.workers[v]? = some victim → i ≠ v → w.phase = .idle →
      w.queue = [] → victim.queue = job :: rest →
      PoolStep p (.steal i v more) [job]
        { p with
          workers := (p.workers.set v { victim with queue := rest.drop more }).set i
            { w with queue := rest.take more, phase := .running job, stolen := w.stolen + 1 } }
  | finish {i : Nat} {w : Worker J} {job : J} (how : JobEnd) :
      p.workers[i]? = some w → w.phase = .running job →
      PoolStep p (.finish i how) []
        { p with
          workers := p.workers.set i { w with phase := .ended how }
          ended := p.ended ++ [⟨job, i, how⟩] }
  | count {i : Nat} {w : Worker J} {how : JobEnd} :
      p.workers[i]? = some w → w.phase = .ended how → how.isFatal = false →
      PoolStep p (.count i) []
        { p with
          workers := p.workers.set i { w with
            phase := .counted
            executed := w.executed + 1
            panicked := w.panicked + how.isPanic.toNat } }
  | die {i : Nat} {w : Worker J} :
      p.workers[i]? = some w → w.phase = .ended .fatal →
      PoolStep p (.count i) []
        { p with
          workers := p.workers.set i { w with
            phase := .died
            executed := w.executed + 1
            panicked := w.panicked + 1 } }
  | release {i : Nat} {w : Worker J} :
      p.workers[i]? = some w → w.phase = .counted →
      PoolStep p (.release i) []
        { p with
          workers := p.workers.set i { w with phase := .idle }
          pending := p.pending - 1 }
  | shutdown : PoolStep p .shutdown [] { p with stopping := true }
  | stop {i : Nat} {w : Worker J} :
      p.workers[i]? = some w → w.phase = .idle → p.stopping = true →
      PoolStep p (.stop i) [] { p with workers := p.workers.set i { w with phase := .stopped } }

theorem phase_of_job? {w : Worker J} {job : J} (h : w.job? = some job) :
    w.phase = .running job := by
  unfold Worker.job? at h
  split at h
  · next j h_phase => rw [h_phase, Option.some.inj h]
  · contradiction

variable {p p' : WorkerPool J} {m : PoolMove J} {started : List J}

theorem poolStep_of_step (h : p.step m = some p') : ∃ started, PoolStep p m started p' := by
  cases m with
  | submit job =>
    obtain rfl := Option.some.inj h
    exact ⟨_, .submit job⟩
  | takeOwn i =>
    simp only [step, Option.bind_eq_bind, Option.bind_eq_some_iff] at h
    obtain ⟨w, h_at, h⟩ := h
    split at h
    · next job rest h_phase h_queue =>
      obtain rfl := Option.some.inj h
      exact ⟨_, .takeOwn h_at h_phase h_queue⟩
    · contradiction
  | takeShared i more =>
    simp only [step, Option.bind_eq_bind, Option.bind_eq_some_iff] at h
    obtain ⟨w, h_at, h⟩ := h
    split at h
    · next job rest h_phase h_queue h_shared =>
      split at h
      · obtain rfl := Option.some.inj h
        exact ⟨_, .takeShared h_at h_phase h_queue h_shared⟩
      · contradiction
    · contradiction
  | steal i v more =>
    simp only [step, Option.bind_eq_bind, Option.bind_eq_some_iff] at h
    obtain ⟨w, h_at, victim, h_victim, h⟩ := h
    split at h
    · next job rest h_phase h_queue h_other =>
      split at h
      · next h_batch =>
        obtain rfl := Option.some.inj h
        exact ⟨_, .steal h_at h_victim h_batch.1 h_phase h_queue h_other⟩
      · contradiction
    · contradiction
  | finish i how =>
    simp only [step, Option.bind_eq_bind, Option.bind_eq_some_iff] at h
    obtain ⟨w, h_at, job, h_job, h⟩ := h
    obtain rfl := Option.some.inj h
    exact ⟨_, .finish how h_at (phase_of_job? h_job)⟩
  | count i =>
    simp only [step, Option.bind_eq_bind, Option.bind_eq_some_iff] at h
    obtain ⟨w, h_at, h⟩ := h
    split at h
    · next how h_phase =>
      obtain rfl := Option.some.inj h
      cases how with
      | returned | panicked => exact ⟨_, .count h_at h_phase rfl⟩
      | fatal => exact ⟨_, .die h_at h_phase⟩
    · contradiction
  | release i =>
    simp only [step, Option.bind_eq_bind, Option.bind_eq_some_iff] at h
    obtain ⟨w, h_at, h⟩ := h
    split at h
    · next h_phase =>
      obtain rfl := Option.some.inj h
      exact ⟨_, .release h_at h_phase⟩
    · contradiction
  | shutdown =>
    obtain rfl := Option.some.inj h
    exact ⟨_, .shutdown⟩
  | stop i =>
    simp only [step, Option.bind_eq_bind, Option.bind_eq_some_iff] at h
    obtain ⟨w, h_at, h⟩ := h
    split at h
    · next h_stops =>
      obtain rfl := Option.some.inj h
      obtain ⟨h_idle, h_stopping⟩ := Bool.and_eq_true_iff.1 h_stops
      have h_phase : w.phase = .idle := by
        unfold Worker.isIdle at h_idle
        split at h_idle
        · assumption
        · contradiction
      exact ⟨_, .stop h_at h_phase h_stopping⟩
    · contradiction

/-- The job that a worker starts is the one that it runs after the move. -/
theorem startedBy_eq (h : PoolStep p m started p') : startedBy m p' = started := by
  cases h with
  | takeOwn h_at | takeShared h_at | steal h_at =>
    have h_lt := (List.getElem?_eq_some_iff.1 h_at).1
    simp [startedBy, PoolMove.taker?, runningAt?, h_lt, Worker.job?]
  | _ => rfl

/-! ## Runs -/

theorem run_cons_eq_some {moves : List (PoolMove J)} :
    p.run (m :: moves) = some p' ↔ ∃ q, p.step m = some q ∧ q.run moves = some p' := by
  simp [run, List.foldlM_cons, Option.bind_eq_some_iff]

theorem run_append_eq_some {moves more : List (PoolMove J)} :
    p.run (moves ++ more) = some p' ↔ ∃ q, p.run moves = some q ∧ q.run more = some p' := by
  simp [run, List.foldlM_append, Option.bind_eq_some_iff]

/-- What holds at first and is kept by each move holds after a run. -/
theorem run_induction {P : List (PoolMove J) → WorkerPool J → Prop} {q : WorkerPool J}
    (h_start : P [] q)
    (h_step : ∀ moves p m started p', P moves p → PoolStep p m started p' → P (moves ++ [m]) p')
    {moves : List (PoolMove J)} (h_run : q.run moves = some p) : P moves p := by
  induction moves using List.reverseRecOn generalizing p with
  | nil =>
    obtain rfl := Option.some.inj h_run
    exact h_start
  | append_singleton moves m ih =>
    obtain ⟨p₁, h_before, h_last⟩ := run_append_eq_some.1 h_run
    obtain ⟨p₂, h_move, h_end⟩ := run_cons_eq_some.1 h_last
    obtain rfl : p₂ = p := Option.some.inj h_end
    obtain ⟨started, h_rule⟩ := poolStep_of_step h_move
    exact h_step moves p₁ m started p₂ (ih h_before) h_rule

/-! ## Sums over the workers -/

section Sums

variable {ws : List (Worker J)} {i : Nat} {w : Worker J}

theorem total_at (h_at : ws[i]? = some w) (f : Worker J → Nat) :
    total f ws = f w + total f (ws.eraseIdx i) := by
  obtain ⟨h_lt, rfl⟩ := List.getElem?_eq_some_iff.1 h_at
  have h_perm := (List.getElem_cons_eraseIdx_perm h_lt).symm.map f
  rw [total, h_perm.sum_nat, List.map_cons, List.sum_cons, total]

theorem total_set (h_at : ws[i]? = some w) (w' : Worker J) (f : Worker J → Nat) :
    total f (ws.set i w') = f w' + total f (ws.eraseIdx i) := by
  obtain ⟨h_lt, -⟩ := List.getElem?_eq_some_iff.1 h_at
  have h_perm := (List.set_perm_cons_eraseIdx h_lt w').map f
  rw [total, h_perm.sum_nat, List.map_cons, List.sum_cons, total]

/-- The sum after two workers have been replaced. -/
theorem total_set_set {v : Nat} {victim : Worker J} (h_at : ws[i]? = some w)
    (h_victim : ws[v]? = some victim) (h_ne : i ≠ v) (w' victim' : Worker J)
    (f : Worker J → Nat) :
    total f ((ws.set v victim').set i w') + f w + f victim = total f ws + f w' + f victim' := by
  have h_kept : (ws.set v victim')[i]? = some w :=
    (List.getElem?_set_ne (Ne.symm h_ne)).trans h_at
  have h_robbed := total_set h_victim victim' f
  rw [total_at h_kept] at h_robbed
  rw [total_set h_kept, total_at h_victim]
  omega

end Sums

/-! ## Runs without panics -/

theorem workers_withoutPanics (p : WorkerPool J) (i : Nat) :
    p.withoutPanics.workers[i]? = p.workers[i]?.map Worker.withoutPanics :=
  List.getElem?_map ..

/-- Without the panics that no worker dies of a pool makes the same moves, and each leads to the
same pool but for these panics. -/
theorem step_withoutPanics (p : WorkerPool J) (m : PoolMove J) :
    p.withoutPanics.step m.withoutPanic = (p.step m).map withoutPanics := by
  cases m with
  | submit | shutdown => rfl
  | takeOwn i | finish i | release i | stop i =>
    simp only [step, PoolMove.withoutPanic, workers_withoutPanics]
    cases p.workers[i]? with
    | none => rfl
    | some w =>
      obtain ⟨queue, phase, executed, panicked, stolen⟩ := w
      cases phase <;> cases queue <;>
        simp [withoutPanics, Worker.withoutPanics, Worker.hasDied, setWorker, Worker.job?,
          Worker.isIdle]
  | count i =>
    simp only [step, PoolMove.withoutPanic, workers_withoutPanics]
    cases p.workers[i]? with
    | none => rfl
    | some w =>
      obtain ⟨queue, phase, executed, panicked, stolen⟩ := w
      -- The panic that a worker dies of is still counted, and no other.
      cases phase with
      | ended how =>
        cases how <;>
          simp [withoutPanics, Worker.withoutPanics, Worker.hasDied, setWorker,
            JobEnd.withoutPanic, JobEnd.isFatal, JobEnd.isPanic]
      | _ => rfl
  | takeShared i more =>
    simp only [step, PoolMove.withoutPanic, workers_withoutPanics]
    cases p.workers[i]? with
    | none => rfl
    | some w =>
      obtain ⟨queue, phase, executed, panicked, stolen⟩ := w
      -- Only an idle worker with an empty queue takes from the shared one.
      cases phase with
      | idle =>
        cases queue with
        | nil =>
          cases h_shared : p.shared <;>
            simp [withoutPanics, Worker.withoutPanics, Worker.hasDied, setWorker, h_shared]
        | cons => rfl
      | _ => rfl
  | steal i v more =>
    simp only [step, PoolMove.withoutPanic, workers_withoutPanics]
    cases p.workers[i]? with
    | none => rfl
    | some w =>
      cases p.workers[v]? with
      | none => rfl
      | some victim =>
        obtain ⟨queue, phase, executed, panicked, stolen⟩ := w
        obtain ⟨queue', phase', executed', panicked', stolen'⟩ := victim
        cases phase with
        | idle =>
          cases queue with
          | nil =>
            cases queue' <;>
              simp [withoutPanics, Worker.withoutPanics, Worker.hasDied, setWorker]
          | cons => rfl
        | _ => rfl

theorem run_withoutPanics (p : WorkerPool J) (moves : List (PoolMove J)) :
    p.withoutPanics.run (moves.map PoolMove.withoutPanic) =
      (p.run moves).map withoutPanics := by
  induction moves generalizing p with
  | nil => rfl
  | cons m moves ih =>
    simp only [List.map_cons, run, List.foldlM_cons, step_withoutPanics]
    cases p.step m with
    | none => rfl
    | some p' => exact ih p'

/-- Which jobs panic has no influence on a run but for the panics themselves, if no worker dies of
them. -/
theorem exists_run_of_withoutPanic {moves moves' : List (PoolMove J)}
    (h_same : moves'.map PoolMove.withoutPanic = moves.map PoolMove.withoutPanic)
    (h_run : p.run moves = some p') :
    ∃ q, p.run moves' = some q ∧ q.withoutPanics = p'.withoutPanics := by
  have h_plain := run_withoutPanics p moves'
  rw [h_same, run_withoutPanics p moves, h_run, Option.map_some] at h_plain
  exact Option.map_eq_some_iff.1 h_plain.symm

end WorkerPool

end KernelDispatch
