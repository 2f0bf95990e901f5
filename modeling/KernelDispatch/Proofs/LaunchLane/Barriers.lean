/-
  KernelDispatch.Proofs.LaunchLane.Barriers

  The launch lane runs its jobs one at a time, in order, and a barrier waits for the
  jobs before it.

  What the launch thread has taken and what it has not make up what has been
  accepted, for the jobs and for the barriers (`Orderly`). A barrier that has not
  been acknowledged has its place in the queue, with a number of jobs and barriers
  ahead of it that only the launch thread changes, and each of its moves lowers
  (`Ahead`). Most panics are marks on the jobs that have ended and nothing else
  (`run_withoutPanics`); but if the payload of one panics when it is dropped, the
  thread dies, and what it has not taken is lost (`Lost`). Together these say what a
  lane owes to its callers after every run (`Serves`), and that a job can deprive
  them of it (`one_job_ends_the_lane`).
-/
import Mathlib.Data.List.Induction
import Mathlib.Data.List.TakeWhile
import KernelDispatch.LaunchLane

namespace KernelDispatch

variable {J : Type}

namespace LaneMove

/-- The job that is handed in by a move. -/
def submitted? : LaneMove J → Option J
  | submit j => some j
  | _ => none

/-- Whether a move is the launch thread's. -/
def isThread : LaneMove J → Bool
  | take | finish _ => true
  | _ => false

/-- The move in which no job panics unless the launch thread dies of it. -/
def withoutPanic : LaneMove J → LaneMove J
  | finish how => finish how.withoutPanic
  | m => m

/-- Whether a lane accepts nothing after a move: it is closed, or its thread dies. -/
def isLast : LaneMove J → Bool
  | close => true
  | finish how => how.isFatal
  | _ => false

end LaneMove

/-- The job in a message. -/
def LaneMessage.job? : LaneMessage J → Option J
  | job j => some j
  | barrier _ => none

/-- The barrier in a message. -/
def LaneMessage.ticket? : LaneMessage J → Option Nat
  | job _ => none
  | barrier t => some t

namespace LaunchLane

/-- The jobs that are handed in by a sequence of moves. -/
def submittedIn (ms : List (LaneMove J)) : List J :=
  ms.filterMap LaneMove.submitted?

/-- Those of them that are handed in before the lane is closed and before its thread dies. -/
def accepted (ms : List (LaneMove J)) : List J :=
  submittedIn (ms.takeWhile fun m => !m.isLast)

/-- The jobs in a queue. -/
def jobsIn (q : List (LaneMessage J)) : List J :=
  q.filterMap LaneMessage.job?

/-- The barriers in a queue. -/
def ticketsIn (q : List (LaneMessage J)) : List Nat :=
  q.filterMap LaneMessage.ticket?

/-- The messages that the launch thread has not taken: they are still in the queue, or were when it
died. -/
def untaken (l : LaunchLane J) : List (LaneMessage J) :=
  l.dropped ++ l.queue

/-- The lane as it is if no job has panicked; what its thread has died of is not changed. -/
def withoutPanics (l : LaunchLane J) : LaunchLane J :=
  { l with ended := l.ended.map fun e => (e.1, false) }

/-- The launch thread has something to do: it can take a message or exit, or its job can end, in
whatever way. -/
def CanMove (l : LaunchLane J) : Prop :=
  (l.step .take).isSome = true ∨ ∀ how, (l.step (.finish how)).isSome = true

/-! ## The moves, one rule each -/

/-- The rules of the moves. -/
inductive LaneStep (l : LaunchLane J) : LaneMove J → LaunchLane J → Prop where
  | submits (j : J) : l.refusal? = none →
      LaneStep l (.submit j) { l with queue := l.queue ++ [.job j] }
  | refusesJob (j : J) {failure : Failure} : l.refusal? = some failure →
      LaneStep l (.submit j) l
  | setsUp : l.refusal? = none →
      LaneStep l .barrier
        { l with queue := l.queue ++ [.barrier l.tickets], tickets := l.tickets + 1 }
  | refusesBarrier {failure : Failure} : l.refusal? = some failure → LaneStep l .barrier l
  | closes : LaneStep l .close l.close
  | starts {j : J} {rest : List (LaneMessage J)} :
      l.running = none → l.exited = false → l.died = false → l.queue = .job j :: rest →
      LaneStep l .take { l with queue := rest, running := some j, started := l.started ++ [j] }
  | acknowledges {t : Nat} {rest : List (LaneMessage J)} :
      l.running = none → l.exited = false → l.died = false → l.queue = .barrier t :: rest →
      LaneStep l .take { l with queue := rest, acknowledged := l.acknowledged ++ [t] }
  | exits : l.running = none → l.died = false → l.queue = [] → l.accepting = false →
      LaneStep l .take { l with exited := true }
  | ends {j : J} {how : JobEnd} : l.running = some j → how.isFatal = false →
      LaneStep l (.finish how)
        { l with running := none, ended := l.ended ++ [(j, how.isPanic)] }
  | dies {j : J} : l.running = some j →
      LaneStep l (.finish .fatal)
        { l with
          running := none
          ended := l.ended ++ [(j, true)]
          died := true
          queue := []
          dropped := l.queue }

variable {l l' : LaunchLane J} {m : LaneMove J} {ms : List (LaneMove J)}

theorem refusal?_eq_none : l.refusal? = none ↔ l.accepting = true ∧ l.died = false := by
  unfold refusal?
  cases l.accepting <;> cases l.died <;> simp

theorem laneStep_of_take (h : l.take? = some l') : LaneStep l .take l' := by
  unfold take? at h
  split at h
  · contradiction
  · next h_free =>
    obtain ⟨⟨h_running, h_exited⟩, h_alive⟩ :
        (l.running = none ∧ l.exited = false) ∧ l.died = false := by simpa using h_free
    split at h
    · next h_queue =>
      obtain rfl := Option.some.inj h
      exact .starts h_running h_exited h_alive h_queue
    · next h_queue =>
      obtain rfl := Option.some.inj h
      exact .acknowledges h_running h_exited h_alive h_queue
    · next h_queue =>
      split at h
      · contradiction
      · next h_closed =>
        obtain rfl := Option.some.inj h
        exact .exits h_running h_alive h_queue (by simpa using h_closed)

theorem laneStep_of_finish {how : JobEnd} (h : l.finish? how = some l') :
    LaneStep l (.finish how) l' := by
  obtain ⟨j, h_running, rfl⟩ := Option.map_eq_some_iff.1 h
  cases how with
  | returned | panicked => exact .ends h_running rfl
  | fatal => exact .dies h_running

theorem laneStep_of_step (h : l.step m = some l') : LaneStep l m l' := by
  cases m with
  | submit j =>
    obtain rfl := Option.some.inj h
    cases h_refusal : l.refusal? with
    | none => simpa [submit, h_refusal, Except.toOption] using LaneStep.submits j h_refusal
    | some failure =>
      simpa [submit, h_refusal, Except.toOption] using LaneStep.refusesJob j h_refusal
  | barrier =>
    obtain rfl := Option.some.inj h
    cases h_refusal : l.refusal? with
    | none => simpa [barrier, h_refusal, Except.toOption] using LaneStep.setsUp h_refusal
    | some failure =>
      simpa [barrier, h_refusal, Except.toOption] using LaneStep.refusesBarrier h_refusal
  | close =>
    obtain rfl := Option.some.inj h
    exact .closes
  | take => exact laneStep_of_take h
  | finish how => exact laneStep_of_finish h

/-! ## Runs -/

theorem run_cons_eq_some :
    l.run (m :: ms) = some l' ↔ ∃ l₁, l.step m = some l₁ ∧ l₁.run ms = some l' := by
  simp [run, List.foldlM_cons, Option.bind_eq_some_iff]

theorem run_append_eq_some {ms' : List (LaneMove J)} :
    l.run (ms ++ ms') = some l' ↔ ∃ l₁, l.run ms = some l₁ ∧ l₁.run ms' = some l' := by
  simp [run, List.foldlM_append, Option.bind_eq_some_iff]

/-- What holds at first and is kept by each move holds after a run. -/
theorem run_induction {P : List (LaneMove J) → LaunchLane J → Prop} {l₀ : LaunchLane J}
    (h_start : P [] l₀)
    (h_step : ∀ ms l m l', P ms l → LaneStep l m l' → P (ms ++ [m]) l')
    (h_run : l₀.run ms = some l) : P ms l := by
  induction ms using List.reverseRecOn generalizing l with
  | nil =>
    obtain rfl := Option.some.inj h_run
    exact h_start
  | append_singleton ms m ih =>
    obtain ⟨l₁, h_before, h_last⟩ := run_append_eq_some.1 h_run
    obtain ⟨l₂, h_move, h_end⟩ := run_cons_eq_some.1 h_last
    obtain rfl : l₂ = l := Option.some.inj h_end
    exact h_step ms l₁ m l₂ (ih h_before) (laneStep_of_step h_move)

/-! ## What has been taken and what is still in the queue -/

theorem jobsIn_append (q q' : List (LaneMessage J)) : jobsIn (q ++ q') = jobsIn q ++ jobsIn q' :=
  List.filterMap_append

theorem ticketsIn_append (q q' : List (LaneMessage J)) :
    ticketsIn (q ++ q') = ticketsIn q ++ ticketsIn q' :=
  List.filterMap_append

@[simp]
theorem jobsIn_barrier (t : Nat) (q : List (LaneMessage J)) :
    jobsIn (.barrier t :: q) = jobsIn q := rfl

@[simp]
theorem jobsIn_job (j : J) (q : List (LaneMessage J)) : jobsIn (.job j :: q) = j :: jobsIn q := rfl

@[simp]
theorem ticketsIn_barrier (t : Nat) (q : List (LaneMessage J)) :
    ticketsIn (.barrier t :: q) = t :: ticketsIn q := rfl

@[simp]
theorem ticketsIn_job (j : J) (q : List (LaneMessage J)) :
    ticketsIn (.job j :: q) = ticketsIn q := rfl

@[simp]
theorem jobsIn_nil : jobsIn ([] : List (LaneMessage J)) = [] := rfl

@[simp]
theorem ticketsIn_nil : ticketsIn ([] : List (LaneMessage J)) = [] := rfl

/-- Nothing in a sequence of moves keeps a lane from accepting messages. -/
def IsOpen (ms : List (LaneMove J)) : Prop :=
  LaneMove.close ∉ ms ∧ LaneMove.finish .fatal ∉ ms

theorem isOpen_iff : IsOpen ms ↔ ∀ m ∈ ms, (!m.isLast) = true := by
  have h_last (m : LaneMove J) : (!m.isLast) = true ↔ m ≠ .close ∧ m ≠ .finish .fatal := by
    cases m with
    | finish how => cases how <;> simp [LaneMove.isLast, JobEnd.isFatal]
    | _ => simp [LaneMove.isLast]
  simp only [h_last, IsOpen]
  exact ⟨fun h m h_m => ⟨fun h_eq => h.1 (h_eq ▸ h_m), fun h_eq => h.2 (h_eq ▸ h_m)⟩,
    fun h => ⟨fun h_m => (h _ h_m).1 rfl, fun h_m => (h _ h_m).2 rfl⟩⟩

theorem accepted_of_open (h_open : IsOpen ms) : accepted ms = submittedIn ms := by
  rw [accepted, List.takeWhile_eq_self_iff.2 (isOpen_iff.1 h_open)]

theorem accepted_append_of_not_open (h_last : ¬IsOpen ms) (ms' : List (LaneMove J)) :
    accepted (ms ++ ms') = accepted ms := by
  have h_short : (ms.takeWhile fun m => !m.isLast).length ≠ ms.length := fun h_length =>
    h_last (isOpen_iff.2 (List.takeWhile_eq_self_iff.1
      ((List.takeWhile_prefix _).eq_of_length h_length)))
  rw [accepted, List.takeWhile_append, if_neg h_short, accepted]

/-- The state of a lane after a sequence of moves. -/
structure Orderly (ms : List (LaneMove J)) (l : LaunchLane J) : Prop where
  accepting : l.accepting = true ↔ LaneMove.close ∉ ms
  died : l.died = true ↔ LaneMove.finish .fatal ∈ ms
  jobs : l.started ++ jobsIn l.untaken = accepted ms
  serial : l.started = l.ended.map Prod.fst ++ l.running.toList
  tickets : l.acknowledged ++ ticketsIn l.untaken = List.range l.tickets
  exited : l.exited = true →
    l.accepting = false ∧ l.queue = [] ∧ l.running = none ∧ l.died = false
  gone : l.died = true → l.queue = [] ∧ l.running = none
  kept : l.died = false → l.dropped = []

theorem Orderly.isOpen_iff (h : Orderly ms l) : IsOpen ms ↔ l.refusal? = none := by
  rw [refusal?_eq_none, h.accepting, ← Bool.not_eq_true, h.died, IsOpen]

/-- The job that a lane accepts by a move. -/
def acceptedBy (l : LaunchLane J) (m : LaneMove J) : List J :=
  if l.refusal?.isNone then m.submitted?.toList else []

theorem accepting_step (h : LaneStep l m l') :
    l'.accepting = true ↔ l.accepting = true ∧ m ≠ .close := by
  cases h <;> simp_all [close]

theorem died_step (h : LaneStep l m l') :
    l'.died = true ↔ l.died = true ∨ m = .finish .fatal := by
  cases h with
  | @ends j how h_running h_survives =>
    have h_ne : how ≠ .fatal := by
      rintro rfl
      cases h_survives
    simp [h_ne]
  | _ => simp [close]

/-- A thread that runs a job is alive. -/
theorem alive_of_running (h_gone : l.died = true → l.queue = [] ∧ l.running = none) {j : J}
    (h_running : l.running = some j) : l.died = false :=
  Bool.eq_false_iff.2 fun h_died => by simp [(h_gone h_died).2] at h_running

/-- A move adds the job that it accepts to those that have started and those still to be taken. -/
theorem jobs_step (h : LaneStep l m l') (h_kept : l.died = false → l.dropped = [])
    (h_gone : l.died = true → l.queue = [] ∧ l.running = none) :
    l'.started ++ jobsIn l'.untaken = l.started ++ jobsIn l.untaken ++ l.acceptedBy m := by
  cases h with
  | submits j h_open =>
    simp [untaken, acceptedBy, h_open, jobsIn_append, LaneMove.submitted?]
  | refusesJob j h_refused => simp [acceptedBy, h_refused]
  | setsUp => simp [untaken, acceptedBy, LaneMove.submitted?, jobsIn_append]
  | starts _ _ h_alive h_queue | acknowledges _ _ h_alive h_queue =>
    simp [untaken, acceptedBy, LaneMove.submitted?, h_kept h_alive, h_queue]
  | dies h_running =>
    have h_alive := alive_of_running h_gone h_running
    simp [untaken, acceptedBy, LaneMove.submitted?, h_kept h_alive]
  | refusesBarrier | closes | exits | ends =>
    simp [untaken, acceptedBy, LaneMove.submitted?, close]

theorem tickets_step (h : LaneStep l m l') (h_kept : l.died = false → l.dropped = [])
    (h_gone : l.died = true → l.queue = [] ∧ l.running = none)
    (h_tickets : l.acknowledged ++ ticketsIn l.untaken = List.range l.tickets) :
    l'.acknowledged ++ ticketsIn l'.untaken = List.range l'.tickets := by
  cases h with
  | submits => simpa [untaken, ticketsIn_append] using h_tickets
  | setsUp =>
    have h_untaken : l.dropped ++ (l.queue ++ [.barrier l.tickets]) =
        l.untaken ++ [.barrier l.tickets] := (List.append_assoc ..).symm
    rw [untaken, h_untaken, ticketsIn_append, ← List.append_assoc, h_tickets, List.range_succ]
    rfl
  | starts _ _ h_alive h_queue | acknowledges _ _ h_alive h_queue =>
    simpa [untaken, h_kept h_alive, h_queue] using h_tickets
  | dies h_running =>
    have h_alive := alive_of_running h_gone h_running
    simpa [untaken, h_kept h_alive] using h_tickets
  | refusesJob | refusesBarrier | closes | exits | ends => exact h_tickets

/-- A job starts when none is running, so the jobs that have started have ended but the one that
is running. -/
theorem serial_step (h : LaneStep l m l')
    (h_serial : l.started = l.ended.map Prod.fst ++ l.running.toList) :
    l'.started = l'.ended.map Prod.fst ++ l'.running.toList := by
  cases h with
  | starts h_free | ends h_free | dies h_free => simpa [h_free] using h_serial
  | submits | refusesJob | setsUp | refusesBarrier | closes | acknowledges | exits =>
    exact h_serial

theorem exited_step (h : LaneStep l m l')
    (h_exited : l.exited = true →
      l.accepting = false ∧ l.queue = [] ∧ l.running = none ∧ l.died = false) :
    l'.exited = true →
      l'.accepting = false ∧ l'.queue = [] ∧ l'.running = none ∧ l'.died = false := by
  cases h with
  | submits _ h_open | setsUp h_open =>
    exact fun h => absurd (h_exited h).1 (by simp [(refusal?_eq_none.1 h_open).1])
  | refusesJob | refusesBarrier => exact h_exited
  | closes => exact fun h => ⟨rfl, (h_exited h).2⟩
  | starts _ h_awake | acknowledges _ h_awake => exact fun h => absurd h (by simp [h_awake])
  | exits h_free h_alive h_queue h_closed => exact fun _ => ⟨h_closed, h_queue, h_free, h_alive⟩
  | ends h_running | dies h_running =>
    exact fun h => absurd (h_exited h).2.2.1 (by simp [h_running])

theorem gone_step (h : LaneStep l m l')
    (h_gone : l.died = true → l.queue = [] ∧ l.running = none) :
    l'.died = true → l'.queue = [] ∧ l'.running = none := by
  cases h with
  | submits _ h_open | setsUp h_open =>
    exact fun h => absurd h (by simp [(refusal?_eq_none.1 h_open).2])
  | starts _ _ h_alive | acknowledges _ _ h_alive | exits _ h_alive =>
    exact fun h => absurd h (by simp [h_alive])
  | ends => exact fun h => ⟨(h_gone h).1, rfl⟩
  | dies => exact fun _ => ⟨rfl, rfl⟩
  | refusesJob | refusesBarrier | closes => exact h_gone

theorem kept_step (h : LaneStep l m l') (h_kept : l.died = false → l.dropped = []) :
    l'.died = false → l'.dropped = [] := by
  cases h with
  | dies => exact fun h => nomatch h
  | _ => exact h_kept

theorem Orderly.accepted_concat (h : Orderly ms l) (m : LaneMove J) :
    accepted (ms ++ [m]) = accepted ms ++ l.acceptedBy m := by
  rw [acceptedBy]
  split
  · next h_refusal =>
    have h_open := h.isOpen_iff.2 (Option.isNone_iff_eq_none.1 h_refusal)
    rw [accepted_of_open h_open, accepted,
      List.takeWhile_append_of_pos (LaunchLane.isOpen_iff.1 h_open), submittedIn,
      List.filterMap_append]
    congr 1
    cases m with
    | finish how => cases how <;> rfl
    | _ => rfl
  · next h_refusal =>
    have h_last : ¬IsOpen ms := mt h.isOpen_iff.1 (mt Option.isNone_iff_eq_none.2 h_refusal)
    rw [accepted_append_of_not_open h_last, List.append_nil]

theorem Orderly.step (h : Orderly ms l) (h_rule : LaneStep l m l') :
    Orderly (ms ++ [m]) l' where
  accepting := by
    rw [accepting_step h_rule, h.accepting]
    simp [eq_comm]
  died := by
    rw [died_step h_rule, h.died]
    simp [eq_comm]
  jobs := by rw [jobs_step h_rule h.kept h.gone, h.jobs, h.accepted_concat]
  serial := serial_step h_rule h.serial
  tickets := tickets_step h_rule h.kept h.gone h.tickets
  exited := exited_step h_rule h.exited
  gone := gone_step h_rule h.gone
  kept := kept_step h_rule h.kept

theorem orderly_of_run (h_run : run {} ms = some l) : Orderly ms l := by
  refine run_induction ?_ (fun _ _ _ _ h h_rule => h.step h_rule) h_run
  exact ⟨by simp, by simp, rfl, rfl, rfl, by simp, by simp, by simp⟩

/-! ## A barrier and what is ahead of it -/

/-- The barrier `t`, with the jobs `before` handed in before it, is in the queue, and the launch
thread gets to it in `n` moves at most. -/
def Ahead (t : Nat) (before : List J) (n : Nat) (l : LaunchLane J) : Prop :=
  ∃ q rest, l.queue = q ++ .barrier t :: rest ∧ l.started ++ jobsIn q = before ∧
    l.acknowledged ++ ticketsIn q = List.range t ∧
    2 * q.length + l.running.toList.length < n

/-- The barrier `t` has been acknowledged, and the jobs `before` have ended. -/
def Passed (t : Nat) (before : List J) (l : LaunchLane J) : Prop :=
  t ∈ l.acknowledged ∧ before <+: l.ended.map Prod.fst

/-- The launch thread has died of one of the jobs `before` and has not got to the barrier `t`. -/
def Lost (t : Nat) (before : List J) (l : LaunchLane J) : Prop :=
  t ∉ l.acknowledged ∧ l.died = true ∧ l.running = none ∧ l.ended.map Prod.fst <+: before

theorem Ahead.not_acknowledged {t n : Nat} {before : List J} (h : Ahead t before n l) :
    t ∉ l.acknowledged := by
  obtain ⟨q, rest, -, -, h_tickets, -⟩ := h
  intro h_t
  have h_range : t ∈ List.range t := h_tickets ▸ List.mem_append_left _ h_t
  exact absurd (List.mem_range.1 h_range) (Nat.lt_irrefl t)

theorem Ahead.mono {t n n' : Nat} {before : List J} (h : Ahead t before n l) (h_le : n ≤ n') :
    Ahead t before n' l := by
  obtain ⟨q, rest, h_queue, h_jobs, h_tickets, h_n⟩ := h
  exact ⟨q, rest, h_queue, h_jobs, h_tickets, Nat.lt_of_lt_of_le h_n h_le⟩

theorem Passed.step {t : Nat} {before : List J} (h : Passed t before l)
    (h_rule : LaneStep l m l') : Passed t before l' := by
  obtain ⟨h_t, h_before⟩ := h
  cases h_rule with
  | acknowledges => exact ⟨List.mem_append_left _ h_t, h_before⟩
  | ends | dies =>
    refine ⟨h_t, h_before.trans ?_⟩
    rw [List.map_append]
    exact List.prefix_append ..
  | submits | refusesJob | setsUp | refusesBarrier | closes | starts | exits =>
    exact ⟨h_t, h_before⟩

theorem Lost.step {t : Nat} {before : List J} (h : Lost t before l)
    (h_rule : LaneStep l m l') : Lost t before l' := by
  obtain ⟨h_t, h_died, h_free, h_before⟩ := h
  cases h_rule with
  | starts _ _ h_alive | acknowledges _ _ h_alive => simp [h_died] at h_alive
  | ends h_running | dies h_running => simp [h_free] at h_running
  | submits | refusesJob | setsUp | refusesBarrier | closes | exits =>
    exact ⟨h_t, h_died, h_free, h_before⟩

/-- A move of the launch thread brings it nearer to the barrier or past it, or it dies; no other
move changes what is ahead. -/
theorem Ahead.step {t n : Nat} {before : List J} (h : Ahead t before (n + m.isThread.toNat) l)
    (h_serial : l.started = l.ended.map Prod.fst ++ l.running.toList)
    (h_rule : LaneStep l m l') :
    Ahead t before n l' ∨ Passed t before l' ∨ Lost t before l' := by
  have h_unacknowledged := h.not_acknowledged
  obtain ⟨q, rest, h_queue, h_jobs, h_tickets, h_n⟩ := h
  cases h_rule with
  | submits | setsUp =>
    exact .inl ⟨q, rest ++ [_], by rw [h_queue, List.append_assoc]; rfl, h_jobs, h_tickets, h_n⟩
  | refusesJob | refusesBarrier | closes => exact .inl ⟨q, rest, h_queue, h_jobs, h_tickets, h_n⟩
  | @starts j _ h_free _ _ h_first =>
    cases q with
    | nil => simp [h_queue] at h_first
    | cons a q =>
      obtain ⟨rfl, rfl⟩ := List.cons.inj (h_first.symm.trans h_queue)
      refine .inl ⟨q, rest, rfl, by simpa using h_jobs, h_tickets, ?_⟩
      simp [h_free, LaneMove.isThread] at h_n ⊢
      omega
  | @acknowledges u _ h_free _ _ h_first =>
    cases q with
    | nil =>
      obtain ⟨h_u, rfl⟩ := List.cons.inj (h_first.symm.trans h_queue)
      obtain rfl : u = t := by simpa using h_u
      refine .inr (.inl ⟨by simp, ?_⟩)
      -- No job is running, so all jobs before the barrier have ended.
      rw [← h_jobs, h_serial, h_free]
      simp
    | cons a q =>
      obtain ⟨rfl, rfl⟩ := List.cons.inj (h_first.symm.trans h_queue)
      refine .inl ⟨q, rest, rfl, h_jobs, by simpa using h_tickets, ?_⟩
      simp [h_free, LaneMove.isThread] at h_n ⊢
      omega
  | exits _ _ h_empty => simp [h_empty] at h_queue
  | ends h_running =>
    refine .inl ⟨q, rest, h_queue, h_jobs, h_tickets, ?_⟩
    simp [h_running, LaneMove.isThread] at h_n ⊢
    omega
  | @dies j h_running =>
    -- The job has started, so it is one of those before the barrier.
    refine .inr (.inr ⟨h_unacknowledged, rfl, rfl, ?_⟩)
    rw [← h_jobs, h_serial, h_running, List.map_append]
    exact List.prefix_append ..

/-- The number of moves that the launch thread makes. -/
def threadMoves (ms : List (LaneMove J)) : Nat :=
  ms.countP LaneMove.isThread

theorem Passed.run {t : Nat} {before : List J} (h : Passed t before l)
    (h_run : l.run ms = some l') : Passed t before l' := by
  refine run_induction (P := fun _ l => Passed t before l) h ?_ h_run
  exact fun _ _ _ _ h h_rule => h.step h_rule

theorem Lost.run {t : Nat} {before : List J} (h : Lost t before l)
    (h_run : l.run ms = some l') : Lost t before l' := by
  refine run_induction (P := fun _ l => Lost t before l) h ?_ h_run
  exact fun _ _ _ _ h h_rule => h.step h_rule

theorem Ahead.run {t n : Nat} {before : List J} (h : Ahead t before (n + threadMoves ms) l)
    (h_serial : l.started = l.ended.map Prod.fst ++ l.running.toList)
    (h_run : l.run ms = some l') :
    Ahead t before n l' ∨ Passed t before l' ∨ Lost t before l' := by
  induction ms generalizing l with
  | nil =>
    obtain rfl := Option.some.inj h_run
    exact .inl h
  | cons m ms ih =>
    obtain ⟨l₁, h_step, h_rest⟩ := run_cons_eq_some.1 h_run
    have h_rule := laneStep_of_step h_step
    have h_moves : n + threadMoves (m :: ms) = n + threadMoves ms + m.isThread.toNat := by
      simp only [threadMoves, List.countP_cons, Nat.add_assoc]
      cases m.isThread <;> rfl
    rw [h_moves] at h
    rcases h.step h_serial h_rule with h_ahead | h_passed | h_lost
    · exact ih h_ahead (serial_step h_rule h_serial) h_rest
    · exact .inr (.inl (h_passed.run h_rest))
    · exact .inr (.inr (h_lost.run h_rest))

/-- The launch thread can move as long as it lives and a message is in the queue, and when the lane
is closed until it has exited. -/
theorem canMove_of_awake (h_awake : l.exited = false) (h_alive : l.died = false)
    (h_work : l.queue ≠ [] ∨ l.accepting = false) : l.CanMove := by
  cases h_running : l.running with
  | some j => exact .inr fun how => by simp [LaunchLane.step, finish?, h_running]
  | none =>
    left
    cases h_queue : l.queue with
    | nil =>
      have h_closed := h_work.resolve_left (fun h_ne => h_ne h_queue)
      simp [LaunchLane.step, take?, h_running, h_awake, h_alive, h_queue, h_closed]
    | cons a q =>
      cases a <;> simp [LaunchLane.step, take?, h_running, h_awake, h_alive, h_queue]

/-- A barrier that is set up while the lane accepts messages gets behind all that is in the
queue. -/
theorem Orderly.ahead (h : Orderly ms l) (h_open : l.refusal? = none) :
    ∃ l₁, l.barrier = .ok (l.tickets, l₁) ∧ l.step .barrier = some l₁ ∧
      Ahead l.tickets (submittedIn ms) (2 * l.queue.length + 2) l₁ := by
  let l₁ : LaunchLane J :=
    { l with queue := l.queue ++ [.barrier l.tickets], tickets := l.tickets + 1 }
  have h_barrier : l.barrier = .ok (l.tickets, l₁) := by rw [barrier, h_open]
  have h_untaken : l.untaken = l.queue := by
    rw [untaken, h.kept (refusal?_eq_none.1 h_open).2, List.nil_append]
  have h_jobs := h.jobs
  have h_tickets := h.tickets
  rw [h_untaken] at h_jobs h_tickets
  refine ⟨l₁, h_barrier, ?_, l.queue, [], rfl, ?_, h_tickets, ?_⟩
  · rw [LaunchLane.step, h_barrier]
    rfl
  · exact h_jobs.trans (accepted_of_open (h.isOpen_iff.2 h_open))
  · show 2 * l.queue.length + l.running.toList.length < 2 * l.queue.length + 2
    cases l.running <;> simp

/-! ## Runs without panics -/

/-- Without the panics that its thread does not die of a lane makes the same moves, and each leads
to the same lane but for the panics. -/
theorem step_withoutPanics (l : LaunchLane J) (m : LaneMove J) :
    (l.withoutPanics.step m.withoutPanic).map withoutPanics = (l.step m).map withoutPanics := by
  have h_twice : l.withoutPanics.withoutPanics = l.withoutPanics := by simp [withoutPanics]
  cases m with
  | submit j =>
    simp only [LaunchLane.step, LaneMove.withoutPanic, submit]
    rw [show l.withoutPanics.refusal? = l.refusal? from rfl]
    cases l.refusal? <;> simp [Except.toOption, withoutPanics]
  | barrier =>
    simp only [LaunchLane.step, LaneMove.withoutPanic, barrier]
    rw [show l.withoutPanics.refusal? = l.refusal? from rfl]
    cases l.refusal? <;> simp [Except.toOption, withoutPanics]
  | close => simp [LaunchLane.step, LaneMove.withoutPanic, close, withoutPanics]
  | take =>
    simp only [LaunchLane.step, LaneMove.withoutPanic, take?]
    rw [show l.withoutPanics.running = l.running from rfl,
      show l.withoutPanics.exited = l.exited from rfl, show l.withoutPanics.died = l.died from rfl,
      show l.withoutPanics.queue = l.queue from rfl,
      show l.withoutPanics.accepting = l.accepting from rfl]
    split
    · rfl
    · split
      · simp [withoutPanics]
      · simp [withoutPanics]
      · split <;> simp [withoutPanics]
  | finish how =>
    cases h : l.running <;> cases how <;>
      simp [LaunchLane.step, finish?, LaneMove.withoutPanic, withoutPanics, JobEnd.withoutPanic,
        JobEnd.isFatal, h]

/-- Lanes that differ in their panics only are still so after moves that do. -/
theorem run_withoutPanics {ms' : List (LaneMove J)} (h_lane : l'.withoutPanics = l.withoutPanics)
    (h_same : ms'.map LaneMove.withoutPanic = ms.map LaneMove.withoutPanic) :
    (l'.run ms').map withoutPanics = (l.run ms).map withoutPanics := by
  induction ms generalizing ms' l l' with
  | nil =>
    obtain rfl := List.map_eq_nil_iff.1 h_same
    simpa [LaunchLane.run] using h_lane
  | cons m ms ih =>
    obtain ⟨m', ms', rfl, h_m, h_ms⟩ := List.map_eq_cons_iff.1 h_same
    have h_step : (l'.step m').map withoutPanics = (l.step m).map withoutPanics := by
      rw [← step_withoutPanics l', ← step_withoutPanics l, h_lane, h_m]
    simp only [LaunchLane.run, List.foldlM_cons]
    cases h' : l'.step m' <;> cases h : l.step m <;> rw [h', h] at h_step
    · rfl
    · cases h_step
    · cases h_step
    · exact ih (Option.some.inj h_step) h_ms

/-- Which jobs panic has no influence on a run but for the panics themselves, if the thread does not
die of them. -/
theorem exists_run_of_withoutPanic {ms' : List (LaneMove J)}
    (h_same : ms'.map LaneMove.withoutPanic = ms.map LaneMove.withoutPanic)
    (h_run : l.run ms = some l') :
    ∃ l₁, l.run ms' = some l₁ ∧ l₁.withoutPanics = l'.withoutPanics := by
  have h_runs := run_withoutPanics (l := l) rfl h_same
  rw [h_run, Option.map_some] at h_runs
  exact Option.map_eq_some_iff.1 h_runs

/-! ## A thread that has died -/

/-- The launch thread is gone, and nothing is left of its queue. -/
def IsGone (l : LaunchLane J) : Prop :=
  l.died = true ∧ l.queue = [] ∧ l.running = none

/-- The thread has not done anything from one lane to the other. -/
def SameWork (l l' : LaunchLane J) : Prop :=
  l'.started = l.started ∧ l'.ended = l.ended ∧ l'.acknowledged = l.acknowledged

theorem IsGone.step (h : l.IsGone) (h_rule : LaneStep l m l') : l'.IsGone ∧ l.SameWork l' := by
  obtain ⟨h_died, h_queue, h_free⟩ := h
  cases h_rule with
  | submits _ h_open | setsUp h_open => simp [(refusal?_eq_none.1 h_open).2] at h_died
  | starts _ _ h_alive | acknowledges _ _ h_alive | exits _ h_alive => simp [h_died] at h_alive
  | ends h_running | dies h_running => simp [h_free] at h_running
  | refusesJob | refusesBarrier | closes => exact ⟨⟨h_died, h_queue, h_free⟩, rfl, rfl, rfl⟩

theorem IsGone.run (h : l.IsGone) (h_run : l.run ms = some l') : l'.IsGone ∧ l.SameWork l' := by
  refine run_induction (P := fun _ l' => l'.IsGone ∧ l.SameWork l') ⟨h, rfl, rfl, rfl⟩ ?_ h_run
  rintro ms l₁ m l₂ ⟨h_gone, h_started, h_ended, h_acknowledged⟩ h_rule
  obtain ⟨h_gone', h_started', h_ended', h_acknowledged'⟩ := h_gone.step h_rule
  exact ⟨h_gone', h_started'.trans h_started, h_ended'.trans h_ended,
    h_acknowledged'.trans h_acknowledged⟩

/-! ## What a lane owes to its callers -/

/-- What happens to a barrier that is set up after the moves `ms₁` and followed by `ms₂`: it gets
a ticket; when that is acknowledged, the jobs handed in before have ended; it fails only if the
thread has died, of one of these jobs; and until then the launch thread can move and has only so
many moves to make. -/
def Answered (ms₁ ms₂ : List (LaneMove J)) (l : LaunchLane J) : Prop :=
  ∃ l₁ t l₂, run {} ms₁ = some l₁ ∧ l₁.barrier = .ok (t, l₂) ∧ l₂.run ms₂ = some l ∧
    (l.answer? t = some (.ok ()) → submittedIn ms₁ <+: l.ended.map Prod.fst) ∧
    (∀ failure, l.answer? t = some (.error failure) → failure = droppedFailure ∧
      l.died = true ∧ l.ended.map Prod.fst <+: submittedIn ms₁) ∧
    (l.answer? t = none → l.CanMove ∧ threadMoves ms₂ ≤ 2 * l₁.queue.length + 1)

/-- A lane that refuses every message, which changes nothing. -/
def Refuses (l : LaunchLane J) (failure : Failure) : Prop :=
  (∀ j, l.submit j = .error failure ∧ l.step (.submit j) = some l) ∧
    l.barrier = .error failure ∧ l.step .barrier = some l

theorem refuses_of_refusal {failure : Failure} (h : l.refusal? = some failure) :
    l.Refuses failure := by
  have h_submit (j : J) : l.submit j = .error failure := by rw [submit, h]
  have h_barrier : l.barrier = .error failure := by rw [barrier, h]
  refine ⟨fun j => ⟨h_submit j, ?_⟩, h_barrier, ?_⟩
  · rw [LaunchLane.step, h_submit]
    rfl
  · rw [LaunchLane.step, h_barrier]
    rfl

/-- What holds of a lane after a sequence of moves. -/
structure Serves (ms : List (LaneMove J)) (l : LaunchLane J) : Prop where
  /-- Jobs start in the order in which they were handed in. -/
  order : l.started ++ jobsIn l.untaken = accepted ms
  /-- Only the job that started last can be running; the others have ended. -/
  serial : l.started = l.ended.map Prod.fst ++ l.running.toList
  /-- Barriers that are set up before the lane is closed and its thread has died are acknowledged
  behind the jobs, or fail with the thread. -/
  barriers : ∀ ms₁ ms₂, ms = ms₁ ++ .barrier :: ms₂ → IsOpen ms₁ → Answered ms₁ ms₂ l
  /-- If other jobs panic, the same moves are possible and lead to the same lane, but for which
  jobs panicked. What the thread dies of is not changed. -/
  panics : ∀ ms' : List (LaneMove J),
    ms'.map LaneMove.withoutPanic = ms.map LaneMove.withoutPanic →
    ∃ l', run {} ms' = some l' ∧ l'.withoutPanics = l.withoutPanics
  /-- The thread dies of nothing but a panic whose payload panics, and until then loses nothing. -/
  died : l.died = true ↔ LaneMove.finish .fatal ∈ ms
  kept : l.died = false → l.untaken = l.queue
  /-- It does nothing any more when it has died, and the lane tells its callers so until it is
  closed. -/
  gone : l.died = true → l.running = none ∧
    (∀ more l', l.run more = some l' → l.SameWork l') ∧
    (LaneMove.close ∉ ms → l.Refuses goneFailure)
  /-- The launch thread exits after the lane was closed and all jobs before that have ended. -/
  exits : l.exited = true → LaneMove.close ∈ ms ∧ l.ended.map Prod.fst = accepted ms
  /-- A closed lane refuses every message, and closing it again changes nothing; its thread goes
  on until it exits or dies. -/
  closed : LaneMove.close ∈ ms →
    l.Refuses closedFailure ∧ l.step .close = some l ∧
    (l.exited = false → l.died = false → l.CanMove)

theorem answer?_of_acknowledged {t : Nat} (h : t ∈ l.acknowledged) :
    l.answer? t = some (.ok ()) := if_pos h

theorem answer?_of_not_acknowledged {t : Nat} (h : t ∉ l.acknowledged) :
    l.answer? t = if l.died then some (.error droppedFailure) else none := if_neg h

theorem answered_of_run {ms₁ ms₂ : List (LaneMove J)}
    (h_run : run {} (ms₁ ++ .barrier :: ms₂) = some l) (h_open : IsOpen ms₁) :
    Answered ms₁ ms₂ l := by
  obtain ⟨l₁, h_before, h_rest⟩ := run_append_eq_some.1 h_run
  obtain ⟨l₂, h_step, h_after⟩ := run_cons_eq_some.1 h_rest
  have h_orderly := orderly_of_run h_before
  obtain ⟨l₃, h_barrier, h_set, h_ahead⟩ := h_orderly.ahead (h_orderly.isOpen_iff.1 h_open)
  obtain rfl : l₃ = l₂ := Option.some.inj (h_set.symm.trans h_step)
  have h_serial := serial_step (laneStep_of_step h_step) h_orderly.serial
  have h_fate {n : Nat} (h_n : 2 * l₁.queue.length + 2 ≤ n + threadMoves ms₂) :=
    (h_ahead.mono h_n).run h_serial h_after
  refine ⟨l₁, l₁.tickets, l₃, h_before, h_barrier, h_after, ?_⟩
  have h_orderly' := orderly_of_run h_run
  rcases h_fate (Nat.le_add_right _ _) with h_still | ⟨h_t, h_ended⟩ | ⟨h_t, h_died, -, h_ended⟩
  · have h_t := h_still.not_acknowledged
    -- The thread lives: a dead one has no queue.
    obtain ⟨q, rest, h_queue, -⟩ := h_still
    have h_ne : l.queue ≠ [] := by simp [h_queue]
    have h_alive : l.died = false := by simpa using fun h => h_ne (h_orderly'.gone h).1
    have h_awake : l.exited = false := by simpa using fun h => h_ne (h_orderly'.exited h).2.1
    have h_answer : l.answer? l₁.tickets = none := by
      rw [answer?_of_not_acknowledged h_t, h_alive]
      rfl
    refine ⟨by simp [h_answer], by simp [h_answer], fun _ =>
      ⟨canMove_of_awake h_awake h_alive (.inl h_ne), Nat.le_of_not_lt fun h_many => ?_⟩⟩
    -- So many moves would have brought the thread past the barrier.
    rcases h_fate (n := 0) (by omega) with ⟨q, rest, -, -, -, h_n⟩ | h_passed | h_lost
    · exact absurd h_n (Nat.not_lt_zero _)
    · exact h_t h_passed.1
    · simp [Lost, h_alive] at h_lost
  · have h_answer := answer?_of_acknowledged h_t
    exact ⟨fun _ => h_ended, by simp [h_answer], by simp [h_answer]⟩
  · have h_answer : l.answer? l₁.tickets = some (.error droppedFailure) := by
      rw [answer?_of_not_acknowledged h_t, h_died]
      rfl
    refine ⟨by simp [h_answer], fun failure h_failure => ?_, by simp [h_answer]⟩
    rw [h_answer] at h_failure
    cases h_failure
    exact ⟨rfl, h_died, h_ended⟩

/-- A lane serves its callers after every sequence of moves. -/
theorem serves_its_callers (h_run : run {} ms = some l) : Serves ms l := by
  have h_orderly := orderly_of_run h_run
  exact
    { order := h_orderly.jobs
      serial := h_orderly.serial
      barriers := fun ms₁ ms₂ h_split h_open => answered_of_run (h_split ▸ h_run) h_open
      panics := fun ms' h_same => exists_run_of_withoutPanic h_same h_run
      died := h_orderly.died
      kept := fun h_alive => by rw [untaken, h_orderly.kept h_alive, List.nil_append]
      gone := fun h_died => by
        obtain ⟨h_queue, h_free⟩ := h_orderly.gone h_died
        have h_gone : l.IsGone := ⟨h_died, h_queue, h_free⟩
        refine ⟨h_free, fun more l' h_more => (h_gone.run h_more).2, fun h_open => ?_⟩
        exact refuses_of_refusal (by simp [refusal?, h_orderly.accepting.2 h_open, h_died])
      exits := fun h_exited => by
        obtain ⟨h_closed, h_queue, h_free, h_alive⟩ := h_orderly.exited h_exited
        refine ⟨not_not.1 fun h_open => ?_, ?_⟩
        · exact absurd (h_orderly.accepting.2 h_open) (by simp [h_closed])
        · rw [← h_orderly.jobs, h_orderly.serial, untaken, h_orderly.kept h_alive, h_queue, h_free]
          simp
      closed := fun h_close => by
        have h_closed : l.accepting = false := by
          simpa using mt h_orderly.accepting.1 (not_not.2 h_close)
        refine ⟨refuses_of_refusal (by simp [refusal?, h_closed]), ?_, fun h_awake h_alive =>
          canMove_of_awake h_awake h_alive (.inr h_closed)⟩
        rw [LaunchLane.step, close, ← h_closed] }

/-- Three jobs, of which the second panics, with a barrier after the second; the lane is closed
with the third job in the queue, and what comes later is refused. -/
theorem three_jobs_are_served :
    ∃ (ms : List (LaneMove Nat)) (l : LaunchLane Nat),
      run {} ms = some l ∧ l.ended = [(0, false), (1, true), (2, false)] ∧
      l.acknowledged = [0] ∧ l.exited = true ∧ Serves ms l := by
  let ms : List (LaneMove Nat) :=
    [.submit 0, .take, .submit 1, .barrier, .finish .returned, .take, .submit 2,
      .finish .panicked, .take, .close, .submit 3, .take, .barrier, .close, .finish .returned,
      .take]
  have h_summary : (run {} ms).map (fun l => (l.ended, l.acknowledged, l.exited)) =
      some ([(0, false), (1, true), (2, false)], [0], true) := by decide
  obtain ⟨l, h_run, h_l⟩ := Option.map_eq_some_iff.1 h_summary
  simp only [Prod.mk.injEq] at h_l
  obtain ⟨h_ended, h_acknowledged, h_exited⟩ := h_l
  exact ⟨ms, l, h_run, h_ended, h_acknowledged, h_exited, serves_its_callers h_run⟩

/-- Two jobs and a barrier. The first job panics, and what its panic has carried panics when the
thread drops it: though nobody has closed the lane, the barrier fails, every further message is
refused, and the second job is never run. -/
theorem one_job_ends_the_lane :
    ∃ l : LaunchLane Nat,
      run {} [.submit 0, .submit 1, .barrier, .take, .finish .fatal] = some l ∧
      l.accepting = true ∧ l.ended = [(0, true)] ∧
      l.answer? 0 = some (.error droppedFailure) ∧ l.Refuses goneFailure ∧
      ∀ more l', l.run more = some l' → l'.started = [0] ∧ l'.acknowledged = [] := by
  refine ⟨_, rfl, rfl, rfl, rfl, refuses_of_refusal rfl, fun more l' h_more => ?_⟩
  obtain ⟨-, h_started, -, h_acknowledged⟩ := IsGone.run ⟨rfl, rfl, rfl⟩ h_more
  exact ⟨h_started, h_acknowledged⟩

end LaunchLane

end KernelDispatch
