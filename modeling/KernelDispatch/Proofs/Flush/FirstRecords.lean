/-
  KernelDispatch.Proofs.Flush.FirstRecords

  The record that a compile job is submitted for.

  A flush requests the tasks of its records in order, and a task that it has requested
  has a slot until the flush is over. So the record for which a task is scheduled is the
  first one of its flush with that task: the compile job bears the kernel of that record,
  and the jobs of a flush are numbered in the order in which their tasks first occur in
  the batch (`enrolled_of_run`).
-/
import KernelDispatch.Proofs.Flush.Readiness
import KernelDispatch.Proofs.Flush.Requests
import KernelDispatch.Proofs.Flush.Supply

namespace KernelDispatch

variable {C : Type} {cfg : Settings} {env : Environment C}

/-! ## Batches -/

/-- The records of flush `n` in the event that it begins. -/
def Event.batch? (n : Nat) : Event C → Option (List (Record C))
  | began flush batch => if flush = n then some batch else none
  | _ => none

/-- The records of flush `n`, if that has begun. -/
def batchIn? (n : Nat) (es : List (Event C)) : Option (List (Record C)) :=
  es.findSome? (Event.batch? n)

/-- The first record of flush `n` with a task. -/
def firstRecord? (n : Nat) (key : TaskId) (es : List (Event C)) : Option (Record C) :=
  (batchIn? n es).bind fun batch => batch.find? (·.key = key)

theorem batchIn?_extend {n : Nat} {es : List (Event C)} {batch : List (Record C)}
    (h : batchIn? n es = some batch) (fs : List (Event C)) :
    batchIn? n (es ++ fs) = some batch := by
  rw [batchIn?, List.findSome?_append, show es.findSome? (Event.batch? n) = some batch from h]
  rfl

theorem firstRecord?_extend {n : Nat} {key : TaskId} {es : List (Event C)} {r : Record C}
    (h : firstRecord? n key es = some r) (fs : List (Event C)) :
    firstRecord? n key (es ++ fs) = some r := by
  obtain ⟨batch, h_batch, h_first⟩ := Option.bind_eq_some_iff.1 h
  exact Option.bind_eq_some_iff.2 ⟨batch, batchIn?_extend h_batch fs, h_first⟩

/-- A task that is next and has not come before stands behind those that have, and its record is the
first one with it. -/
theorem first_of_new {batch : List (Record C)} {keys : List TaskId} {r : Record C}
    {rest : List (Record C)} (h_split : keys ++ (r :: rest).map Record.key = batch.map Record.key)
    (h_new : r.key ∉ keys) (h_next : r :: rest <:+ batch) :
    batch.find? (·.key = r.key) = some r ∧
      ∀ k ∈ keys, (batch.map Record.key).idxOf k < (batch.map Record.key).idxOf r.key := by
  constructor
  · obtain ⟨past, rfl⟩ := h_next
    rw [List.map_append, List.append_cancel_right_eq] at h_split
    rw [List.find?_eq_some_iff_append]
    refine ⟨by simp, past, rest, rfl, fun x h_x => ?_⟩
    have h_mem : x.key ∈ keys := h_split ▸ List.mem_map_of_mem h_x
    simpa using fun h_key : x.key = r.key => h_new (h_key ▸ h_mem)
  · intro k h_k
    rw [← h_split, List.idxOf_append_of_mem h_k, List.idxOf_append_of_notMem h_new]
    exact Nat.lt_of_lt_of_le (List.idxOf_lt_length_iff.2 h_k) (Nat.le_add_right ..)

namespace State

variable {s s' t : State C} {f : Flush C} {es fs : List (Event C)}

/-! ## Compile jobs and their records -/

/-- A compile job bears the kernel of the first record of its flush with its task. -/
def Heads (es : List (Event C)) (job : CompileJob C) : Prop :=
  (firstRecord? job.flush job.key es).map Record.kernel = some job.kernel

theorem Heads.extend {job : CompileJob C} (h : Heads es job) (fs : List (Event C)) :
    Heads (es ++ fs) job := by
  obtain ⟨r, h_first, h_kernel⟩ := Option.map_eq_some_iff.1 h
  rw [Heads, firstRecord?_extend h_first fs, Option.map_some, h_kernel]

theorem Heads.of_sameJob {job job' : CompileJob C} (h : Heads es job) (h_same : SameJob job job') :
    Heads es job' := by
  obtain ⟨-, h_flush, h_kernel, h_key⟩ := h_same
  rw [Heads, h_flush, h_key, h_kernel]
  exact h

/-- The compile jobs of a flush stand for the first records with their tasks, in order. -/
structure Enrolled (s : State C) (es : List (Event C)) : Prop where
  batch : ∀ f, s.current = some f → batchIn? f.number es = some f.batch
  left : ∀ f rest, s.current = some f → f.stage = .requesting rest → rest <:+ f.batch
  heads : ∀ job ∈ s.jobs, Heads es job
  order : ∀ n j k j' k', Event.scheduled n j k ∈ es → Event.scheduled n j' k' ∈ es → j < j' →
    ∃ batch, batchIn? n es = some batch ∧
      (batch.map Record.key).idxOf k < (batch.map Record.key).idxOf k'

theorem Transition.enrolled_batch {m : Move C} (h : Enrolled s fs) (h_dated : Dated s fs)
    (h_step : Transition cfg env s m s' es) {f' : Flush C} (h_f' : s'.current = some f') :
    batchIn? f'.number (fs ++ es) = some f'.batch := by
  rcases h_step.flush_origin h_f' with ⟨-, f, h_f, h_number, h_batch⟩ | ⟨-, -, rfl, rfl⟩
  · rw [h_number, h_batch]
    exact batchIn?_extend (h.batch f h_f) es
  · -- The number is new, so no earlier event is that its flush begins.
    have h_none : fs.findSome? (Event.batch? (s.flushes + 1)) = none := by
      refine List.findSome?_eq_none_iff.2 fun e h_e => ?_
      have h_ne := h_dated.ne h_e (Nat.lt_succ_self s.flushes)
      cases e with
      | began =>
        simp only [Event.flush?, ne_eq, Option.some.injEq] at h_ne
        simp [Event.batch?, h_ne]
      | _ => rfl
    rw [batchIn?, List.findSome?_append]
    change Option.or (fs.findSome? (Event.batch? (s.flushes + 1))) _ = _
    rw [h_none]
    simp [Event.batch?, firstFlush]

theorem Transition.enrolled_left {m : Move C} (h : Enrolled s fs)
    (h_step : Transition cfg env s m s' es) {f' : Flush C} {rest' : List (Record C)}
    (h_f' : s'.current = some f') (h_stage' : f'.stage = .requesting rest') :
    rest' <:+ f'.batch := by
  rcases h_step.flush_origin h_f' with ⟨-, f, h_f, -, h_batch⟩ | ⟨-, -, rfl, -⟩
  · rw [h_batch]
    cases h_step.flushChange h_f h_f' with
    | requests h_stage h_eq =>
      subst h_eq
      cases h_stage'
      exact (List.suffix_cons ..).trans (h.left f _ h_f h_stage)
    | begins _ h_eq =>
      subst h_eq
      simp only [Flush.joinFrom] at h_stage'
      split at h_stage' <;> cases h_stage'
    | polls h_stage _ _ h_eq =>
      subst h_eq
      exact absurd (h_stage.symm.trans h_stage') (by simp)
    | advances _ _ h_later => exact absurd ⟨rest', h_stage'⟩ h_later
    | still h_outline =>
      have h_same : f'.stage = f.stage := congrArg (fun g => g.stage) h_outline
      exact h.left f rest' h_f (h_same ▸ h_stage')
  · cases h_stage'
    exact List.suffix_refl _

/-- The record that the caller requests next is the first one with its task if that has no slot. -/
theorem Enrolled.first_of_requesting (h : Enrolled s fs) (h_layout : Layout cfg s)
    (h_known : Known s) (h_f : s.current = some f) {r : Record C} {rest : List (Record C)}
    (h_stage : f.stage = .requesting (r :: rest)) (h_new : s.store.slot? r.key = none) :
    f.batch.find? (·.key = r.key) = some r ∧
      ∀ k ∈ f.keys, (f.batch.map Record.key).idxOf k < (f.batch.map Record.key).idxOf r.key := by
  have h_stages := (h_layout.inFlush f h_f).stage
  simp only [StageLayout, h_stage] at h_stages
  exact first_of_new h_stages.2.2 (fun h_mem => h_known f h_f r.key h_mem h_new)
    (h.left f _ h_f h_stage)

/-- A compile job that has been scheduled has been given its number. -/
theorem Filed.given {n j : Nat} {key : TaskId} (h : Filed s fs j) (h_numbered : Numbered s)
    (h_e : Event.scheduled n j key ∈ fs) : j < s.submitted := by
  have h_mem := mem_file (j := j) h_e (by simp [Event.isAbout])
  cases h with
  | absent _ h_file => simp [h_file] at h_mem
  | opened h_job h_id | settled h_job h_id => exact h_id ▸ h_numbered.given _ h_job
  | reported _ h_given | lost _ h_given => exact h_given

theorem Transition.enrolled {m : Move C} (h : Enrolled s fs) (h_consistent : Consistent cfg s fs)
    (h_filed : ∀ j, Filed s fs j) (h_known : Known s) (h_requested : Requested s fs)
    (h_step : Transition cfg env s m s' es) : Enrolled s' (fs ++ es) := by
  refine ⟨fun f' h_f' => h_step.enrolled_batch h h_consistent.dated h_f',
    fun f' rest' h_f' h_stage' => h_step.enrolled_left h h_f' h_stage', ?_, ?_⟩
  · intro job h_job
    rcases h_step.job_origin h_job with
      ⟨old, h_old, h_same⟩ | ⟨h_scheduled, f, r, rest, h_f, h_stage, rfl⟩
    · exact ((h.heads old h_old).of_sameJob h_same).extend es
    · obtain ⟨_, _, _, -, -, -, -, -, h_new, -⟩ := h_step.of_scheduled h_scheduled
      obtain ⟨h_first, -⟩ :=
        h.first_of_requesting h_consistent.layout h_known h_f h_stage h_new
      have h_head : firstRecord? f.number r.key fs = some r :=
        Option.bind_eq_some_iff.2 ⟨f.batch, h.batch f h_f, h_first⟩
      rw [Heads, firstRecord?_extend h_head es, Option.map_some]
  · intro n j k j' k' h_e h_e' h_lt
    rcases List.mem_append.1 h_e with h_old | h_now
    · rcases List.mem_append.1 h_e' with h_old' | h_now'
      · obtain ⟨batch, h_batch, h_before⟩ := h.order n j k j' k' h_old h_old' h_lt
        exact ⟨batch, batchIn?_extend h_batch es, h_before⟩
      · -- What has been scheduled before has been requested before.
        obtain ⟨f, r, rest, h_f, h_stage, rfl, rfl, -, h_new, -⟩ := h_step.of_scheduled h_now'
        obtain ⟨-, h_behind⟩ :=
          h.first_of_requesting h_consistent.layout h_known h_f h_stage h_new
        exact ⟨f.batch, batchIn?_extend (h.batch f h_f) es,
          h_behind k (h_requested f h_f j k h_old)⟩
    · obtain ⟨_, _, _, -, -, -, -, h_j, -⟩ := h_step.of_scheduled h_now
      rcases List.mem_append.1 h_e' with h_old' | h_now'
      · have h_given := (h_filed j').given h_consistent.numbered h_old'
        omega
      · obtain ⟨_, _, _, -, -, -, -, h_j', -⟩ := h_step.of_scheduled h_now'
        omega

theorem enrolled_of_run {ms : List (Move C)} {es : List (Stamped C)} (h_rested : Rested s)
    (h_run : run cfg env s ms = some (t, es)) : Enrolled t (history es) := by
  refine history_induction (P := fun _ t es => Enrolled t es) ?_ ?_ h_run
  · refine ⟨?_, ?_, by simp [h_rested.jobs], by simp⟩
    all_goals
      intro f
      simp [h_rested.idle]
  · intro ms m t es u fs h_prefix _ h_enrolled h_step
    exact h_step.enrolled h_enrolled (consistent_of_run h_rested h_prefix)
      (filed_of_run h_rested h_prefix) (known_of_run h_rested h_prefix)
      (requested_of_run h_rested h_prefix)

end State

end KernelDispatch
