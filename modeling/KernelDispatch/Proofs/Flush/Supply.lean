/-
  KernelDispatch.Proofs.Flush.Supply

  Where the artifacts come from that a flush runs.

  A slot that has settled keeps its content until the flush is over
  (`SlotChange.settled_stays`). An artifact that a launch job runs stands in the
  slot of its record's task, and it stays there; so the history of a flush tells
  which slots hold artifacts (`Supplied`). What the flush schedules it has requested
  for one of its records (`requested_of_run`).
-/
import KernelDispatch.Proofs.Flush.Consistency
import KernelDispatch.Proofs.Flush.Contents

namespace KernelDispatch.State

variable {C : Type} {cfg : Settings} {env : Environment C} {s s' t : State C} {f f' : Flush C}
  {es fs : List (Event C)}

/-- A settled slot keeps its content during a flush. -/
theorem SlotChange.settled_stays (h : SlotChange s s' es) (h_f' : s'.current ≠ none) {k : TaskId}
    {slot : Slot (Artifact C)} (h_slot : s.store.slot? k = some slot)
    (h_settled : slot.isPending = false) : s'.store.slot? k = some slot := by
  cases h with
  | still h_slots =>
    rw [h_slots]
    exact h_slot
  | @scheduled _ r _ _ _ _ h_new h_slots =>
    rw [h_slots, if_neg]
    · exact h_slot
    · rintro rfl
      simp [h_new] at h_slot
  | @settled job _ _ _ h_slots =>
    rw [h_slots, if_neg]
    · exact h_slot
    · rintro ⟨rfl, h_pending⟩
      rw [ArtifactStore.isPending_iff, h_slot] at h_pending
      cases h_pending
      simp [Slot.isPending] at h_settled
  | @polled _ found _ _ _ _ _ h_slots =>
    rw [h_slots]
    split
    · rw [h_slot, Option.map_some, h_settled]
      rfl
    · exact h_slot
  | cleared h_idle => exact absurd h_idle h_f'

/-- The artifacts that launch jobs hold, and those that the flush in progress has run, stand in the
slots of their tasks. -/
structure Supplied (s : State C) (es : List (Event C)) : Prop where
  holding : ∀ job ∈ s.lane, ∀ since artifact, job.phase = .holding since artifact →
    s.store.slot? job.key = some (.ready artifact)
  ran : ∀ f, s.current = some f → ∀ seq r artifact result,
    Event.ran f.number seq r artifact result ∈ es →
      f.batch[seq]? = some r ∧ s.store.slot? r.key = some (.ready artifact)

/-- Between flushes there is nothing to supply. -/
theorem Supplied.of_idle (h_layout : Layout cfg s) (h_idle : s.current = none) : Supplied s es where
  holding job h_job := by simp [h_layout.idle h_idle] at h_job
  ran f h_f := by simp [h_idle] at h_f

/-- A launch job that holds an artifact after a move held it before, or the move has found it. -/
theorem LauncherStep.holding {job : LaunchJob C} {rest : List (LaunchJob C)}
    (h_lane : s.lane = job :: rest) (h_step : LauncherStep cfg env s job rest s' es)
    {other : LaunchJob C} (h_other : other ∈ s'.lane) {since : Moment} {artifact : Artifact C}
    (h_phase : other.phase = .holding since artifact) :
    other ∈ s.lane ∨ s.store.slot? other.key = some (.ready artifact) := by
  have h_rest (h_mem : other ∈ rest) : other ∈ s.lane := by
    rw [h_lane]
    exact List.mem_cons_of_mem _ h_mem
  cases h_step with
  | waits =>
    rcases List.mem_cons.1 h_other with rfl | h_other
    · cases h_phase
    · exact .inl (h_rest h_other)
  | finds _ h_slot =>
    rcases List.mem_cons.1 h_other with rfl | h_other
    · cases h_phase
      exact .inr h_slot
    · exact .inl (h_rest h_other)
  | overflows | misses | mutes | expires | completes | panics | loses => exact .inl (h_rest h_other)
  | aborts => exact .inl h_other

theorem Transition.holding {m : Move C} (h_step : Transition cfg env s m s' es)
    {other : LaunchJob C} (h_other : other ∈ s'.lane) {since : Moment} {artifact : Artifact C}
    (h_phase : other.phase = .holding since artifact) :
    other ∈ s.lane ∨ s.store.slot? other.key = some (.ready artifact) := by
  cases h_step with
  | caller h_current h_step =>
    cases h_step with
    | submits =>
      rcases List.mem_append.1 h_other with h_old | h_new
      · exact .inl h_old
      · obtain rfl := List.mem_singleton.1 h_new
        cases h_phase
    | _ => exact .inl h_other
  | worker h_running h_job h_step => exact .inl (h_step.samePlan.lane ▸ h_other)
  | launcher h_lane h_step => exact h_step.holding h_lane h_other h_phase
  | _ => exact .inl h_other

/-- An artifact runs for the first launch job, which holds it. -/
theorem Transition.of_ran {m : Move C} (h_step : Transition cfg env s m s' es) {n seq : Nat}
    {r : Record C} {artifact : Artifact C} {result : Execution C}
    (h_ran : Event.ran n seq r artifact result ∈ es) :
    ∃ job rest since, s.lane = job :: rest ∧ job.phase = .holding since artifact ∧
      job.flush = n ∧ job.seq = seq ∧ job.record = r ∧
      artifact.code s.runs r.context = result := by
  have h_loud : (Event.ran n seq r artifact result).isLaunch = true := rfl
  cases h_step with
  | @launcher job rest _ _ h_lane h_step =>
    cases h_step with
    | completes h_phase h_result | panics h_phase h_result | loses h_phase h_result =>
      simp only [List.mem_cons, reduceCtorEq, List.not_mem_nil, or_false, Event.ran.injEq] at h_ran
      obtain ⟨rfl, rfl, rfl, rfl, rfl⟩ := h_ran
      exact ⟨job, rest, _, h_lane, h_phase, rfl, rfl, rfl, h_result⟩
    | _ => simp at h_ran
  | caller h_current h_step => simp [h_step.quiet _ h_ran] at h_loud
  | worker h_running h_job h_step => simp [h_step.quiet _ h_ran] at h_loud
  | _ => simp at h_ran

theorem Transition.supplied {m : Move C} (h : Supplied s fs) (h_consistent : Consistent cfg s fs)
    (h_step : Transition cfg env s m s' es) : Supplied s' (fs ++ es) := by
  by_cases h_idle : s'.current = none
  · exact .of_idle (h_step.consistent h_consistent).layout h_idle
  have h_stays {k : TaskId} {artifact : Artifact C}
      (h_slot : s.store.slot? k = some (.ready artifact)) :
      s'.store.slot? k = some (.ready artifact) :=
    h_step.slotChange.settled_stays h_idle h_slot rfl
  constructor
  · intro job h_job since artifact h_phase
    rcases h_step.holding h_job h_phase with h_old | h_found
    · exact h_stays (h.holding job h_old since artifact h_phase)
    · exact h_stays h_found
  · intro f' h_f' seq r artifact result h_ran
    rcases List.mem_append.1 h_ran with h_old | h_new
    · rcases h_step.flush_origin h_f' with ⟨-, f, h_f, h_number, h_batch⟩ | ⟨-, -, rfl, -⟩
      · rw [h_number] at h_old
        obtain ⟨h_place, h_slot⟩ := h.ran f h_f seq r artifact result h_old
        rw [h_batch]
        exact ⟨h_place, h_stays h_slot⟩
      · exact absurd rfl (h_consistent.dated.ne h_old (Nat.lt_succ_self s.flushes))
    · -- The launch job that runs its artifact has held it, and it has its record's place.
      obtain ⟨job, rest, since, h_lane, h_phase, -, rfl, rfl, -⟩ := h_step.of_ran h_new
      obtain ⟨f, h_f⟩ := h_consistent.layout.exists_flush h_lane
      have h_layout := h_consistent.layout.inFlush f h_f
      have h_job : job ∈ s.lane := by simp [h_lane]
      have h_batch : f'.batch = f.batch := by
        rcases h_step.flush_origin h_f' with ⟨-, f₁, h_f₁, -, h_batch⟩ | ⟨-, h_none, -⟩
        · obtain rfl := Option.some.inj (h_f.symm.trans h_f₁)
          exact h_batch
        · simp [h_none] at h_f
      rw [h_batch, ← (h_layout.own job h_job).2]
      exact ⟨h_layout.record_at h_lane, h_stays (h.holding job h_job since artifact h_phase)⟩

theorem supplied_of_run {ms : List (Move C)} {es : List (Stamped C)} (h_rested : Rested s)
    (h_run : run cfg env s ms = some (t, es)) : Supplied t (history es) := by
  have h_start : Consistent cfg s [] := h_rested.consistent
  exact consistent_induction (P := fun t es => Supplied t es) h_rested
    (.of_idle h_start.layout h_rested.idle)
    (fun h_consistent h_supplied h_step => h_step.supplied h_supplied h_consistent) h_run

/-! ## Tasks that are requested -/

/-- The flush in progress has requested every task that it has scheduled. -/
def Requested (s : State C) (es : List (Event C)) : Prop :=
  ∀ f, s.current = some f → ∀ j key, Event.scheduled f.number j key ∈ es → key ∈ f.keys

/-- What a flush has requested it never forgets. -/
theorem Transition.keys_subset {m : Move C} (h_step : Transition cfg env s m s' es)
    (h_f : s.current = some f) (h_f' : s'.current = some f') : f.keys ⊆ f'.keys := by
  have h_same (h_current : s'.current.map Flush.outline = s.current.map Flush.outline) :
      f.keys ⊆ f'.keys := by
    rw [h_f, h_f'] at h_current
    have h_outline : f'.outline = f.outline := Option.some.inj h_current
    have h_keys : f.outline.keys = f'.outline.keys := by rw [h_outline]
    intro k h_k
    change k ∈ f'.outline.keys
    rwa [← h_keys]
  cases h_step with
  | enqueue | dropArtifacts | returns | pick | tick => exact h_same rfl
  | begins h_idle => simp [h_idle] at h_f
  | worker h_running h_job h_step => exact h_same h_step.samePlan.current
  | launcher h_lane h_step => exact h_same h_step.plan.2.2
  | caller h_current h_step =>
    obtain rfl := Option.some.inj (h_current.symm.trans h_f)
    cases h_step with
    | schedules | shares | reuses =>
      obtain rfl := Option.some.inj h_f'
      exact List.subset_append_left _ _
    | unwinds | abandons | succeeds | fails => simp [closed] at h_f'
    | _ =>
      obtain rfl := Option.some.inj h_f'
      exact List.Subset.refl _

theorem Transition.requested {m : Move C} (h : Requested s fs) (h_dated : Dated s fs)
    (h_step : Transition cfg env s m s' es) : Requested s' (fs ++ es) := by
  intro f' h_f' j key h_scheduled
  rcases List.mem_append.1 h_scheduled with h_old | h_new
  · rcases h_step.flush_origin h_f' with ⟨-, f, h_f, h_number, -⟩ | ⟨-, -, rfl, -⟩
    · rw [h_number] at h_old
      exact h_step.keys_subset h_f h_f' (h f h_f j key h_old)
    · exact absurd rfl (h_dated.ne h_old (Nat.lt_succ_self s.flushes))
  · obtain ⟨f, r, rest, -, -, -, rfl, -, -, -, h_current⟩ := h_step.of_scheduled h_new
    obtain rfl := Option.some.inj (h_current.symm.trans h_f')
    exact List.mem_append_right _ (List.mem_singleton_self _)

theorem requested_of_run {ms : List (Move C)} {es : List (Stamped C)} (h_rested : Rested s)
    (h_run : run cfg env s ms = some (t, es)) : Requested t (history es) := by
  refine consistent_induction (P := fun t es => Requested t es) h_rested ?_
    (fun h_consistent h_requested h_step => h_step.requested h_requested h_consistent.dated) h_run
  intro f h_f
  simp [h_rested.idle] at h_f

end KernelDispatch.State
