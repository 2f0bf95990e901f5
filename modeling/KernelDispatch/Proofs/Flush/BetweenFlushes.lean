/-
  KernelDispatch.Proofs.Flush.BetweenFlushes

  What a dispatcher holds while no flush is in progress.

  Every way out of a flush but a panic of its caller goes through the retention, which
  keeps no more entries than it allows (`ArtifactStore.size_retain_le`), and nothing
  between flushes adds an entry (`Transition.size_le`): a compile job that has outlived
  its flush finds no pending slot to settle. So between flushes the store holds artifacts
  only, as many as the retention allows, each from a call of the code generator for
  its task, and a call of `flush` that returns leaves nothing enqueued
  (`between_flushes`).
-/
import KernelDispatch.Proofs.ArtifactStore.Retention
import KernelDispatch.Proofs.Flush.Leaving

namespace KernelDispatch

namespace ArtifactStore

variable {A : Type}

theorem size_settle (s : ArtifactStore A) (k : TaskId) (content : Slot A) :
    (s.settle k content).2.size = s.size := by
  unfold settle
  split
  · simp only [mapEntries, size, List.length_map]
  · rfl

end ArtifactStore

namespace State

variable {C : Type} {cfg : Settings} {env : Environment C} {s s' t : State C} {f : Flush C}
  {es : List (Event C)}

/-- Between flushes no entry comes to the store. -/
theorem Transition.size_le {m : Move C} (h_step : Transition cfg env s m s' es)
    (h_idle : s.current = none) (h_idle' : s'.current = none) : s'.store.size ≤ s.store.size := by
  cases h_step with
  | begins => cases h_idle'
  | caller h_current => simp [h_idle] at h_current
  | dropArtifacts => exact Nat.zero_le _
  | worker _ _ h_step =>
    cases h_step with
    | settles => exact Nat.le_of_eq (ArtifactStore.size_settle ..)
    | _ => exact Nat.le_refl _
  | launcher _ h_step => cases h_step <;> exact Nat.le_refl _
  | _ => exact Nat.le_refl _

/-- Without a panic of the caller, the store keeps to the limit of the retention between flushes. -/
theorem size_le_when_idle_of_run {threads : Nat} {now : Moment} {ms : List (Move C)}
    {es : List (Stamped C)} (h_run : run cfg env (start threads now) ms = some (t, es))
    (h_calm : Calm (history es)) (h_idle : t.current = none) :
    t.store.size ≤ cfg.retention.limit := by
  refine history_induction (P := fun _ t es => Calm es → t.current = none →
    t.store.size ≤ cfg.retention.limit) (fun _ _ => Nat.zero_le _) ?_ h_run h_calm h_idle
  intro ms m t es u fs _ _ h_before h_step h_calm h_idle
  obtain ⟨h_calm_before, h_calm_now⟩ := h_calm.of_append
  cases h_current : t.current with
  | none =>
    exact Nat.le_trans (h_step.size_le h_current h_idle) (h_before h_calm_before h_current)
  | some f =>
    rw [((h_step.caller_of_leaves h_current h_idle).retained h_idle h_calm_now).2]
    exact ArtifactStore.size_retain_le ..

/-- A move on which a call of `flush` returns leaves nothing enqueued. -/
theorem Transition.emptied_of_returned {m : Move C} {result : Except Failure Report}
    (h_step : Transition cfg env s m s' es) (h_returned : Event.returned result ∈ es) :
    s'.current = none ∧ s'.backlog = [] := by
  cases h_step with
  | returns h_idle h_empty => exact ⟨h_idle, h_empty⟩
  | caller _ h_step =>
    cases h_step with
    | abandons | succeeds | fails => exact ⟨rfl, rfl⟩
    | schedules | shares | reuses => simp at h_returned
    | _ => simp [joinedEvent] at h_returned
  | worker _ _ h_step => cases h_step <;> simp at h_returned
  | launcher _ h_step => cases h_step <;> simp at h_returned
  | _ => simp at h_returned

/-- At every moment between flushes, whatever the flushes before it have come to and whatever
compile jobs have outlived them, unless a caller has panicked: every entry of the store is an
artifact, and that is what a call of the code generator for the task of the entry has come to; the
store is empty if artifacts are kept until the flush ends, and it holds no more entries than are
kept across flushes. A move on which a call of `flush` returns, with or without a failure, leaves
nothing enqueued. -/
theorem between_flushes {threads : Nat} {now : Moment} {ms : List (Move C)}
    {hs : List (Stamped C)} (h_run : run cfg env (start threads now) ms = some (t, hs))
    (h_calm : Calm (history hs)) :
    (t.current = none →
      (∀ e ∈ t.store.entries, ∃ artifact n, e.slot = .ready artifact ∧
        Built env (history hs) n e.key artifact.origin (.code artifact.code)) ∧
      (cfg.retention = .untilFlushEnds → t.store.entries = []) ∧
      ∀ maxEntries, cfg.retention = .acrossFlushes maxEntries → t.store.size ≤ maxEntries) ∧
    ∀ m u fs result, step cfg env t m = some (u, fs) → Event.returned result ∈ history fs →
      u.current = none ∧ u.backlog = [] := by
  refine ⟨fun h_idle => ?_, fun m u fs result h_step h_returned => ?_⟩
  · have h_size := size_le_when_idle_of_run h_run h_calm h_idle
    refine ⟨fun e h_e => ?_, fun h_retention => ?_, fun maxEntries h_retention => ?_⟩
    · have h_slot := ArtifactStore.slot?_of_mem h_e
      have h_ready := ready_when_idle_of_run h_run h_calm h_idle e.key e.slot h_slot
      cases h_content : e.slot with
      | pending | failed => simp [h_content, Slot.isReady] at h_ready
      | ready artifact =>
        rw [h_content] at h_slot
        obtain ⟨n, h_built⟩ := (traced_of_run h_run).slots e.key artifact h_slot
        exact ⟨artifact, n, rfl, h_built⟩
    · rw [h_retention] at h_size
      exact List.eq_nil_of_length_eq_zero (Nat.le_zero.1 h_size)
    · rw [h_retention] at h_size
      exact h_size
  · obtain ⟨-, es, h_move, rfl⟩ := step_eq_some_iff.1 h_step
    rw [history_stamp] at h_returned
    exact h_move.emptied_of_returned h_returned

/-- A flush that has given up on one of its two tasks returns with a failure, and the compile job
that is left comes to its end after that. -/
def lateJob : List (Move Nat) :=
  [halfCompiled, List.replicate 4 .launcher, [.caller], List.replicate 3 (.worker 0)].flatten

theorem one_artifact_kept_between_flushes :
    ∃ t hs, run { impatient with retention := .acrossFlushes 1 } counted (start 1 0) lateJob =
        some (t, hs) ∧
      Calm (history hs) ∧ t.current = none ∧ t.jobs.length = 0 ∧
      t.store.entries.map Entry.key = [.ofText "a"] ∧ t.store.size ≤ 1 ∧
      (∀ e ∈ t.store.entries, ∃ artifact n, e.slot = .ready artifact ∧
        Built counted (history hs) n e.key artifact.origin (.code artifact.code)) ∧
      ∀ m u fs result, step { impatient with retention := .acrossFlushes 1 } counted t m =
        some (u, fs) → Event.returned result ∈ history fs → u.current = none ∧ u.backlog = [] := by
  have h_summary : (run { impatient with retention := .acrossFlushes 1 } counted (start 1 0)
      lateJob).map (fun r => (answers (history r.2), r.1.current.isNone, r.1.jobs.length,
        r.1.store.entries.map Entry.key)) =
      some ([.returned (.error (.unfinished 1 2 (.compileOverdue 1 (.ofNanos 1))))], true, 0,
        [.ofText "a"]) := rfl
  obtain ⟨⟨t, hs⟩, h_run, h_eq⟩ := Option.map_eq_some_iff.1 h_summary
  simp only [Prod.mk.injEq] at h_eq
  obtain ⟨h_answers, h_none, h_jobs, h_keys⟩ := h_eq
  have h_idle : t.current = none := Option.isNone_iff_eq_none.1 h_none
  have h_calm : Calm (history hs) := by
    intro message h_unwound
    have h_answer := mem_answers.2 ⟨h_unwound, rfl⟩
    rw [h_answers] at h_answer
    simp at h_answer
  obtain ⟨h_between, h_returns⟩ := between_flushes h_run h_calm
  obtain ⟨h_entries, -, h_size⟩ := h_between h_idle
  exact ⟨t, hs, h_run, h_calm, h_idle, h_jobs, h_keys, h_size 1 rfl, h_entries, h_returns⟩

end State

end KernelDispatch
